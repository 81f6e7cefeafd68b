/-
What stands between the scheme and the path of an address. Each mark moves one thing: an at sign the
user, a slash or backslash the path, a question mark the query, and any of those that end an
authority its end. What none of them moves, stays where it was written.
-/

import SignedRest.Proofs.Result
import SignedRest.Proofs.Url.Host
import SignedRest.Url.Reader
import Mathlib.Data.List.TakeWhile

namespace SignedRest.Url

/-! ### Users -/

/-- The user and what follows, of an authority with or without an at sign. -/
def userPart (text : List Char) : List Char × List Char :=
  match lastAt text with
  | some (before, rest) => (before, rest)
  | none => ([], text)

theorem userPart_of_clear {text : List Char} (clear : '@' ∉ text) : userPart text = ([], text) := by
  have passed : ∀ c ∈ text.reverse, decide (c ≠ '@') = true :=
    fun c member => decide_eq_true (ne_of_mem_of_not_mem (List.mem_reverse.mp member) clear)
  rw [userPart, lastAt, List.dropWhile_eq_nil_iff.mpr passed]

theorem userPart_snd (text : List Char) :
    (userPart text).2 = (text.reverse.takeWhile (· ≠ '@')).reverse := by
  have whole := List.takeWhile_append_dropWhile (p := (· ≠ '@')) (l := text.reverse)
  unfold userPart lastAt
  cases dropped : text.reverse.dropWhile (· ≠ '@') with
  | nil =>
      rw [dropped, List.append_nil] at whole
      dsimp only
      rw [whole, List.reverse_reverse]
  | cons mark before => rfl

/-- What stands at the end of an authority and holds no at sign is not part of the user. -/
theorem userPart_ending (front : List Char) {ending : List Char} (clear : '@' ∉ ending) :
    ∃ rest, (userPart (front ++ ending)).2 = rest ++ ending := by
  have passed : ∀ c ∈ ending.reverse, decide (c ≠ '@') = true :=
    fun c member => decide_eq_true (ne_of_mem_of_not_mem (List.mem_reverse.mp member) clear)
  refine ⟨(front.reverse.takeWhile (· ≠ '@')).reverse, ?_⟩
  rw [userPart_snd, List.reverse_append, List.takeWhile_append_of_pos passed, List.reverse_append,
    List.reverse_reverse]

theorem userPart_subset (text : List Char) : (userPart text).2 ⊆ text := by
  intro c member
  rw [userPart_snd, List.mem_reverse] at member
  exact List.mem_reverse.mp ((List.takeWhile_prefix _).subset member)

/-! ### Ports -/

theorem hostPart_join (inBrackets : Bool) (chars : List Char) :
    (hostPart inBrackets chars).1 ++ (hostPart inBrackets chars).2 = chars := by
  induction chars generalizing inBrackets with
  | nil => rfl
  | cons c rest ih =>
      rw [hostPart]
      split
      · rfl
      · exact congrArg (c :: ·) (ih _)

theorem hostPart_colon (inBrackets : Bool) (chars : List Char) :
    (hostPart inBrackets chars).2 = [] ∨ ∃ port, (hostPart inBrackets chars).2 = ':' :: port := by
  induction chars generalizing inBrackets with
  | nil => exact Or.inl rfl
  | cons c rest ih =>
      rw [hostPart]
      split
      · rename_i ends
        exact Or.inr ⟨rest, congrArg (· :: rest) ends.1⟩
      · exact ih _

theorem hostPart_small {front : List Char} (small : Domain.IsSmallName front) (rest : List Char) :
    hostPart false (front ++ rest) =
      (front ++ (hostPart false rest).1, (hostPart false rest).2) := by
  induction front with
  | nil => rfl
  | cons c front ih =>
      obtain ⟨here, later⟩ := List.forall_mem_cons.mp small
      have apart : ∀ mark, Domain.isSmall mark = false → c ≠ mark := by
        rintro mark refused rfl
        rw [here] at refused
        cases refused
      rw [List.cons_append, hostPart, if_neg (fun both => apart ':' (by decide) both.1),
        if_neg (apart '[' (by decide)), if_neg (apart ']' (by decide))]
      dsimp only
      rw [ih later]
      rfl

/-- Whatever a colon before a small ending begins, a dot is in it. -/
theorem hostPart_ending (front : List Char) {ending : List Char}
    (small : Domain.IsSmallName ending) :
    hostPart false (front ++ '.' :: ending) = (front ++ '.' :: ending, []) ∨
      ∃ port, (hostPart false (front ++ '.' :: ending)).2 = ':' :: port ∧ '.' ∈ port := by
  have whole := hostPart_join false (front ++ '.' :: ending)
  rcases hostPart_colon false (front ++ '.' :: ending) with none | ⟨port, some⟩
  · rw [none, List.append_nil] at whole
    exact Or.inl (Prod.ext whole none)
  · refine Or.inr ⟨port, some, ?_⟩
    rw [some, List.append_eq_append_iff] at whole
    rcases whole with ⟨between, _, same⟩ | ⟨between, _, same⟩
    · cases between with
      | nil => exact absurd (List.cons.inj same).1 (by decide)
      | cons colon between =>
          rw [(List.cons.inj same).2]
          exact List.mem_append_right _ List.mem_cons_self
    · have colon : ':' ∈ '.' :: ending := same ▸ List.mem_append_right _ List.mem_cons_self
      rcases List.mem_cons.mp colon with dot | inside
      · exact absurd dot (by decide)
      · exact absurd (small ':' inside) (by decide)

theorem portPart_dotted (scheme : String) {digits : List Char} (dotted : '.' ∈ digits)
    (port : Option Nat) : portPart scheme digits ≠ .ok port := by
  have filled : ¬ digits.isEmpty = true :=
    fun empty => List.ne_nil_of_mem dotted (List.isEmpty_iff.mp empty)
  have undigited : ¬ digits.all Char.isDigit = true :=
    fun all => absurd (List.all_eq_true.mp all '.' dotted) (by decide)
  rw [portPart, if_neg filled, if_neg undigited]
  exact fun impossible => nomatch impossible

/-! ### Authorities of special schemes -/

def authorityText (chars : List Char) : List Char :=
  chars.takeWhile (fun c => !endsAuthority true c)

def afterAuthority (chars : List Char) : List Char :=
  chars.dropWhile (fun c => !endsAuthority true c)

/-- The text of the port, with its colon. -/
def portText (chars : List Char) : List Char :=
  (hostPart false (userPart (authorityText chars)).2).2

theorem readAuthority_special {scheme : String} (special : isSpecial scheme = true)
    {chars after : List Char} {authority : Authority}
    (read : readAuthority scheme chars = .ok (authority, after)) :
    (authority.username, authority.password) = readUser (userPart (authorityText chars)).1 ∧
      specialHost (hostPart false (userPart (authorityText chars)).2).1 = .ok authority.host ∧
      portPart scheme (((portText chars).drop 1).takeWhile (· ≠ '\\')) = .ok authority.port ∧
      after = ((portText chars).drop 1).dropWhile (· ≠ '\\') ++ afterAuthority chars := by
  unfold readAuthority at read
  rw [special] at read
  extract_lets flag text ending at read
  split at read
  rename_i user rest divided
  have parts : user.getD [] = (userPart text).1 ∧ rest = (userPart text).2 := by
    unfold userPart
    cases found : lastAt text with
    | none =>
        rw [found] at divided
        cases divided
        exact ⟨rfl, rfl⟩
    | some pair =>
        rw [found] at divided
        cases divided
        exact ⟨rfl, rfl⟩
  replace read := Result.ok_of_refusal read
  generalize named : readUser (user.getD []) = names at read
  obtain ⟨username, password⟩ := names
  rw [parts.1] at named
  generalize placed : hostPart false rest = place at read
  obtain ⟨hostText, port⟩ := place
  rw [parts.2] at placed
  replace read := Result.ok_of_refusal read
  dsimp -zeta only at read
  rw [if_pos rfl] at read
  obtain ⟨host, found, read⟩ := Result.ok_of_bind read
  obtain ⟨number, ported, read⟩ := Result.ok_of_bind (Result.ok_of_refusal read)
  cases read
  have portSame : portText chars = port := congrArg Prod.snd placed
  rw [portSame]
  refine ⟨named.symm, ?_, ported, rfl⟩
  exact (congrArg (fun pair => specialHost pair.1) placed).trans found

/-! ### What each mark moves -/

section Special

variable {scheme : String} {chars after : List Char} {authority : Authority}

theorem authorityText_subset (chars : List Char) : authorityText chars ⊆ chars :=
  (List.takeWhile_prefix _).subset

theorem portText_subset (chars : List Char) : portText chars ⊆ chars := by
  intro c member
  apply authorityText_subset chars
  apply userPart_subset
  rw [← hostPart_join false (userPart (authorityText chars)).2]
  exact List.mem_append_right _ member

theorem after_subset (special : isSpecial scheme = true)
    (read : readAuthority scheme chars = .ok (authority, after)) : after ⊆ chars := by
  obtain ⟨_, _, _, same⟩ := readAuthority_special special read
  intro c member
  rw [same] at member
  rcases List.mem_append.mp member with behindPort | behind
  · exact portText_subset chars
      (List.drop_subset 1 _ ((List.dropWhile_suffix _).subset behindPort))
  · exact (List.dropWhile_suffix _).subset behind

theorem user_of_clear (special : isSpecial scheme = true)
    (read : readAuthority scheme chars = .ok (authority, after)) (clear : '@' ∉ chars) :
    authority.username = "" ∧ authority.password = none := by
  obtain ⟨user, _, _, _⟩ := readAuthority_special special read
  rw [userPart_of_clear (fun member => clear (authorityText_subset chars member))] at user
  exact ⟨congrArg Prod.fst user, congrArg Prod.snd user⟩

theorem authorityText_small {front : List Char} (small : Domain.IsSmallName front)
    (rest : List Char) : authorityText (front ++ rest) = front ++ authorityText rest := by
  apply List.takeWhile_append_of_pos
  intro c member
  have table : ∀ mark, endsAuthority true mark = true → Domain.isSmall mark = false := by
    intro mark ends
    simp only [endsAuthority, Bool.true_and, Bool.or_eq_true, decide_eq_true_eq] at ends
    rcases ends with ((same | same) | same) | same
    all_goals
      rw [same]
      decide
  rw [Bool.not_eq_true', ← Bool.not_eq_true]
  intro ends
  have refused := table c ends
  rw [small c member] at refused
  cases refused

theorem authorityText_of_whole (whole : ∀ c ∈ chars, endsAuthority true c = false) :
    authorityText chars = chars :=
  List.takeWhile_eq_self_iff.mpr (fun c member => Bool.not_eq_true' _ ▸ whole c member)

/-- Without an at sign, a host begins as the authority does. -/
theorem host_front (special : isSpecial scheme = true) {c : Char} (letter : c.isLower = true)
    {label : List Char} (small : Domain.IsSmallName (c :: label)) (clear : '.' ∉ c :: label)
    {rest : List Char} (userless : '@' ∉ c :: label ++ '.' :: rest)
    (read : readAuthority scheme (c :: label ++ '.' :: rest) = .ok (authority, after)) :
    ∃ last, authority.host = .name (String.ofList (c :: label ++ '.' :: last)) := by
  obtain ⟨_, hosted, _, _⟩ := readAuthority_special special read
  rw [userPart_of_clear (fun member => userless (authorityText_subset _ member))] at hosted
  dsimp only at hosted
  have dotted : Domain.IsSmallName (c :: label ++ ['.']) := by
    intro other member
    rcases List.mem_append.mp member with inside | dot
    · exact small other inside
    · rw [List.mem_singleton.mp dot]
      decide
  have divided : c :: label ++ '.' :: rest = c :: label ++ ['.'] ++ rest := by
    rw [List.append_assoc]
    rfl
  rw [divided, authorityText_small dotted, hostPart_small dotted] at hosted
  rw [List.append_assoc] at hosted
  exact specialHost_front letter small clear hosted

/-- Where nothing ends the authority before, a host ends as the authority does, without a port. -/
theorem host_back (special : isSpecial scheme = true) {front ending : List Char}
    (small : Domain.IsSmallName ending) (filled : ending ≠ [])
    (worded : Address.endsInNumber ending = false)
    (whole : ∀ c ∈ front ++ '.' :: ending, endsAuthority true c = false)
    (read : readAuthority scheme (front ++ '.' :: ending) = .ok (authority, after)) :
    authority.port = none ∧
      ∃ first, authority.host = .name (String.ofList (first ++ '.' :: ending)) := by
  obtain ⟨_, hosted, ported, _⟩ := readAuthority_special special read
  have userless : '@' ∉ '.' :: ending := by
    intro member
    rcases List.mem_cons.mp member with dot | inside
    · exact absurd dot (by decide)
    · exact absurd (small '@' inside) (by decide)
  obtain ⟨rest, divided⟩ := userPart_ending front userless
  rw [portText] at ported
  rw [authorityText_of_whole whole, divided] at hosted ported
  rcases hostPart_ending rest small with same | ⟨port, same, dotted⟩
  · rw [same] at hosted ported
    exact ⟨(Except.ok.inj ported).symm, specialHost_back small filled worded hosted⟩
  · have plain : ∀ c ∈ port, decide (c ≠ '\\') = true := by
      intro c member
      have present : c ∈ front ++ '.' :: ending := by
        apply userPart_subset
        rw [divided, ← hostPart_join false (rest ++ '.' :: ending), same]
        exact List.mem_append_right _ (List.mem_cons_of_mem ':' member)
      apply decide_eq_true
      rintro rfl
      exact absurd (whole '\\' present) (by decide)
    rw [same, List.drop_succ_cons, List.drop_zero, List.takeWhile_eq_self_iff.mpr plain] at ported
    exact absurd ported (portPart_dotted scheme dotted authority.port)

theorem tail_of_clear (clear : '?' ∉ chars) : (tail true chars).1 = none := by
  unfold tail
  dsimp only
  split
  · rename_i query same
    have marked : '?' ∈ (Text.cut '#' chars).1 := same ▸ List.mem_cons_self
    exact absurd (Text.cut_subset chars marked) clear
  · rfl

theorem pathText_of_clear (special : isSpecial scheme = true)
    (read : readAuthority scheme chars = .ok (authority, after)) (slashless : '/' ∉ chars)
    (backslashless : '\\' ∉ chars) : after.takeWhile (fun c => !isTailMark c) = [] := by
  obtain ⟨_, _, _, same⟩ := readAuthority_special special read
  have plain : ∀ c ∈ (portText chars).drop 1, decide (c ≠ '\\') = true := by
    intro c member
    apply decide_eq_true
    rintro rfl
    exact backslashless (portText_subset chars (List.drop_subset 1 _ member))
  rw [same, List.dropWhile_eq_nil_iff.mpr plain, List.nil_append]
  have first := List.head?_dropWhile_not (fun c => !endsAuthority true c) chars
  unfold afterAuthority
  cases behind : chars.dropWhile (fun c => !endsAuthority true c) with
  | nil => rfl
  | cons mark rest =>
      have present : mark ∈ chars :=
        (List.dropWhile_suffix _).subset (behind ▸ List.mem_cons_self)
      rw [behind] at first
      have ends : endsAuthority true mark = true := by
        simpa only [List.head?_cons, Bool.not_eq_eq_eq_not, Bool.not_false] using first
      simp only [endsAuthority, Bool.true_and, Bool.or_eq_true, decide_eq_true_eq] at ends
      have tailMark : isTailMark mark = true := by
        rcases ends with ((slash | question) | hash) | backslash
        · exact absurd (slash ▸ present) slashless
        · rw [question]
          decide
        · rw [hash]
          decide
        · exact absurd (backslash ▸ present) backslashless
      rw [List.takeWhile_cons_of_neg (by rw [tailMark]; decide)]

theorem ofAuthority_special {url : Url} (special : isSpecial scheme = true)
    (read : ofAuthority scheme chars = .ok url) :
    ∃ authority after, readAuthority scheme chars = .ok (authority, after) ∧
      url = ⟨scheme, some authority, pathAfter true (after.takeWhile (fun c => !isTailMark c)),
        (tail true (after.dropWhile (fun c => !isTailMark c))).1,
        (tail true (after.dropWhile (fun c => !isTailMark c))).2⟩ := by
  obtain ⟨⟨authority, after⟩, found, read⟩ := Result.ok_of_bind read
  rw [special] at read
  exact ⟨authority, after, found, (Except.ok.inj read).symm⟩

end Special

end SignedRest.Url
