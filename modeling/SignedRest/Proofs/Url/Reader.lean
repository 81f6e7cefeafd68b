/-
Addresses as they are read. Whatever text an address comes from, its scheme ends at the first colon,
its authority at the first slash after that, and its path at the first question mark.
-/

import SignedRest.Proofs.Result
import SignedRest.Proofs.Text.LetterCase
import SignedRest.Proofs.Url.Segments

namespace SignedRest.Url

/-- The parts of an address can be told apart in its text. -/
structure IsFramed (url : Url) : Prop where
  scheme_clear : ':' ∉ url.scheme.toList ∧ '?' ∉ url.scheme.toList
  authority_clear : ∀ authority, url.authority = some authority →
    ∀ mark ∈ delimiters, mark ∉ authority.toText.toList
  path_queryless : url.authority.isSome → url.path.IsQueryless

/-! ### Authorities -/

theorem not_mem_userInfo {mark : Char} (divides : mark ∈ delimiters) (chars : List Char) :
    mark ∉ (encodeChars keptInUserInfo chars).toList := by
  have refused : keptInUserInfo (UInt8.ofNat mark.toNat) = false :=
    of_mem_delimiters divides (by decide) (by decide)
  exact not_mem_encodeChars_of_refused divides refused chars

theorem not_mem_user {mark : Char} (divides : mark ∈ delimiters) (chars : List Char) :
    mark ∉ (readUser chars).1.toList ∧
      ∀ password, (readUser chars).2 = some password → mark ∉ password.toList := by
  unfold readUser
  dsimp only
  constructor
  · exact not_mem_userInfo divides _
  · intro password same
    split at same
    · rw [← Option.some.inj same]
      exact not_mem_userInfo divides _
    · cases same

theorem not_mem_authorityText {mark : Char} (divides : mark ∈ delimiters) {authority : Authority}
    (username : mark ∉ authority.username.toList)
    (password : ∀ word, authority.password = some word → mark ∉ word.toList)
    (host : mark ∉ authority.host.toText.toList) : mark ∉ authority.toText.toList := by
  have colon : mark ∉ ":".toList :=
    fun same => ne_of_mem_of_not_mem divides (by decide) (List.mem_singleton.mp same)
  have atSign : mark ∉ "@".toList :=
    fun same => ne_of_mem_of_not_mem divides (by decide) (List.mem_singleton.mp same)
  have marked : ∀ text : String, mark ∉ text.toList →
      mark ∉ (if text.isEmpty then "" else text ++ "@").toList := by
    intro text clear
    split
    · exact List.not_mem_nil
    · rw [String.toList_append, List.mem_append]
      exact fun member => member.elim clear atSign
  unfold Authority.toText
  dsimp only
  rw [String.toList_append, String.toList_append, List.mem_append, List.mem_append]
  rintro ((userInfo | inHost) | inPort)
  · refine marked _ ?_ userInfo
    rw [String.toList_append, List.mem_append]
    rintro (name | word)
    · exact username name
    · split at word
      · rename_i secret same
        rw [String.toList_append, List.mem_append] at word
        exact word.elim colon (password secret same)
      · cases word
  · exact host inHost
  · split at inPort
    · rw [String.toList_append, List.mem_append] at inPort
      exact inPort.elim colon (not_mem_toString divides _)
    · cases inPort

theorem readAuthority_eq {scheme : String} {chars after : List Char} {authority : Authority}
    (read : readAuthority scheme chars = .ok (authority, after)) :
    ∃ user host port, authority = ⟨(readUser user).1, (readUser user).2, host, port⟩ ∧
      ∃ hostText, specialHost hostText = .ok host ∨ otherHost hostText = .ok host := by
  unfold readAuthority at read
  extract_lets special text ending at read
  split at read
  rename_i user rest _divided
  replace read := Result.ok_of_refusal read
  generalize named : readUser (user.getD []) = parts at read
  obtain ⟨username, password⟩ := parts
  generalize hostPart false rest = place at read
  obtain ⟨hostText, portText⟩ := place
  replace read := Result.ok_of_refusal read
  refine ⟨user.getD [], ?_⟩
  rw [named]
  dsimp -zeta only at read
  split at read
  · obtain ⟨host, found, read⟩ := Result.ok_of_bind read
    obtain ⟨port, _ported, read⟩ := Result.ok_of_bind (Result.ok_of_refusal read)
    cases read
    exact ⟨host, port, rfl, hostText, Or.inl found⟩
  · obtain ⟨host, found, read⟩ := Result.ok_of_bind read
    obtain ⟨port, _ported, read⟩ := Result.ok_of_bind (Result.ok_of_refusal read)
    cases read
    exact ⟨host, port, rfl, hostText, Or.inr found⟩

theorem not_mem_readAuthority {mark : Char} (divides : mark ∈ delimiters) {scheme : String}
    {chars after : List Char} {authority : Authority}
    (read : readAuthority scheme chars = .ok (authority, after)) :
    mark ∉ authority.toText.toList := by
  obtain ⟨user, host, port, rfl, hostText, found⟩ := readAuthority_eq read
  obtain ⟨username, password⟩ := not_mem_user divides user
  refine not_mem_authorityText divides ?_ ?_ ?_
  · exact username
  · exact password
  · rcases found with special | other
    · exact not_mem_specialHost divides special
    · exact not_mem_otherHost divides other

/-! ### Addresses -/

theorem scheme_clear {chars rest : List Char} {scheme : String}
    (read : scheme? chars = some (scheme, rest)) : ':' ∉ scheme.toList ∧ '?' ∉ scheme.toList := by
  have clear : ∀ mark : Char, isSchemeChar mark = false → mark.toNat < 65 →
      mark ∉ ((chars.takeWhile isSchemeChar).map Char.toLower) := by
    intro mark refused low member
    obtain ⟨c, present, same⟩ := List.mem_map.mp member
    rw [Text.eq_of_toLower_eq low same] at present
    have allowed : isSchemeChar mark = true :=
      List.all_eq_true.mp List.all_takeWhile mark present
    rw [refused] at allowed
    cases allowed
  unfold scheme? at read
  split at read
  · dsimp only at read
    split at read
    · obtain ⟨rfl, _⟩ := Prod.mk.inj (Option.some.inj read)
      rw [String.toList_ofList]
      exact ⟨clear ':' (by decide) (by decide), clear '?' (by decide) (by decide)⟩
    · cases read
  · cases read

theorem not_mem_fileHost {mark : Char} (divides : mark ∈ delimiters) {chars rest : List Char}
    {host : Host} (read : fileHost chars = .ok (host, rest)) : mark ∉ host.toText.toList := by
  unfold fileHost at read
  dsimp only at read
  split at read
  · cases read
    exact List.not_mem_nil
  · split at read
    · cases read
      exact List.not_mem_nil
    · obtain ⟨found, special, read⟩ := Result.ok_of_bind read
      split at read
      · cases read
        exact List.not_mem_nil
      · cases read
        exact not_mem_specialHost divides special

theorem not_mem_filePlace {mark : Char} (divides : mark ∈ delimiters) {chars rest : List Char}
    {host : Host} (read : filePlace chars = .ok (host, rest)) : mark ∉ host.toText.toList := by
  unfold filePlace at read
  split at read
  · cases read
    exact List.not_mem_nil
  · split at read
    · cases read
      exact List.not_mem_nil
    · exact not_mem_fileHost divides read

theorem framed_of_authority {scheme : String} {authority : Authority} {path : Path}
    {query fragment : Option String} (scheme_clear : ':' ∉ scheme.toList ∧ '?' ∉ scheme.toList)
    (authority_clear : ∀ mark ∈ delimiters, mark ∉ authority.toText.toList)
    (path_queryless : path.IsQueryless) :
    IsFramed ⟨scheme, some authority, path, query, fragment⟩ where
  scheme_clear := scheme_clear
  authority_clear := by
    intro other same
    rw [← Option.some.inj same]
    exact authority_clear
  path_queryless := fun _ => path_queryless

theorem ofFile_framed {chars : List Char} {url : Url} (read : ofFile chars = .ok url) :
    url.IsFramed := by
  obtain ⟨⟨authority, path, rest⟩, place, read⟩ := Result.ok_of_bind read
  cases read
  obtain ⟨⟨host, text⟩, found, place⟩ := Result.ok_of_bind place
  cases place
  apply framed_of_authority
  · decide
  · intro mark divides
    refine not_mem_authorityText divides List.not_mem_nil (fun _ absent => nomatch absent) ?_
    dsimp only
    split
    · exact List.not_mem_nil
    · exact not_mem_filePlace divides found
  · exact ⟨_, rfl, Trail.queryless_dropEmpty (Trail.queryless_run Queryless.nil _)⟩

theorem ofAuthority_framed {scheme : String} {chars : List Char} {url : Url}
    (clear : ':' ∉ scheme.toList ∧ '?' ∉ scheme.toList)
    (read : ofAuthority scheme chars = .ok url) : url.IsFramed := by
  obtain ⟨⟨authority, rest⟩, found, read⟩ := Result.ok_of_bind read
  cases read
  exact framed_of_authority clear (fun mark divides => not_mem_readAuthority divides found)
    (queryless_pathAfter _ _)

theorem ofScheme_framed {scheme : String} {chars : List Char} {url : Url}
    (clear : ':' ∉ scheme.toList ∧ '?' ∉ scheme.toList)
    (read : ofScheme scheme chars = .ok url) : url.IsFramed := by
  unfold ofScheme at read
  split at read
  · exact ofAuthority_framed clear read
  · split at read
    · exact ofAuthority_framed clear read
    · rw [← Except.ok.inj read]
      exact
        { scheme_clear := clear
          authority_clear := fun _ impossible => nomatch impossible
          path_queryless := fun impossible => nomatch impossible }

theorem ofText_framed {text : String} {url : Url} (read : ofText text = .ok url) :
    url.IsFramed := by
  unfold ofText at read
  dsimp only at read
  split at read
  · exact ofFile_framed read
  · rename_i scheme rest _notFile found
    exact ofScheme_framed (scheme_clear found) read
  · cases read

/-! ### Addresses made from others -/

/-- Addresses that are read, and those made from them by work on the path. -/
inductive Formed : Url → Prop where
  | read {text : String} {url : Url} (read : ofText text = .ok url) : Formed url
  | push {url : Url} (formed : Formed url) (segment : String) :
      Formed { url with path := url.path.push segment }
  | dropEmptyEnd {url : Url} (formed : Formed url) :
      Formed { url with path := url.path.dropEmptyEnd }

theorem Formed.framed {url : Url} (formed : Formed url) : url.IsFramed := by
  induction formed with
  | read read => exact ofText_framed read
  | push _formed segment ih =>
      exact
        { scheme_clear := ih.scheme_clear
          authority_clear := ih.authority_clear
          path_queryless := fun placed => (ih.path_queryless placed).push segment }
  | dropEmptyEnd _formed ih =>
      exact
        { scheme_clear := ih.scheme_clear
          authority_clear := ih.authority_clear
          path_queryless := fun placed => (ih.path_queryless placed).dropEmptyEnd }

end SignedRest.Url
