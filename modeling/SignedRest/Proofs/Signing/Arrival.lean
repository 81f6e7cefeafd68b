/-
What arrives of a request. The path and the parameters are found in the text of the address, and the
parts of an authorization between its last two slashes.
-/

import SignedRest.Proofs.Digest.Hmac
import SignedRest.Proofs.Request
import SignedRest.Proofs.Signing.Query
import SignedRest.Signing.Verification

namespace SignedRest.Signing

/-! ### The address -/

/-- What stands before the query in the address of a host. -/
def originText (url : Url) (authority : Url.Authority) : List Char :=
  url.scheme.toList ++ ':' :: '/' :: '/' :: (authority.toText.toList ++ url.path.toText.toList)

theorem toList_toText {url : Url} {authority : Url.Authority}
    (placed : url.authority = some authority) (whole : url.fragment = none) :
    url.toText.toList =
      originText url authority ++ (match url.query with
        | some query => '?' :: query.toList
        | none => []) := by
  unfold Url.toText Url.frontText originText
  rw [placed, whole]
  cases url.query with
  | none => simp
  | some query => simp

theorem query_not_mem_path {path : Url.Path} (clear : path.IsQueryless) :
    '?' ∉ path.toText.toList := by
  obtain ⟨items, rfl, itemsClear⟩ := clear
  rw [Url.Path.toList_segments]
  intro member
  obtain ⟨item, present, inside⟩ := List.mem_flatMap.mp member
  rcases List.mem_cons.mp inside with same | within
  · exact absurd same (by decide)
  · exact itemsClear item present within

/-- A path after an authority begins with a slash, unless it is empty. -/
theorem dropWhile_path {path : Url.Path} (clear : path.IsQueryless) :
    path.toText.toList.dropWhile (· ≠ '/') = path.toText.toList := by
  obtain ⟨items, rfl, _itemsClear⟩ := clear
  rw [Url.Path.toList_segments]
  cases items with
  | nil => rfl
  | cons first rest => rfl

theorem query_not_mem_origin {url : Url} (framed : url.IsFramed) {authority : Url.Authority}
    (placed : url.authority = some authority) : '?' ∉ originText url authority := by
  have path := query_not_mem_path (framed.path_queryless (by rw [placed]; rfl))
  have authorityClear := framed.authority_clear authority placed '?' (by decide)
  have schemeClear := framed.scheme_clear.2
  intro member
  rcases List.mem_append.mp member with inScheme | later
  · exact schemeClear inScheme
  · simp only [List.mem_cons, List.mem_append] at later
    rcases later with colon | slash | slash | inAuthority | inPath
    · exact absurd colon (by decide)
    · exact absurd slash (by decide)
    · exact absurd slash (by decide)
    · exact authorityClear inAuthority
    · exact path inPath

theorem dropWhile_of_not_mem {front : List Char} {mark : Char} (clear : mark ∉ front)
    (rest : List Char) : (front ++ rest).dropWhile (· ≠ mark) = rest.dropWhile (· ≠ mark) := by
  apply List.dropWhile_append_of_pos
  intro c member
  rw [decide_eq_true_eq]
  intro same
  exact clear (same ▸ member)

/-- The path is found behind the colon and two slashes, at the first slash after the host. -/
theorem path_of_origin {url : Url} (framed : url.IsFramed) {authority : Url.Authority}
    (placed : url.authority = some authority) :
    (((originText url authority).dropWhile (· ≠ ':')).drop 3).dropWhile (· ≠ '/') =
      url.path.toText.toList := by
  have clear := framed.path_queryless (by rw [placed]; rfl)
  rw [originText, dropWhile_of_not_mem framed.scheme_clear.1]
  change (authority.toText.toList ++ url.path.toText.toList).dropWhile (· ≠ '/') = _
  rw [dropWhile_of_not_mem (framed.authority_clear authority placed '/' (by decide)),
    dropWhile_path clear]

/-! ### What arrives of the address -/

variable {request : Request} {authority : Url.Authority} (method : String)
  (block : List (String × String))

theorem cut_url (sound : request.Sound) (placed : request.uri.authority = some authority) :
    Text.cut '?' request.url.toText.toList =
      (originText request.uri authority,
        if request.parameters.isEmpty then none
        else some (Canonical.query request.parameters.entries).toList) := by
  have clear := query_not_mem_origin sound.framed placed
  unfold Request.url
  split
  · rw [toList_toText placed sound.whole, sound.queryless, List.append_nil]
    exact Text.cut_of_not_mem clear
  · have text : ({ request.uri with
        query := some (Canonical.query request.parameters.entries) } : Url).toText.toList =
        originText request.uri authority ++
          '?' :: (Canonical.query request.parameters.entries).toList :=
      toList_toText placed sound.whole
    exact (congrArg (Text.cut '?') text).trans (Text.cut_append_cons clear _)

theorem arrival_path (sound : request.Sound) (placed : request.uri.authority = some authority) :
    Arrival.path ⟨method, request.url.toText, block⟩ = request.uri.path.toText := by
  unfold Arrival.path
  dsimp only
  rw [cut_url sound placed, path_of_origin sound.framed placed, String.ofList_toList]

theorem parameters_eq_readQuery {arrival : Arrival} {query : List Char}
    (asked : (Text.cut '?' arrival.address.toList).2 = some query) :
    arrival.parameters = Canonical.readQuery query := by
  unfold Arrival.parameters
  rw [asked]
  cases query with
  | nil => rfl
  | cons first rest => rfl

theorem arrival_parameters (sound : request.Sound)
    (placed : request.uri.authority = some authority) :
    (Arrival.parameters ⟨method, request.url.toText, block⟩).Perm request.parameters.entries := by
  by_cases empty : request.parameters.isEmpty = true
  · have none : request.parameters.entries = [] := List.isEmpty_iff.mp empty
    unfold Arrival.parameters
    dsimp only
    rw [cut_url sound placed, if_pos empty, none]
  · have asked : (Text.cut '?' request.url.toText.toList).2 =
        some (Canonical.query request.parameters.entries).toList := by
      rw [cut_url sound placed, if_neg empty]
    have read : Arrival.parameters ⟨method, request.url.toText, block⟩ =
        Canonical.readQuery (Canonical.query request.parameters.entries).toList :=
      parameters_eq_readQuery asked
    rw [read]
    exact Canonical.readQuery_query_perm _

/-! ### The authorization -/

theorem hexDigest_range {key message : String} {c : Char}
    (member : c ∈ (Hmac.hexDigest key message).toList) : 48 ≤ c.toNat ∧ c.toNat < 0x7F := by
  have digits : ∀ value, value < 16 →
      48 ≤ (Number.lowerDigit value).toNat ∧ (Number.lowerDigit value).toNat < 0x7F := by
    intro value small
    rw [Number.lowerDigit, Utf8.toNat_charOfNat (by split <;> omega)]
    split <;> omega
  obtain ⟨value, small, rfl⟩ := Hmac.mem_hexText member
  exact digits value small

theorem slash_not_mem_hexDigest (key message : String) :
    '/' ∉ (Hmac.hexDigest key message).toList := by
  intro member
  exact absurd (hexDigest_range member).1 (by decide)

theorem ofChars_of_parts {scope names signature : List Char} (namesClear : '/' ∉ names)
    (signatureClear : '/' ∉ signature) :
    Authorization.ofChars (scope ++ '/' :: (names ++ '/' :: signature)) =
      ⟨scope, names, signature⟩ := by
  have reversed : (scope ++ '/' :: (names ++ '/' :: signature)).reverse =
      signature.reverse ++ '/' :: (names.reverse ++ '/' :: scope.reverse) := by
    simp
  unfold Authorization.ofChars
  rw [reversed, Text.cut_append_cons (fun member => signatureClear (List.mem_reverse.mp member))]
  dsimp only
  rw [Option.getD_some,
    Text.cut_append_cons (fun member => namesClear (List.mem_reverse.mp member))]
  simp only [Option.getD_some, List.reverse_reverse]

end SignedRest.Signing
