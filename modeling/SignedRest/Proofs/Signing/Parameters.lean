/-
Parameters read back from a query, strictly: an item without an equals sign or a part that is no
UTF-8 makes it unreadable. What is written reads back whole, so a query is as good as the parameters
it was made of, but for their order.
-/

import SignedRest.Proofs.Result
import SignedRest.Proofs.Signing.Query

namespace SignedRest.Canonical

open Signing (Arrival)

/-- The items of a query. An empty query has none. -/
def itemsOf (text : String) : List (List Char) :=
  if text.isEmpty then [] else Text.split '&' text.toList

/-- The parts of an item before and after its first equals sign. -/
def partsOf? (item : List Char) : Option (String × String) :=
  match Text.cut '=' item with
  | (_, none) => none
  | (key, some value) => some (String.ofList key, String.ofList value)

def decoded? (text : String) : Option String :=
  Utf8.decodeText? (Percent.decodeText text)

def decodedPair? (pair : String × String) : Option (String × String) := do
  let key ← decoded? pair.1
  let value ← decoded? pair.2
  return (key, value)

/-- The keys and values of a query as they stand in it. -/
def writtenPairs? (text : String) : Option (List (String × String)) :=
  (itemsOf text).mapM partsOf?

def readPairs? (text : String) : Option (List (String × String)) :=
  writtenPairs? text >>= fun pairs => pairs.mapM decodedPair?

/-! ### What is written -/

theorem itemsOf_query (parameters : List (String × String)) :
    itemsOf (query parameters) = (encodedPairs parameters).map item := by
  have empty : (query parameters).isEmpty = true ↔ parameters = [] := by
    rw [String.isEmpty_iff, ← String.toList_eq_nil_iff, toList_query_eq_nil_iff]
  rw [itemsOf]
  split
  · rename_i bare
    rw [empty.mp bare, encodedPairs, List.map_nil, List.mergeSort_nil, List.map_nil]
  · rename_i filled
    exact split_query (mt empty.mpr filled)

theorem partsOf?_item (pair : String × String) :
    partsOf? (item (normalizePair pair)) = some (normalizePair pair) := by
  have clear : '=' ∉ (normalize pair.1).toList := separator_not_mem_normalize (by decide) pair.1
  rw [partsOf?, item, normalizePair, Text.cut_append_cons clear]
  dsimp only
  rw [String.ofList_toList, String.ofList_toList]

theorem writtenPairs?_query (parameters : List (String × String)) :
    writtenPairs? (query parameters) = some (encodedPairs parameters) := by
  have parted : ∀ pair ∈ encodedPairs parameters, (partsOf? ∘ item) pair = some pair := by
    intro pair member
    obtain ⟨original, rfl⟩ := mem_encodedPairs member
    rw [Function.comp_apply, partsOf?_item]
  rw [writtenPairs?, itemsOf_query, List.mapM_map, Result.mapM_eq_map parted, List.map_id']

/-! ### What is read -/

theorem decoded?_normalize (text : String) : decoded? (normalize text) = some text := by
  rw [decoded?, normalize, Percent.decodeText_encodeText isUnreserved_safe,
    Utf8.decodeText?_encodeText]

theorem decodedPair?_normalizePair (pair : String × String) :
    decodedPair? (normalizePair pair) = some pair := by
  rw [decodedPair?, normalizePair, decoded?_normalize, decoded?_normalize]
  rfl

theorem readPairs?_query (parameters : List (String × String)) :
    readPairs? (query parameters) =
      some ((encodedPairs parameters).map (Arrival.parameter ∘ item)) := by
  have read : ∀ pair ∈ encodedPairs parameters,
      decodedPair? pair = some ((Arrival.parameter ∘ item) pair) := by
    intro pair member
    obtain ⟨original, rfl⟩ := mem_encodedPairs member
    rw [decodedPair?_normalizePair, Function.comp_apply, parameter_item]
  rw [readPairs?, writtenPairs?_query, Option.bind_eq_bind, Option.bind_some,
    Result.mapM_eq_map read]

/-- What comes no later than another item has a smaller key, or the same key and no greater
value. -/
def Ordered (pairs : List (String × String)) : Prop :=
  pairs.Pairwise (fun left right => left.1 < right.1 ∨ left.1 = right.1 ∧ left.2 ≤ right.2)

theorem encodedPairs_ordered (parameters : List (String × String)) :
    Ordered (encodedPairs parameters) := by
  have sorted := List.pairwise_mergeSort pairBefore_linear.trans pairBefore_linear.total
    (parameters.map normalizePair)
  exact sorted.imp (fun before => (pairBefore_iff _ _).mp before)

/-- A query tells how often each parameter was given, and no more. -/
theorem queries_tell_parameters :
    (∀ left right : List (String × String), query left = query right ↔ left.Perm right) ∧
    (∀ left right : List (String × String),
      signedQuery left = signedQuery right ↔
        (left.filter (fun pair => pair.1.toLower ≠ Header.authorization)).Perm
          (right.filter (fun pair => pair.1.toLower ≠ Header.authorization))) ∧
    (∀ parameters, ∃ pairs, readPairs? (query parameters) = some pairs ∧ pairs.Perm parameters) ∧
    ∀ parameters,
      (∃ pairs, writtenPairs? (query parameters) = some pairs ∧ Ordered pairs) ∧
      ∃ pairs, writtenPairs? (signedQuery parameters) = some pairs ∧ Ordered pairs := by
  refine ⟨query_eq_iff, fun left right => query_eq_iff _ _, fun parameters => ?_,
    fun parameters => ?_⟩
  · exact ⟨_, readPairs?_query parameters, decodedPairs_perm parameters⟩
  · exact ⟨⟨_, writtenPairs?_query parameters, encodedPairs_ordered parameters⟩,
      _, writtenPairs?_query _, encodedPairs_ordered _⟩

end SignedRest.Canonical
