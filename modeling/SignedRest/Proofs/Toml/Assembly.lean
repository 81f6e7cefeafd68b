/-
Tables that statements put together. Statements below a header act on one table of the document and
leave everything around it as it is, so keys given below a header end up in that table, in order.
-/

import SignedRest.Toml.Reader

namespace SignedRest.Toml

namespace Members

/-! ### Members of one table -/

theorem get?_append (members more : Members) (name : String) :
    get? (members ++ more) name = (get? members name).or (get? more name) := by
  rw [get?, List.find?_append, Option.map_or]
  rfl

theorem get?_singleton_of_ne {name other : String} (different : other ≠ name) (node : Node) :
    get? [(other, node)] name = none := by
  rw [get?, List.find?_singleton, if_neg (by simpa using different)]
  rfl

theorem get?_last {members : Members} {name : String} (fresh : members.get? name = none)
    (node : Node) : get? (members ++ [(name, node)]) name = some node := by
  rw [get?_append, fresh, get?, List.find?_singleton, if_pos (by simp)]
  rfl

theorem replace_last {members : Members} {name : String} (fresh : members.get? name = none)
    (before after : Node) :
    replace (members ++ [(name, before)]) name after = members ++ [(name, after)] := by
  have absent : ∀ member ∈ members, member.1 ≠ name := by
    rw [get?, Option.map_eq_none_iff, List.find?_eq_none] at fresh
    intro member inside
    simpa using fresh member inside
  have kept : members.map (fun member => if member.1 = name then (name, after) else member) =
      members := by
    rw [List.map_congr_left (fun member inside => if_neg (absent member inside)), List.map_id']
  rw [replace, List.map_append, kept, List.map_singleton, if_pos rfl]

/-! ### The table at a header -/

theorem change_append (byDots : Bool) (act : Origin → Members → Option (Origin × Members))
    (way path : List String) (origin : Origin) (members : Members) :
    change byDots act (way ++ path) origin members =
      change byDots (change byDots act path) way origin members := by
  induction way generalizing origin members with
  | nil => rfl
  | cons name others ih =>
      rw [List.cons_append, change, change]
      simp only [ih]

/-- The header leads to one table, and `place` is the document around it. -/
def Opens (header : List String) (place : Members → Members) : Prop :=
  ∀ (act : Origin → Members → Option (Origin × Members)) (inside after : Members),
    act .declared inside = some (.declared, after) →
      change false act header .declared (place inside) = some (.declared, place after)

variable {header : List String} {place : Members → Members} {inside : Members}

theorem Opens.table (opens : Opens header place) {before : Members} {key : String}
    (fresh : before.get? key = none) :
    Opens (header ++ [key]) (fun inside => place (before ++ [(key, .table .declared inside)])) := by
  intro act inside after acts
  rw [change_append]
  refine opens _ _ _ ?_
  rw [change, get?_last fresh]
  simp only [Bool.false_and, Bool.false_eq_true, if_false, change, acts, Option.bind_eq_bind,
    Option.bind_some, replace_last fresh]

/-- A root with an array of tables behind its other members, once there are any. -/
def withTables (root : Members) (name : String) (items : List Members) : Members :=
  if items.isEmpty then root else root ++ [(name, .tables items)]

theorem withTables_concat (root : Members) (name : String) (items : List Members)
    (last : Members) :
    withTables root name (items ++ [last]) = root ++ [(name, .tables (items ++ [last]))] := by
  rw [withTables, if_neg]
  simp

theorem opens_tables {root : Members} {name : String} (fresh : root.get? name = none)
    (items : List Members) :
    Opens [name] (fun last => withTables root name (items ++ [last])) := by
  intro act inside after acts
  simp only [withTables_concat]
  rw [change, get?_last fresh]
  simp only [List.getLast?_concat, change, acts, Option.bind_eq_bind, Option.bind_some,
    List.dropLast_concat, replace_last fresh]

/-! ### Statements -/

theorem assign_last (opens : Opens header place) {key : String} (fresh : inside.get? key = none)
    (value : Toml) :
    assign header [key] value (place inside) =
      some (place (inside ++ [(key, .value value)])) := by
  have acts : put false key value .declared inside =
      some (.declared, inside ++ [(key, .value value)]) := by
    rw [put, if_neg]
    simp [fresh]
  have changed := opens (change true (put false key value) []) _ _ acts
  rw [assign]
  simp only [List.getLast?_singleton, List.dropLast_singleton, List.isEmpty_nil, Bool.not_true,
    Option.bind_eq_bind, Option.bind_some]
  rw [changed]
  rfl

theorem declare_last (opens : Opens header place) {key : String}
    (fresh : inside.get? key = none) :
    declare (header ++ [key]) (place inside) =
      some (place (inside ++ [(key, .table .declared [])])) := by
  have acts : declareLast key .declared inside =
      some (.declared, inside ++ [(key, .table .declared [])]) := by
    rw [declareLast, fresh]
  rw [declare, List.getLast?_concat, List.dropLast_concat, Option.bind_eq_bind, Option.bind_some,
    opens _ _ _ acts]
  rfl

theorem append_tables {root : Members} {name : String} (fresh : root.get? name = none)
    (items : List Members) :
    append [name] (withTables root name items) =
      some (withTables root name (items ++ [[]])) := by
  rw [withTables_concat]
  cases items with
  | nil =>
      rw [withTables, List.isEmpty_nil, if_pos rfl, append]
      simp only [List.getLast?_singleton, List.dropLast_singleton, change, appendLast, fresh,
        Option.bind_eq_bind, Option.bind_some, List.nil_append]
  | cons first others =>
      rw [withTables, if_neg (by simp), append]
      simp only [List.getLast?_singleton, List.dropLast_singleton, change, appendLast,
        get?_last fresh, replace_last fresh, Option.bind_eq_bind, Option.bind_some]

/-- Keys below one header, none of them given before. -/
theorem assemble?_assigns (opens : Opens header place) (inside : Members)
    (pairs : List (String × Toml)) (distinct : (pairs.map Prod.fst).Nodup)
    (fresh : ∀ pair ∈ pairs, inside.get? pair.1 = none) (rest : List Statement) :
    assemble? header (place inside)
        (pairs.map (fun pair => Statement.assign [pair.1] pair.2) ++ rest) =
      assemble? header (place (inside ++ pairs.map (fun pair => (pair.1, .value pair.2))))
        rest := by
  induction pairs generalizing inside with
  | nil => rw [List.map_nil, List.nil_append, List.map_nil, List.append_nil]
  | cons pair others ih =>
      obtain ⟨key, value⟩ := pair
      rw [List.map_cons, List.nodup_cons] at distinct
      have later : ∀ other ∈ others, get? (inside ++ [(key, .value value)]) other.1 = none := by
        intro other member
        have different : key ≠ other.1 := by
          intro same
          exact distinct.1 (List.mem_map.mpr ⟨other, member, same.symm⟩)
        rw [get?_append, fresh other (List.mem_cons_of_mem _ member),
          get?_singleton_of_ne different]
        rfl
      rw [List.map_cons, List.cons_append, assemble?,
        assign_last opens (fresh _ List.mem_cons_self), Option.bind_eq_bind, Option.bind_some,
        ih _ distinct.2 later, List.map_cons, List.append_assoc]
      rfl

end Members

/-! ### Closed tables -/

theorem Node.closeMembers_append (members more : Members) :
    Node.closeMembers (members ++ more) = Node.closeMembers members ++ Node.closeMembers more := by
  induction members with
  | nil => rfl
  | cons member others ih =>
      obtain ⟨name, node⟩ := member
      rw [List.cons_append, Node.closeMembers, Node.closeMembers, ih, List.cons_append]

theorem Node.closeMembers_values (pairs : List (String × Toml)) :
    Node.closeMembers (pairs.map (fun pair => (pair.1, .value pair.2))) = pairs := by
  induction pairs with
  | nil => rfl
  | cons pair others ih =>
      obtain ⟨name, value⟩ := pair
      rw [List.map_cons, Node.closeMembers, Node.close, ih]

theorem Node.closeItems_eq_map (items : List Members) :
    Node.closeItems items = items.map (fun members => .table (Node.closeMembers members)) := by
  induction items with
  | nil => rfl
  | cons members others ih => rw [Node.closeItems, ih, List.map_cons]

end SignedRest.Toml
