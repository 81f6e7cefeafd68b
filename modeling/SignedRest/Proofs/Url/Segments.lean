/-
What the segments of a path are made of. A run over the pieces of a path takes segments away and
adds none but these pieces and empty ones; so a path holds no question mark, as every piece is
written with its question marks encoded.
-/

import SignedRest.Proofs.Url.Delimiters

namespace SignedRest.Url

/-! ### Segments one after another -/

namespace Segments

theorem mem_shorten {segments : List String} {segment : String}
    (member : segment ∈ shorten segments) : segment ∈ segments := by
  unfold shorten at member
  split at member
  · exact member
  · exact (List.dropLast_sublist segments).subset member

theorem mem_step {segments : List String} {next segment : String}
    (member : segment ∈ step segments next) : segment ∈ segments ∨ segment = next := by
  unfold step at member
  split at member
  · exact .inl (mem_shorten member)
  · split at member
    · exact .inl member
    · rwa [List.mem_append, List.mem_singleton] at member

theorem mem_finish {segments : List String} {last segment : String}
    (member : segment ∈ finish segments last) :
    segment ∈ segments ∨ segment = last ∨ segment = "" := by
  unfold finish at member
  split at member
  · rw [List.mem_append, List.mem_singleton] at member
    exact member.imp mem_shorten .inr
  · split at member
    · rw [List.mem_append, List.mem_singleton] at member
      exact member.imp_right .inr
    · rw [List.mem_append, List.mem_singleton] at member
      exact member.imp_right .inl

theorem run_cons (segments : List String) (piece : String) {rest : List String}
    (filled : rest ≠ []) : run segments (piece :: rest) = run (step segments piece) rest := by
  cases rest with
  | nil => exact absurd rfl filled
  | cons next more => rfl

theorem mem_run {segments pieces : List String} {segment : String}
    (member : segment ∈ run segments pieces) :
    segment ∈ segments ∨ segment ∈ pieces ∨ segment = "" := by
  induction pieces generalizing segments with
  | nil => exact .inl member
  | cons piece rest ih =>
      by_cases last : rest = []
      · rw [last] at member ⊢
        rw [List.mem_singleton]
        exact mem_finish member
      · rw [run_cons segments piece last] at member
        rcases ih member with stepped | later | empty
        · rcases mem_step stepped with before | same
          · exact .inl before
          · exact .inr (.inl (same ▸ List.mem_cons_self))
        · exact .inr (.inl (List.mem_cons_of_mem piece later))
        · exact .inr (.inr empty)

theorem finish_lacks {mark : Char} {segments : List String} {last : String}
    (clear : ∀ segment ∈ segments, mark ∉ segment.toList) (lastClear : mark ∉ last.toList) :
    ∀ segment ∈ finish segments last, mark ∉ segment.toList := by
  intro segment member
  rcases mem_finish member with before | same | empty
  · exact clear segment before
  · rwa [same]
  · rw [empty]
    exact List.not_mem_nil

theorem run_lacks {mark : Char} {segments pieces : List String}
    (clear : ∀ segment ∈ segments, mark ∉ segment.toList)
    (written : ∀ piece ∈ pieces, mark ∉ piece.toList) :
    ∀ segment ∈ run segments pieces, mark ∉ segment.toList := by
  intro segment member
  rcases mem_run member with before | inside | empty
  · exact clear segment before
  · exact written segment inside
  · rw [empty]
    exact List.not_mem_nil

theorem finish_ne_nil (segments : List String) (last : String) : finish segments last ≠ [] := by
  unfold finish
  split
  · exact List.append_ne_nil_of_right_ne_nil _ (List.cons_ne_nil _ _)
  · split <;> exact List.append_ne_nil_of_right_ne_nil _ (List.cons_ne_nil _ _)

theorem run_ne_nil (segments : List String) {pieces : List String} (filled : pieces ≠ []) :
    run segments pieces ≠ [] := by
  induction pieces generalizing segments with
  | nil => exact absurd rfl filled
  | cons piece rest ih =>
      by_cases last : rest = []
      · rw [last]
        exact finish_ne_nil segments piece
      · rw [run_cons segments piece last]
        exact ih (step segments piece) last

end Segments

/-! ### Segments without question marks -/

/-- No segment holds a question mark. -/
def Queryless (segments : List String) : Prop :=
  ∀ segment ∈ segments, '?' ∉ segment.toList

namespace Queryless

theorem nil : Queryless [] := by
  intro segment member
  cases member

theorem append {front back : List String} (frontClear : Queryless front)
    (backClear : Queryless back) : Queryless (front ++ back) := by
  intro segment member
  rcases List.mem_append.mp member with inFront | inBack
  · exact frontClear segment inFront
  · exact backClear segment inBack

theorem singleton {segment : String} (clear : '?' ∉ segment.toList) : Queryless [segment] := by
  intro other member
  rw [List.mem_singleton.mp member]
  exact clear

theorem concat {segments : List String} (clear : Queryless segments) {segment : String}
    (last : '?' ∉ segment.toList) : Queryless (segments ++ [segment]) :=
  clear.append (singleton last)

theorem concat_empty {segments : List String} (clear : Queryless segments) :
    Queryless (segments ++ [""]) :=
  clear.concat List.not_mem_nil

theorem dropLast {segments : List String} (clear : Queryless segments) :
    Queryless segments.dropLast :=
  fun segment member => clear segment ((List.dropLast_sublist segments).subset member)

theorem shorten {segments : List String} (clear : Queryless segments) :
    Queryless (Segments.shorten segments) :=
  fun segment member => clear segment (Segments.mem_shorten member)

theorem finish {segments : List String} (clear : Queryless segments) {segment : String}
    (last : '?' ∉ segment.toList) : Queryless (Segments.finish segments segment) :=
  Segments.finish_lacks clear last

theorem run {segments pieces : List String} (clear : Queryless segments)
    (written : Queryless pieces) : Queryless (Segments.run segments pieces) :=
  Segments.run_lacks clear written

end Queryless

/-! ### Paths -/

theorem Path.toList_segments (items : List String) :
    (Path.segments items).toText.toList = items.flatMap (fun item => '/' :: item.toList) := by
  rw [Path.toText, String.toList_join, List.flatMap_map]
  simp only [String.toList_append]
  rfl

theorem queryless_ofChars (isSpecial : Bool) (chars : List Char) :
    ∃ items, Path.ofChars isSpecial chars = .segments items ∧ Queryless items := by
  refine ⟨_, rfl, Queryless.nil.run ?_⟩
  intro segment member
  obtain ⟨piece, _present, same⟩ := List.mem_map.mp member
  rw [← same]
  exact not_mem_encodeChars_of_refused (by decide) (by decide) piece

theorem queryless_pathAfter (isSpecial : Bool) (chars : List Char) :
    ∃ items, pathAfter isSpecial chars = .segments items ∧ Queryless items := by
  unfold pathAfter
  split
  · split
    · exact ⟨[""], rfl, Queryless.singleton List.not_mem_nil⟩
    · exact ⟨[], rfl, Queryless.nil⟩
  · exact queryless_ofChars isSpecial _

/-- A path of segments, none of which holds a question mark. -/
def Path.IsQueryless (path : Path) : Prop :=
  ∃ items, path = .segments items ∧ Queryless items

theorem Path.IsQueryless.push {path : Path} (clear : path.IsQueryless) (segment : String) :
    (path.push segment).IsQueryless := by
  obtain ⟨items, rfl, itemsClear⟩ := clear
  unfold Path.push
  dsimp only
  split
  · exact ⟨items, rfl, itemsClear⟩
  · refine ⟨_, rfl, Queryless.finish ?_ ?_⟩
    · split
      · exact Queryless.nil
      · exact itemsClear
    · exact not_mem_encodeChars_of_refused (by decide) (by decide) _

theorem Path.IsQueryless.dropEmptyEnd {path : Path} (clear : path.IsQueryless) :
    path.dropEmptyEnd.IsQueryless := by
  obtain ⟨items, rfl, itemsClear⟩ := clear
  unfold Path.dropEmptyEnd
  dsimp only
  refine ⟨_, rfl, ?_⟩
  split
  · exact itemsClear.dropLast
  · exact itemsClear

/-! ### File paths -/

namespace Trail

theorem queryless_segmentOf (piece : List Char) : '?' ∉ (segmentOf piece).toList :=
  not_mem_encodeChars_of_refused (by decide) (by decide) _

theorem not_mem_drive {piece drive rest : List Char}
    (apart : apartDrive? piece = some (drive, rest)) : '?' ∉ drive := by
  unfold apartDrive? at apart
  obtain ⟨⟨letter, afterLetter⟩, _first, apart⟩ := Option.bind_eq_some_iff.mp apart
  obtain ⟨⟨mark, afterMark⟩, _second, apart⟩ := Option.bind_eq_some_iff.mp apart
  obtain ⟨_next, _third, apart⟩ := Option.bind_eq_some_iff.mp apart
  split at apart
  · rename_i isDrive
    obtain ⟨isLetter, isColon, _⟩ := isDrive
    obtain ⟨rfl, rfl⟩ := Prod.mk.inj (Option.some.inj apart)
    rw [isColon]
    apply List.not_mem_cons_of_ne_of_not_mem
    · intro same
      rw [← same] at isLetter
      exact absurd isLetter (by decide)
    · decide
  · cases apart

theorem queryless_start {trail : Trail} (piece : List Char) :
    Queryless (trail.start piece).segments := by
  unfold start
  split
  · rename_i drive rest apart
    have driveClear : '?' ∉ (String.ofList drive).toList := by
      rw [String.toList_ofList]
      exact not_mem_drive apart
    exact (Queryless.singleton driveClear).concat (queryless_segmentOf rest)
  · dsimp only
    split
    · apply Queryless.singleton
      rw [String.toList_ofList]
      intro member
      rcases List.mem_append.mp member with letter | colon
      · exact queryless_segmentOf piece (List.mem_of_mem_take letter)
      · exact absurd colon (by decide)
    · exact Queryless.singleton (queryless_segmentOf piece)

theorem queryless_add {trail : Trail} (clear : Queryless trail.segments) (piece : List Char) :
    Queryless (trail.add piece).segments := by
  unfold add
  split
  · exact queryless_start piece
  · exact clear.concat (queryless_segmentOf piece)

theorem queryless_step {trail : Trail} (clear : Queryless trail.segments) (piece : List Char) :
    Queryless (trail.step piece).segments := by
  unfold step
  split
  · exact clear.shorten
  · split
    · exact clear
    · exact queryless_add clear piece

theorem queryless_finish {trail : Trail} (clear : Queryless trail.segments) (piece : List Char) :
    Queryless (trail.finish piece).segments := by
  unfold finish
  split
  · exact clear.shorten.concat_empty
  · split
    · exact clear.concat_empty
    · exact queryless_add clear piece

theorem queryless_run {trail : Trail} (clear : Queryless trail.segments)
    (pieces : List (List Char)) : Queryless (trail.run pieces).segments := by
  induction pieces generalizing trail with
  | nil => exact clear
  | cons piece rest ih =>
      cases rest with
      | nil => exact queryless_finish clear piece
      | cons next more =>
          rw [run]
          · exact ih (queryless_step clear piece)
          · exact List.cons_ne_nil next more

theorem queryless_dropEmpty {segments : List String} (clear : Queryless segments) :
    Queryless (dropEmpty segments) := by
  fun_induction dropEmpty segments with
  | case1 next rest ih =>
      exact ih (fun segment member => clear segment (List.mem_cons_of_mem "" member))
  | case2 segments => exact clear

end Trail

end SignedRest.Url
