import OverflowScan.Proofs.Pattern.Search

set_option autoImplicit false

namespace OverflowScan

namespace Text

theorem getElem?_append_front (front text : List Char) (offset : Nat) :
    (front ++ text)[front.length + offset]? = text[offset]? := by
  rw [← List.head?_drop, List.drop_length_add_append, List.head?_drop]

theorem slice_append_front (front text : List Char) (start stop : Nat) :
    slice (front ++ text) (front.length + start) (front.length + stop) = slice text start stop := by
  rw [slice, slice, List.drop_length_add_append, Nat.add_sub_add_left]

theorem slice_append_behind (text more : List Char) (start stop : Nat)
    (within : stop ≤ text.length) : slice (text ++ more) start stop = slice text start stop := by
  by_cases order : start ≤ stop
  · rw [slice, slice, List.drop_append_of_le_length (by omega),
      List.take_append_of_le_length (by rw [List.length_drop]; omega)]
  · rw [slice, slice, Nat.sub_eq_zero_of_le (by omega), List.take_zero, List.take_zero]

theorem wordEdge_append_front (front text : List Char) (offset : Nat)
    (seam : ¬ front.getLast?.any isWord) :
    WordEdge (front ++ text) (front.length + offset) ↔ WordEdge text offset := by
  have before : (before? (front ++ text) (front.length + offset)).any isWord =
      (before? text offset).any isWord := by
    cases offset with
    | succ offset => rw [← Nat.add_assoc, before?_succ, before?_succ, getElem?_append_front]
    | zero =>
        rw [Nat.add_zero, before?_zero, Option.any_none]
        rcases List.eq_nil_or_concat front with rfl | ⟨init, last, rfl⟩
        · rfl
        · rw [List.concat_eq_append, List.getLast?_concat, Option.any_some,
            Bool.not_eq_true] at seam
          rw [List.concat_eq_append, List.length_append, List.length_singleton, before?_succ,
            List.append_assoc, List.getElem?_append_right (Nat.le_refl _), Nat.sub_self]
          exact seam
  rw [WordEdge, WordEdge, before, getElem?_append_front]

theorem prefix_drop_append_behind (text more word : List Char) (start : Nat)
    (within : start ≤ text.length) :
    word <+: (text ++ more).drop start ∧ start + word.length ≤ text.length ↔
      word <+: text.drop start := by
  rw [List.drop_append_of_le_length within]
  constructor
  · rintro ⟨stands, inside⟩
    refine List.prefix_of_prefix_length_le stands (List.prefix_append _ _) ?_
    rw [List.length_drop]
    omega
  · intro stands
    have inside := stands.length_le
    rw [List.length_drop] at inside
    exact ⟨stands.trans (List.prefix_append _ _), by omega⟩

theorem before?_append_behind (text more : List Char) (offset : Nat)
    (within : offset ≤ text.length) :
    before? (text ++ more) offset = before? text offset := by
  cases offset with
  | zero => rfl
  | succ offset => exact List.getElem?_append_left within

theorem wordEdge_append_behind (text more : List Char) (offset : Nat)
    (within : offset ≤ text.length)
    (seam : offset < text.length ∨ ¬ more.head?.any isWord) :
    WordEdge (text ++ more) offset ↔ WordEdge text offset := by
  have after : (text ++ more)[offset]?.any isWord = text[offset]?.any isWord := by
    by_cases inside : offset < text.length
    · rw [List.getElem?_append_left inside]
    · obtain rfl : offset = text.length := by omega
      have free := seam.resolve_left inside
      rw [List.getElem?_append_right (Nat.le_refl _), Nat.sub_self, ← List.head?_eq_getElem?,
        List.getElem?_eq_none (Nat.le_refl _), Option.any_none]
      exact Bool.eq_false_iff.mpr free
  rw [WordEdge, WordEdge, before?_append_behind text more offset within, after]

end Text

theorem Cursor.atBoundary_congr {text other : List Char} {start first : Nat}
    (edge : Text.WordEdge text start ↔ Text.WordEdge other first) :
    (place text start).atBoundary = (place other first).atBoundary := by
  rw [Bool.eq_iff_iff, atBoundary_place, atBoundary_place, edge]

namespace Pattern

def hasBoundary : Pattern → Bool
  | .boundary => true
  | .exactly _ | .one _ | .many _ => false
  | .seq first second | .either first second => first.hasBoundary || second.hasBoundary
  | .optional body | .group _ body => body.hasBoundary

theorem hasBoundary_seq {first second : Pattern} :
    (seq first second).hasBoundary ↔ first.hasBoundary ∨ second.hasBoundary :=
  Bool.or_eq_true_iff

theorem hasBoundary_either {first second : Pattern} :
    (either first second).hasBoundary ↔ first.hasBoundary ∨ second.hasBoundary :=
  Bool.or_eq_true_iff

theorem manyStops_add (cls : CharClass) (count pos : Nat) (rest : List Char) :
    manyStops cls (count + pos) rest = (manyStops cls pos rest).map (count + ·) := by
  induction rest generalizing pos with
  | nil => rfl
  | cons c rest ih =>
      have next := ih (pos + 1)
      by_cases holds : cls.holds c
      · simp only [manyStops, holds, ↓reduceIte, List.map_append, ← next]
        rfl
      · simp [manyStops, holds]

/-- Text in front moves the outcomes. -/
theorem outcomes_append_left (pattern : Pattern) (front text : List Char) (start : Nat)
    (seam : pattern.hasBoundary → ¬ front.getLast?.any Text.isWord) :
    pattern.outcomes (front ++ text) (front.length + start) =
      (pattern.outcomes text start).map fun stop => (front.length + stop.1, stop.2) := by
  induction pattern generalizing start with
  | boundary =>
      have edge := Cursor.atBoundary_congr
        (Text.wordEdge_append_front front text start (seam rfl))
      rw [outcomes, outcomes, edge]
      split <;> rfl
  | exactly word =>
      simp only [outcomes, List.drop_length_add_append]
      split
      · rw [List.map_singleton, Nat.add_assoc]
      · rfl
  | one cls =>
      simp only [outcomes, Text.getElem?_append_front]
      split <;> rfl
  | many cls =>
      simp only [outcomes, List.drop_length_add_append, manyStops_add, List.map_map]
      rfl
  | seq first second ihFirst ihSecond =>
      have left := ihFirst start fun edge => seam (hasBoundary_seq.mpr (Or.inl edge))
      have right (middle : Nat) :=
        ihSecond middle fun edge => seam (hasBoundary_seq.mpr (Or.inr edge))
      simp only [outcomes, left, List.flatMap_map, right, List.map_flatMap, List.map_map]
      rfl
  | either first second ihFirst ihSecond =>
      have left := ihFirst start fun edge => seam (hasBoundary_either.mpr (Or.inl edge))
      have right := ihSecond start fun edge => seam (hasBoundary_either.mpr (Or.inr edge))
      rw [outcomes, left, right, outcomes, List.map_append]
  | optional body ih => rw [outcomes, ih start seam, outcomes, List.map_append, List.map_singleton]
  | group index body ih =>
      simp only [outcomes, ih start seam, List.map_map, Function.comp_def, Text.slice_append_front]

theorem le_of_mem_manyStops {cls : CharClass} {pos stop : Nat} {rest : List Char}
    (member : stop ∈ manyStops cls pos rest) : pos ≤ stop := by
  induction rest generalizing pos with
  | nil => exact Nat.le_of_eq (List.mem_singleton.mp member).symm
  | cons c rest ih =>
      rw [manyStops] at member
      split at member
      · rcases List.mem_append.mp member with longer | same
        · have := ih longer
          omega
        · exact Nat.le_of_eq (List.mem_singleton.mp same).symm
      · exact Nat.le_of_eq (List.mem_singleton.mp member).symm

theorem manyStops_append (cls : CharClass) (pos : Nat) (rest more : List Char) :
    (manyStops cls pos (rest ++ more)).filter (· ≤ pos + rest.length) = manyStops cls pos rest := by
  induction rest generalizing pos with
  | nil =>
      cases more with
      | nil => simp [manyStops]
      | cons c more =>
          have later : (manyStops cls (pos + 1) more).filter (· ≤ pos) = [] := by
            refine List.filter_eq_nil_iff.mpr fun stop member => ?_
            have := le_of_mem_manyStops member
            simp only [decide_eq_true_eq]
            omega
          by_cases holds : cls.holds c
          · simp [manyStops, holds, later]
          · simp [manyStops, holds]
  | cons c rest ih =>
      have next := ih (pos + 1)
      rw [Nat.add_assoc, Nat.add_comm 1] at next
      by_cases holds : cls.holds c
      · simp [manyStops, holds, next]
      · simp [manyStops, holds]

private theorem flatMap_filter {α β : Type} (xs : List α) (p : α → Bool) (f : α → List β) :
    (xs.filter p).flatMap f = xs.flatMap fun x => if p x then f x else [] := by
  induction xs with
  | nil => rfl
  | cons x xs ih => by_cases keep : p x <;> simp [keep, ih]

/-- Text behind keeps the outcomes that stop before it, in their order. -/
theorem outcomes_append_right (pattern : Pattern) (text more : List Char) (start : Nat)
    (within : start ≤ text.length) (seam : pattern.hasBoundary → ¬ more.head?.any Text.isWord) :
    (pattern.outcomes (text ++ more) start).filter (fun stop => stop.1 ≤ text.length) =
      pattern.outcomes text start := by
  induction pattern generalizing start with
  | boundary =>
      have edge := Cursor.atBoundary_congr
        (Text.wordEdge_append_behind text more start within (Or.inr (seam rfl)))
      rw [outcomes, outcomes, edge]
      split <;> simp [within]
  | exactly word =>
      have stands := Text.prefix_drop_append_behind text more word start within
      rw [outcomes, outcomes]
      by_cases kept : word <+: text.drop start
      · obtain ⟨longer, inside⟩ := stands.mpr kept
        simp [kept, longer, inside]
      · -- a word that begins before the end of the text and is cut by it stops beyond
        by_cases longer : word <+: (text ++ more).drop start
        · have beyond : ¬ start + word.length ≤ text.length :=
            fun inside => kept (stands.mp ⟨longer, inside⟩)
          simp [kept, longer, beyond]
        · simp [kept, longer]
  | one cls =>
      by_cases inside : start < text.length
      · simp only [outcomes, List.getElem?_append_left inside]
        split <;> simp [Nat.succ_le_of_lt inside]
      · simp only [outcomes, List.getElem?_eq_none (Nat.le_of_not_lt inside)]
        split <;> simp [show ¬ start + 1 ≤ text.length by omega]
  | many cls =>
      have kept := manyStops_append cls start (text.drop start) more
      rw [List.length_drop, Nat.add_sub_cancel' within] at kept
      rw [outcomes, outcomes, List.drop_append_of_le_length within, List.filter_map, ← kept]
      rfl
  | seq first second ihFirst ihSecond =>
      have left := ihFirst start within fun edge => seam (hasBoundary_seq.mpr (Or.inl edge))
      have right (middle : Nat) (inside : middle ≤ text.length) :=
        ihSecond middle inside fun edge => seam (hasBoundary_seq.mpr (Or.inr edge))
      rw [outcomes, outcomes, List.filter_flatMap, ← left, flatMap_filter]
      congr 1
      funext middle
      rw [List.filter_map]
      by_cases inside : middle.1 ≤ text.length
      · simp only [inside, decide_true, ↓reduceIte, ← right middle.1 inside]
        rfl
      · -- What starts behind the text stops behind it.
        have none : (second.outcomes (text ++ more) middle.1).filter
            (fun stop => stop.1 ≤ text.length) = [] := by
          refine List.filter_eq_nil_iff.mpr fun stop member => ?_
          have order : middle.1 ≤ stop.1 := (Spells.of_mem member).le
          simp only [decide_eq_true_eq]
          omega
        simp only [inside, decide_false, Bool.false_eq_true, ↓reduceIte]
        exact List.map_eq_nil_iff.mpr none
  | either first second ihFirst ihSecond =>
      have left := ihFirst start within fun edge => seam (hasBoundary_either.mpr (Or.inl edge))
      have right := ihSecond start within fun edge => seam (hasBoundary_either.mpr (Or.inr edge))
      rw [outcomes, List.filter_append, left, right, outcomes]
  | optional body ih =>
      rw [outcomes, List.filter_append, ih start within seam, outcomes]
      simp [within]
  | group index body ih =>
      rw [outcomes, List.filter_map, outcomes, ← ih start within seam]
      refine List.map_congr_left fun stop member => ?_
      have inside : stop.1 ≤ text.length := by simpa using (List.mem_filter.mp member).2
      rw [Text.slice_append_behind text more start stop.1 inside]

variable {pattern : Pattern} {text : List Char} {start stop : Nat}

theorem spells_append_left (front : List Char)
    (seam : pattern.hasBoundary → ¬ front.getLast?.any Text.isWord) :
    pattern.Spells (front ++ text) (front.length + start) (front.length + stop) ↔
      pattern.Spells text start stop := by
  rw [← exists_mem_outcomes_iff, ← exists_mem_outcomes_iff,
    outcomes_append_left pattern front text start seam]
  simp

theorem spells_append_right (more : List Char)
    (seam : pattern.hasBoundary → ¬ more.head?.any Text.isWord) (within : stop ≤ text.length) :
    pattern.Spells (text ++ more) start stop ↔ pattern.Spells text start stop := by
  by_cases inside : start ≤ text.length
  · rw [← exists_mem_outcomes_iff, ← exists_mem_outcomes_iff,
      ← outcomes_append_right pattern text more start inside seam]
    simp [within]
  · constructor
    · intro spelled
      have := spelled.le
      omega
    · intro spelled
      have := spelled.le
      omega

/-- What a pattern without word edges spells inside a stretch, it spells in the whole text. -/
theorem spells_slice_iff {first last : Nat} (plain : pattern.hasBoundary = false)
    (bound : last ≤ text.length) (within : first + stop ≤ last) :
    pattern.Spells (Text.slice text first last) start stop ↔
      pattern.Spells text (first + start) (first + stop) := by
  have front : (text.take first).length = first := by
    rw [List.length_take]
    omega
  have width := Text.length_slice text first last bound
  have split : text = text.take first ++ (Text.slice text first last ++ text.drop last) := by
    rw [Text.slice_append_drop text (by omega), List.take_append_drop]
  have edgeless (absent : Prop) : pattern.hasBoundary → absent := by simp [plain]
  have behind : pattern.Spells (Text.slice text first last ++ text.drop last) start stop ↔
      pattern.Spells (Text.slice text first last) start stop :=
    spells_append_right _ (edgeless _) (by omega)
  have whole := spells_append_left (text.take first) (edgeless _) |>.trans behind
  rw [front, ← split] at whole
  exact whole.symm

end Pattern

end OverflowScan
