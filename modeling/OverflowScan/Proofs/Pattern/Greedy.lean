import OverflowScan.Proofs.Pattern.Shape

set_option autoImplicit false

namespace OverflowScan.Pattern

variable {text : List Char} {start : Nat} {cls : CharClass} {second : Pattern}
  {outcome : Nat × List (Nat × List Char)}

theorem manyStops_descending (cls : CharClass) (text : List Char) (start : Nat) :
    (manyStops cls start (text.drop start)).Pairwise (· > ·) := by
  induction here : text.drop start generalizing start with
  | nil => exact List.pairwise_singleton _ _
  | cons c rest ih =>
      obtain ⟨-, after⟩ := Text.of_drop_eq_cons here
      rw [manyStops]
      split
      · apply List.pairwise_append.mpr
        refine ⟨ih (start + 1) after, List.pairwise_singleton _ _, ?_⟩
        intro longer member stop last
        rw [← after, mem_manyStops] at member
        have order := member.1
        rw [List.mem_singleton.mp last]
        omega
      · exact List.pairwise_singleton _ _

/-- What follows a repetition starts at the end of the longest run behind which it matches. -/
theorem head?_outcomes_seq_many :
    ((seq (many cls) second).outcomes text start).head? = some outcome ↔
      ∃ middle, Text.Run cls.holds text start middle ∧
        (second.outcomes text middle).head? = some outcome ∧
        ∀ longer, middle < longer → Text.Run cls.holds text start longer →
          second.outcomes text longer = [] := by
  have tried : ((seq (many cls) second).outcomes text start).head? =
      (manyStops cls start (text.drop start)).findSome? fun middle =>
        (second.outcomes text middle).head? := by
    rw [outcomes, outcomes, List.flatMap_map, List.head?_flatMap]
    simp
  have descending := manyStops_descending cls text start
  rw [tried, List.findSome?_eq_some_iff]
  simp only [← mem_manyStops]
  constructor
  · intro found
    obtain ⟨longer, middle, shorter, split, first, none⟩ := found
    rw [split] at descending ⊢
    refine ⟨middle, by simp, first, ?_⟩
    intro stop order member
    obtain ⟨-, below, -⟩ := List.pairwise_append.mp descending
    -- the longer runs are those that were tried before
    rcases List.mem_append.mp member with before | behind
    · exact List.head?_eq_none_iff.mp (none stop before)
    · rcases List.mem_cons.mp behind with same | later
      · omega
      · have lower := (List.pairwise_cons.mp below).1 stop later
        omega
  · intro found
    obtain ⟨middle, member, first, none⟩ := found
    obtain ⟨longer, shorter, split⟩ := List.append_of_mem member
    refine ⟨longer, middle, shorter, split, first, ?_⟩
    intro stop before
    rw [split] at descending none
    have above := (List.pairwise_append.mp descending).2.2 stop before middle List.mem_cons_self
    rw [none stop above (List.mem_append_left _ before), List.head?_nil]

theorem head?_outcomes_seq_many_of_ended {middle : Nat}
    (run : Text.Run cls.holds text start middle) (ended : ¬ text[middle]?.any cls.holds)
    (first : (second.outcomes text middle).head? = some outcome) :
    ((seq (many cls) second).outcomes text start).head? = some outcome := by
  apply head?_outcomes_seq_many.mpr
  refine ⟨middle, run, first, ?_⟩
  intro longer order again
  exact absurd (again.2 middle run.1 order) ended

theorem head?_outcomes_seq_exactly {word : List Char} :
    ((seq (exactly word) second).outcomes text start).head? = some outcome ↔
      word <+: text.drop start ∧
        (second.outcomes text (start + word.length)).head? = some outcome := by
  rw [outcomes, outcomes]
  split
  · rename_i stands
    simp [stands]
  · rename_i absent
    simp [absent]

theorem head?_outcomes_seq_character {c : Char} :
    ((seq (exactly [c]) second).outcomes text start).head? = some outcome ↔
      text[start]? = some c ∧ (second.outcomes text (start + 1)).head? = some outcome := by
  rw [head?_outcomes_seq_exactly, Text.singleton_prefix_drop]
  rfl

theorem head?_outcomes_character {c : Char} :
    ((exactly [c]).outcomes text start).head? = some outcome ↔
      text[start]? = some c ∧ outcome = (start + 1, []) := by
  rw [outcomes, ← Text.singleton_prefix_drop]
  split
  · rename_i stands
    simp [stands, eq_comm]
  · rename_i absent
    simp [absent]

end OverflowScan.Pattern
