import OverflowScan.Proofs.Pattern.Locality

set_option autoImplicit false

namespace OverflowScan

def Match.shift (count : Nat) (m : Match) : Match :=
  { m with start := count + m.start, stop := count + m.stop }

namespace Pattern

variable {pattern : Pattern}

theorem occurrences_append_left (filled : 0 < pattern.minLength) (front text : List Char)
    (seam : pattern.hasBoundary → ¬ front.getLast?.any Text.isWord) (start : Nat) :
    pattern.occurrences (front ++ text) (front.length + start) =
      (pattern.occurrences text start).map (Match.shift front.length) := by
  have longer : (front ++ text).length = front.length + text.length := List.length_append
  refine occurrences_induction
    (motive := fun start found => pattern.occurrences (front ++ text) (front.length + start) =
      found.map (Match.shift front.length)) filled ?_ ?_ ?_ start
  · intro start beyond
    exact occurrences_of_length_le pattern _ _ (by omega)
  · intro start found inside none rest
    have absent : pattern.outcomes (front ++ text) (front.length + start) = [] := by
      rw [outcomes_append_left pattern front text start seam, none, List.map_nil]
    rw [occurrences_of_outcomes_nil pattern _ _ (by omega) absent]
    exact rest
  · intro start outcome more found inside trial consumes rest
    have taken : pattern.outcomes (front ++ text) (front.length + start) = _ :=
      (outcomes_append_left pattern front text start seam).trans (by rw [trial, List.map_cons])
    rw [occurrences_of_outcomes_cons pattern _ _ _ _ (by omega) taken
      (Nat.add_lt_add_left consumes _), rest, List.map_cons]
    simp only [Match.ofOutcome, Match.shift, Text.slice_append_front]

theorem occurrences_eq_of_outcomes_nil (text : List Char) (count : Nat)
    (bound : count ≤ text.length) (none : ∀ start < count, pattern.outcomes text start = []) :
    pattern.occurrences text 0 = pattern.occurrences text count := by
  induction count with
  | zero => rfl
  | succ count ih =>
      rw [ih (by omega) fun start before => none start (by omega)]
      exact occurrences_of_outcomes_nil pattern text count (by omega) (none count (by omega))

theorem findAll_append_left (filled : 0 < pattern.minLength) (front text : List Char)
    (seam : pattern.hasBoundary → ¬ front.getLast?.any Text.isWord)
    (none : ∀ start < front.length, ∀ stop, ¬ pattern.Spells (front ++ text) start stop) :
    pattern.findAll (front ++ text) = (pattern.findAll text).map (Match.shift front.length) := by
  have absent : ∀ start < front.length, pattern.outcomes (front ++ text) start = [] :=
    fun start before => outcomes_eq_nil_iff.mpr (none start before)
  have bound : front.length ≤ (front ++ text).length := by
    rw [List.length_append]
    omega
  rw [findAll_eq_occurrences, occurrences_eq_of_outcomes_nil (front ++ text) _ bound absent]
  exact occurrences_append_left filled front text seam 0

/-- More text behind changes no occurrence if no match reaches into it. -/
theorem findAll_append_right (filled : 0 < pattern.minLength) (text more : List Char)
    (seam : pattern.hasBoundary → ¬ more.head?.any Text.isWord)
    (ended : ∀ start stop, pattern.Spells (text ++ more) start stop → stop ≤ text.length) :
    pattern.findAll (text ++ more) = pattern.findAll text := by
  have longer : (text ++ more).length = text.length + more.length := List.length_append
  have same (start : Nat) (inside : start ≤ text.length) :
      pattern.outcomes (text ++ more) start = pattern.outcomes text start := by
    rw [← outcomes_append_right pattern text more start inside seam]
    refine (List.filter_eq_self.mpr fun outcome member => ?_).symm
    exact decide_eq_true (ended start outcome.1 (Spells.of_mem member))
  refine occurrences_induction
    (motive := fun start found => pattern.occurrences (text ++ more) start = found)
    filled ?_ ?_ ?_ 0
  · -- a match that starts at the end of the text would stop behind it
    intro start beyond
    have leftmost := leftmost_occurrences pattern (text ++ more) filled start
    refine List.eq_nil_iff_forall_not_mem.mpr fun m member => ?_
    have bound := ended m.start m.stop (leftmost.spelled m member)
    have order := leftmost.filled m member
    have after := leftmost.after m member
    omega
  · intro start found inside none rest
    rw [← same start (by omega)] at none
    rw [occurrences_of_outcomes_nil pattern _ start (by omega) none]
    exact rest
  · intro start outcome others found inside trial consumes rest
    rw [← same start (by omega)] at trial
    have bound := ended start outcome.1 (Spells.of_mem (mem_of_outcomes_cons trial))
    rw [occurrences_of_outcomes_cons pattern _ start outcome others (by omega) trial consumes, rest]
    simp only [Match.ofOutcome, Text.slice_append_behind text more start outcome.1 bound]

/-- A pattern that matches in at most one way from each offset, and whose matches end in the order
in which they start. -/
structure Steady (pattern : Pattern) : Prop where
  unique : ∀ {text start outcome other}, outcome ∈ pattern.outcomes text start →
    other ∈ pattern.outcomes text start → outcome = other
  ordered : ∀ {text start stop groups first last others},
    (stop, groups) ∈ pattern.outcomes text start →
      (last, others) ∈ pattern.outcomes text first → start < first → stop ≤ last

/-- The outcomes in a text are those in a longer one that stop before what is behind. -/
def Keeps (pattern : Pattern) (text more : List Char) : Prop :=
  ∀ start < text.length, ∀ outcome, outcome ∈ pattern.outcomes text start ↔
    outcome ∈ pattern.outcomes (text ++ more) start ∧ outcome.1 ≤ text.length

namespace Steady

theorem outcomes_eq_cons (steady : Steady pattern) {text : List Char} {start : Nat}
    {outcome : Nat × List (Nat × List Char)} (member : outcome ∈ pattern.outcomes text start) :
    ∃ more, pattern.outcomes text start = outcome :: more := by
  cases trial : pattern.outcomes text start with
  | nil =>
      rw [trial] at member
      exact absurd member List.not_mem_nil
  | cons first more =>
      exact ⟨more, by rw [steady.unique (mem_of_outcomes_cons trial) member]⟩

theorem matchAt?_eq_some_iff (steady : Steady pattern) {text : List Char} {start : Nat}
    {m : Match} :
    pattern.matchAt? (Cursor.place text start) = some m ↔
      ∃ outcome ∈ pattern.outcomes text start, Match.ofOutcome text start outcome = m := by
  rw [matchAt?_place, Option.map_eq_some_iff]
  constructor
  · rintro ⟨outcome, first, shown⟩
    exact ⟨outcome, List.mem_of_head? first, shown⟩
  · rintro ⟨outcome, member, shown⟩
    obtain ⟨more, trial⟩ := steady.outcomes_eq_cons member
    exact ⟨outcome, by rw [trial, List.head?_cons], shown⟩

section

variable {text more : List Char} {start : Nat}

/-- While a match is not complete in the text, no later one is. -/
theorem occurrences_eq_nil (steady : Steady pattern) (filled : 0 < pattern.minLength)
    (kept : Keeps pattern text more) {outcome : Nat × List (Nat × List Char)}
    (undecided : outcome ∈ pattern.outcomes (text ++ more) start)
    (beyond : text.length < outcome.1) : pattern.occurrences text (start + 1) = [] := by
  have leftmost := leftmost_occurrences pattern text filled (start + 1)
  refine List.eq_nil_iff_forall_not_mem.mpr fun m member => ?_
  have spelled := leftmost.spelled m member
  have order := leftmost.filled m member
  have after := leftmost.after m member
  have bound := spelled.le_max_length
  obtain ⟨groups, found⟩ := (exists_mem_outcomes_iff pattern text _ _).mpr spelled
  have complete := (kept m.start (by omega) _).mp found
  have stops := steady.ordered undecided complete.1 (by omega)
  omega

theorem occurrences_prefix (steady : Steady pattern) (filled : 0 < pattern.minLength)
    (kept : Keeps pattern text more) (start : Nat) :
    pattern.occurrences text start <+: pattern.occurrences (text ++ more) start := by
  by_cases inside : start < text.length
  · have longer : start < (text ++ more).length := by
      rw [List.length_append]
      omega
    cases trial : pattern.outcomes text start with
    | nil =>
        rw [occurrences_of_outcomes_nil pattern text start inside trial]
        cases again : pattern.outcomes (text ++ more) start with
        | nil =>
            rw [occurrences_of_outcomes_nil pattern _ start longer again]
            exact occurrences_prefix steady filled kept (start + 1)
        | cons outcome others =>
            -- The match that starts here needs the text behind.
            have undecided := mem_of_outcomes_cons again
            have beyond : text.length < outcome.1 := by
              refine Nat.lt_of_not_le fun within => ?_
              have member := (kept start inside outcome).mpr ⟨undecided, within⟩
              rw [trial] at member
              exact List.not_mem_nil member
            rw [steady.occurrences_eq_nil filled kept undecided beyond]
            exact List.nil_prefix
    | cons outcome others =>
        have listed := mem_of_outcomes_cons trial
        obtain ⟨member, within⟩ := (kept start inside outcome).mp listed
        obtain ⟨others', again⟩ := steady.outcomes_eq_cons member
        have consumes : start < outcome.1 := by
          have := (Spells.of_mem listed).add_minLength_le
          omega
        rw [occurrences_of_outcomes_cons pattern text start outcome others inside trial consumes,
          occurrences_of_outcomes_cons pattern _ start outcome others' longer again consumes]
        refine List.cons_prefix_cons.mpr ⟨?_, occurrences_prefix steady filled kept outcome.1⟩
        simp only [Match.ofOutcome, Text.slice_append_behind text more start outcome.1 within]
  · rw [occurrences_of_length_le pattern text start (by omega)]
    exact List.nil_prefix
termination_by text.length - start

end

end Steady

theorem keeps_of_no_boundary (plain : pattern.hasBoundary = false) (text more : List Char) :
    Keeps pattern text more := by
  intro start inside outcome
  have edgeless (absent : Prop) : pattern.hasBoundary → absent := by simp [plain]
  rw [← outcomes_append_right pattern text more start (Nat.le_of_lt inside) (edgeless _),
    List.mem_filter, decide_eq_true_iff]

theorem keeps_seq_boundary (plain : pattern.hasBoundary = false) (text more : List Char) :
    Keeps (seq boundary pattern) text more := by
  rintro start inside ⟨stop, groups⟩
  have edge := Text.wordEdge_append_behind text more start (Nat.le_of_lt inside) (Or.inl inside)
  rw [mem_outcomes_seq_boundary, mem_outcomes_seq_boundary, edge,
    keeps_of_no_boundary plain text more start inside, and_assoc]

end Pattern

end OverflowScan
