import OverflowScan.Proofs.Pattern.Shape

set_option autoImplicit false

namespace OverflowScan

def Match.ofOutcome (text : List Char) (start : Nat) (outcome : Nat × List (Nat × List Char)) :
    Match :=
  ⟨start, outcome.1, Text.slice text start outcome.1, outcome.2⟩

theorem Match.mem_of_group? {m : Match} {index : Nat} {word : List Char}
    (passed : m.group? index = some word) : (index, word) ∈ m.groups := by
  obtain ⟨later, earlier, split, -⟩ := List.lookup_eq_some_iff.mp passed
  rw [split]
  simp

namespace Pattern

theorem matchAt?_place (pattern : Pattern) (text : List Char) (start : Nat) :
    pattern.matchAt? (Cursor.place text start) =
      (pattern.outcomes text start).head?.map (Match.ofOutcome text start) := by
  rw [matchAt?, run_eq_findSome?]
  cases pattern.outcomes text start with
  | nil => rfl
  | cons outcome more =>
      rw [List.findSome?_cons, List.append_nil]
      rfl

def occurrences (pattern : Pattern) (text : List Char) (start : Nat) : List Match :=
  findFrom pattern 0 start (Text.before? text start) (text.drop start)

theorem findAll_eq_occurrences (pattern : Pattern) (text : List Char) :
    pattern.findAll text = pattern.occurrences text 0 := rfl

theorem occurrences_of_length_le (pattern : Pattern) (text : List Char) (start : Nat)
    (beyond : text.length ≤ start) : pattern.occurrences text start = [] := by
  rw [occurrences, List.drop_eq_nil_of_le beyond, findFrom]

/-- Skipping characters is the same as starting after them. -/
theorem findFrom_skip (pattern : Pattern) (text : List Char) (skip start : Nat) :
    findFrom pattern skip start (Text.before? text start) (text.drop start) =
      pattern.occurrences text (start + skip) := by
  induction skip generalizing start with
  | zero => rfl
  | succ skip ih =>
      cases here : text.drop start with
      | nil =>
          have beyond : text.length ≤ start := List.drop_eq_nil_iff.mp here
          rw [occurrences_of_length_le pattern text _ (by omega), findFrom]
      | cons c rest =>
          obtain ⟨found, after⟩ := Text.of_drop_eq_cons here
          have next := ih (start + 1)
          rw [Text.before?_succ, found, after] at next
          rw [findFrom, next, Nat.add_assoc, Nat.add_comm 1]

private theorem occurrences_step (pattern : Pattern) (text : List Char) (start : Nat)
    (inside : start < text.length) :
    pattern.occurrences text start =
      match (pattern.outcomes text start).head?.map (Match.ofOutcome text start) with
      | some found => found :: pattern.occurrences text (start + 1 + (found.text.length - 1))
      | none => pattern.occurrences text (start + 1) := by
  have here : text.drop start = text[start] :: text.drop (start + 1) := by simp
  have found : text[start]? = some text[start] := List.getElem?_eq_getElem inside
  have place : Cursor.place text start =
      ⟨start, Text.before? text start, text[start] :: text.drop (start + 1)⟩ := by
    rw [Cursor.place, here]
  have skips (skip : Nat) : findFrom pattern skip (start + 1) text[start] (text.drop (start + 1)) =
      pattern.occurrences text (start + 1 + skip) := by
    rw [← findFrom_skip, Text.before?_succ, found]
  rw [occurrences, here, findFrom, ← place, matchAt?_place]
  cases (pattern.outcomes text start).head?.map (Match.ofOutcome text start) with
  | none => exact skips 0
  | some found => exact congrArg _ (skips _)

theorem outcomes_eq_nil_iff {pattern : Pattern} {text : List Char} {start : Nat} :
    pattern.outcomes text start = [] ↔ ∀ stop, ¬ pattern.Spells text start stop := by
  simp only [List.eq_nil_iff_forall_not_mem, ← exists_mem_outcomes_iff, not_exists, Prod.forall]

theorem mem_of_outcomes_cons {pattern : Pattern} {text : List Char} {start : Nat}
    {outcome : Nat × List (Nat × List Char)} {more : List (Nat × List (Nat × List Char))}
    (first : pattern.outcomes text start = outcome :: more) :
    outcome ∈ pattern.outcomes text start := by
  rw [first]
  exact List.mem_cons_self

theorem occurrences_of_outcomes_nil (pattern : Pattern) (text : List Char) (start : Nat)
    (inside : start < text.length) (none : pattern.outcomes text start = []) :
    pattern.occurrences text start = pattern.occurrences text (start + 1) := by
  rw [occurrences_step pattern text start inside, none]
  rfl

/-- Where a match starts, the first outcome is taken and the search goes on where it stops. -/
theorem occurrences_of_outcomes_cons (pattern : Pattern) (text : List Char) (start : Nat)
    (outcome : Nat × List (Nat × List Char)) (more : List (Nat × List (Nat × List Char)))
    (inside : start < text.length) (first : pattern.outcomes text start = outcome :: more)
    (consumes : start < outcome.1) :
    pattern.occurrences text start =
      Match.ofOutcome text start outcome :: pattern.occurrences text outcome.1 := by
  have bound := (Spells.of_mem (mem_of_outcomes_cons first)).le_max_length
  have width := Text.length_slice text start outcome.1 (by omega)
  rw [occurrences_step pattern text start inside, first, List.head?_cons, Option.map_some]
  simp only [Match.ofOutcome, width]
  rw [show start + 1 + (outcome.1 - start - 1) = outcome.1 by omega]

/-- Induction along a search with a pattern that matches no empty text: the search is at the end of
the text, or moves on by one character, or takes an outcome and goes on where it stops. -/
theorem occurrences_induction {pattern : Pattern} {text : List Char}
    (filled : 0 < pattern.minLength) {motive : Nat → List Match → Prop}
    (done : ∀ start, text.length ≤ start → motive start [])
    (skip : ∀ start found, start < text.length → pattern.outcomes text start = [] →
      motive (start + 1) found → motive start found)
    (take : ∀ start outcome more found, start < text.length →
      pattern.outcomes text start = outcome :: more → start < outcome.1 →
      motive outcome.1 found → motive start (Match.ofOutcome text start outcome :: found))
    (start : Nat) : motive start (pattern.occurrences text start) := by
  by_cases inside : start < text.length
  · cases trial : pattern.outcomes text start with
    | nil =>
        rw [occurrences_of_outcomes_nil pattern text start inside trial]
        exact skip start _ inside trial (occurrences_induction filled done skip take (start + 1))
    | cons outcome more =>
        have consumes : start < outcome.1 := by
          have := (Spells.of_mem (mem_of_outcomes_cons trial)).add_minLength_le
          omega
        rw [occurrences_of_outcomes_cons pattern text start outcome more inside trial consumes]
        exact take start outcome more _ inside trial consumes
          (occurrences_induction filled done skip take outcome.1)
  · rw [occurrences_of_length_le pattern text start (by omega)]
    exact done start (by omega)
termination_by text.length - start

/-- The occurrences from an offset on, against the stretches that a relation spells: each is one of
them and holds a character, they lie apart from left to right, and no stretch starts in a gap, that
is, outside of all of them. -/
structure Leftmost (spells : Nat → Nat → Prop) (start : Nat) (found : List Match) : Prop where
  spelled : ∀ m ∈ found, spells m.start m.stop
  filled : ∀ m ∈ found, m.start < m.stop
  after : ∀ m ∈ found, start ≤ m.start
  apart : found.Pairwise fun left right => left.stop ≤ right.start
  covered : ∀ first last, start ≤ first → spells first last →
    ∃ m ∈ found, m.start ≤ first ∧ first < m.stop

namespace Leftmost

variable {spells : Nat → Nat → Prop} {start : Nat} {found : List Match}

theorem done (none : ∀ first last, start ≤ first → ¬ spells first last) :
    Leftmost spells start [] where
  spelled := by simp
  filled := by simp
  after := by simp
  apart := List.Pairwise.nil
  covered first last order spelled := absurd spelled (none first last order)

theorem skip (none : ∀ last, ¬ spells start last) (rest : Leftmost spells (start + 1) found) :
    Leftmost spells start found where
  spelled := rest.spelled
  filled := rest.filled
  after m member := Nat.le_of_succ_le (rest.after m member)
  apart := rest.apart
  covered first last order spelled := by
    rcases Nat.eq_or_lt_of_le order with rfl | later
    · exact absurd spelled (none last)
    · exact rest.covered first last later spelled

theorem take (m : Match) (spelled : spells m.start m.stop) (filled : m.start < m.stop)
    (rest : Leftmost spells m.stop found) : Leftmost spells m.start (m :: found) where
  spelled := List.forall_mem_cons.mpr ⟨spelled, rest.spelled⟩
  filled := List.forall_mem_cons.mpr ⟨filled, rest.filled⟩
  after := List.forall_mem_cons.mpr ⟨Nat.le_refl _, fun other member =>
    Nat.le_trans (Nat.le_of_lt filled) (rest.after other member)⟩
  apart := List.pairwise_cons.mpr ⟨rest.after, rest.apart⟩
  covered first last order among := by
    by_cases inside : first < m.stop
    · exact ⟨m, List.mem_cons_self, order, inside⟩
    · obtain ⟨other, member, place⟩ := rest.covered first last (by omega) among
      exact ⟨other, List.mem_cons_of_mem m member, place⟩

end Leftmost

theorem leftmost_occurrences (pattern : Pattern) (text : List Char)
    (filled : 0 < pattern.minLength) (start : Nat) :
    Leftmost (pattern.Spells text) start (pattern.occurrences text start) := by
  refine occurrences_induction (motive := Leftmost (pattern.Spells text)) filled ?_ ?_ ?_ start
  · intro start beyond
    refine Leftmost.done fun first last order spelled => ?_
    have consumes := spelled.add_minLength_le
    have bound := spelled.le_max_length
    omega
  · intro start found _ none rest
    exact Leftmost.skip (outcomes_eq_nil_iff.mp none) rest
  · intro start outcome more found _ trial consumes rest
    have spelled := Spells.of_mem (mem_of_outcomes_cons trial)
    exact Leftmost.take (Match.ofOutcome text start outcome) spelled consumes rest

structure Occurs (pattern : Pattern) (text : List Char) (m : Match) : Prop where
  first : (pattern.outcomes text m.start).head? = some (m.stop, m.groups)
  shown : m.text = Text.slice text m.start m.stop

theorem Occurs.mem {pattern : Pattern} {text : List Char} {m : Match}
    (occurs : pattern.Occurs text m) : (m.stop, m.groups) ∈ pattern.outcomes text m.start :=
  List.mem_of_head? occurs.first

theorem occurs_of_mem_occurrences (pattern : Pattern) (text : List Char)
    (filled : 0 < pattern.minLength) (start : Nat) :
    ∀ m ∈ pattern.occurrences text start, pattern.Occurs text m := by
  refine occurrences_induction
    (motive := fun _ found => ∀ m ∈ found, pattern.Occurs text m) filled ?_ ?_ ?_ start
  · intro start _ m member
    exact absurd member List.not_mem_nil
  · intro start found _ _ rest
    exact rest
  · intro start outcome more found _ trial _ rest
    refine List.forall_mem_cons.mpr ⟨⟨?_, rfl⟩, rest⟩
    simp [Match.ofOutcome, trial]

theorem firstFrom_eq_head? (pattern : Pattern) (text : List Char) (start : Nat) :
    firstFrom pattern start (Text.before? text start) (text.drop start) =
      (pattern.occurrences text start).head? := by
  induction here : text.drop start generalizing start with
  | nil =>
      rw [occurrences_of_length_le pattern text start (List.drop_eq_nil_iff.mp here), firstFrom]
      rfl
  | cons c rest ih =>
      obtain ⟨found, after⟩ := Text.of_drop_eq_cons here
      have inside : start < text.length := (List.getElem?_eq_some_iff.mp found).1
      have next := ih (start + 1) after
      rw [Text.before?_succ, found] at next
      have place : Cursor.place text start = ⟨start, Text.before? text start, c :: rest⟩ := by
        rw [Cursor.place, here]
      rw [firstFrom, ← place, matchAt?_place, occurrences_step pattern text start inside]
      cases (pattern.outcomes text start).head?.map (Match.ofOutcome text start) with
      | none => exact next
      | some found => rfl

theorem find?_eq_head? (pattern : Pattern) (text : List Char) :
    pattern.find? text = (pattern.findAll text).head? :=
  firstFrom_eq_head? pattern text 0

theorem find?_eq_none_iff (pattern : Pattern) (text : List Char)
    (filled : 0 < pattern.minLength) :
    pattern.find? text = none ↔ ∀ start stop, ¬ pattern.Spells text start stop := by
  have leftmost := leftmost_occurrences pattern text filled 0
  rw [find?_eq_head?, List.head?_eq_none_iff, findAll_eq_occurrences]
  constructor
  · intro none start stop spelled
    obtain ⟨m, member, -⟩ := leftmost.covered start stop (Nat.zero_le start) spelled
    rw [none] at member
    exact List.not_mem_nil member
  · intro absent
    refine List.eq_nil_iff_forall_not_mem.mpr fun m member => ?_
    exact absent m.start m.stop (leftmost.spelled m member)

theorem occursIn_iff (pattern : Pattern) (text : List Char) (filled : 0 < pattern.minLength) :
    pattern.occursIn text ↔ ∃ start stop, pattern.Spells text start stop := by
  rw [occursIn, Option.isSome_iff_ne_none, ne_eq, find?_eq_none_iff pattern text filled]
  simp

/-- Optional characters in front of a pattern do not decide whether it occurs. -/
theorem occursIn_seq_many (cls : CharClass) (pattern : Pattern) (text : List Char)
    (filled : 0 < pattern.minLength) :
    (seq (many cls) pattern).occursIn text = pattern.occursIn text := by
  have longer : 0 < (seq (many cls) pattern).minLength :=
    Nat.lt_of_lt_of_le filled (Nat.le_add_left _ _)
  rw [Bool.eq_iff_iff, occursIn_iff _ text longer, occursIn_iff _ text filled]
  constructor
  · rintro ⟨start, stop, middle, -, spelled⟩
    exact ⟨middle, stop, spelled⟩
  · rintro ⟨start, stop, spelled⟩
    exact ⟨start, stop, start, Text.Run.refl _ text start, spelled⟩

private theorem findSome?_ite {β γ : Type} (xs : List β) (accepts : β → Bool) (f : β → γ) :
    (xs.findSome? fun x => if accepts x then some (f x) else none) =
      (xs.find? accepts).map f := by
  induction xs with
  | nil => rfl
  | cons x xs ih =>
      rw [List.findSome?_cons, List.find?_cons, ih]
      cases accepts x <;> rfl

theorem matchWhole?_eq_find? (pattern : Pattern) (text : List Char) :
    pattern.matchWhole? text =
      ((pattern.outcomes text 0).find? fun outcome => text.length ≤ outcome.1).map
        (Match.ofOutcome text 0) := by
  have ended (outcome : Nat × List (Nat × List Char)) :
      (Cursor.place text outcome.1).rest.isEmpty = decide (text.length ≤ outcome.1) := by
    rw [Cursor.place, Bool.eq_iff_iff, List.isEmpty_iff, List.drop_eq_nil_iff, decide_eq_true_iff]
  rw [matchWhole?, Cursor.start_eq_place, run_eq_findSome?, ← findSome?_ite]
  simp only [ended, List.append_nil]
  rfl

theorem mem_of_matchWhole? {pattern : Pattern} {text : List Char} {m : Match}
    (found : pattern.matchWhole? text = some m) :
    m.start = 0 ∧ m.stop = text.length ∧ (m.stop, m.groups) ∈ pattern.outcomes text m.start := by
  rw [matchWhole?_eq_find?] at found
  obtain ⟨outcome, first, rfl⟩ := Option.map_eq_some_iff.mp found
  have member : (outcome.1, outcome.2) ∈ pattern.outcomes text 0 := List.mem_of_find?_eq_some first
  have reached : text.length ≤ outcome.1 := by simpa using List.find?_some first
  have bound := (Spells.of_mem member).le_max_length
  exact ⟨rfl, show outcome.1 = text.length by omega, member⟩

theorem matchWhole?_isSome_iff (pattern : Pattern) (text : List Char) :
    (pattern.matchWhole? text).isSome ↔ pattern.Spells text 0 text.length := by
  constructor
  · intro found
    obtain ⟨m, found⟩ := Option.isSome_iff_exists.mp found
    obtain ⟨start, stop, member⟩ := mem_of_matchWhole? found
    rw [← start, ← stop]
    exact Spells.of_mem member
  · intro spelled
    obtain ⟨groups, member⟩ := (exists_mem_outcomes_iff pattern text 0 _).mpr spelled
    rw [matchWhole?_eq_find?, Option.isSome_map, List.find?_isSome]
    exact ⟨_, member, by simp⟩

end Pattern

end OverflowScan
