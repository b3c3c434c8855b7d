import OverflowScan.Proofs.Pattern.Search

set_option autoImplicit false

namespace OverflowScan

namespace Text

/-- The first offset from a start on at which a run of characters ends. -/
def passOver (p : Char → Bool) (text : List Char) (start : Nat) : Nat :=
  start + ((text.drop start).takeWhile p).length

def past? (p : Char → Bool) (c : Char) (text : List Char) (start : Nat) : Option Nat :=
  if text[passOver p text start]? = some c then some (passOver p text start) else none

def afterBlanks? (c : Char) (text : List Char) (start : Nat) : Option Nat :=
  past? isBlank c text start

def first? (c : Char) (text : List Char) (start : Nat) : Option Nat :=
  past? (CharClass.butNot c).holds c text start

section

variable {p : Char → Bool} {c : Char} {text : List Char} {start stop : Nat}

theorem run_passOver (p : Char → Bool) (text : List Char) (start : Nat) :
    Run p text start (passOver p text start) :=
  Run.of_drop_eq (List.takeWhile_append_dropWhile (p := p)).symm
    (List.all_eq_true.mp List.all_takeWhile)

theorem passOver_ended (p : Char → Bool) (text : List Char) (start : Nat) :
    ¬ text[passOver p text start]?.any p := by
  have behind : text.drop (passOver p text start) = (text.drop start).dropWhile p :=
    drop_add_length (List.takeWhile_append_dropWhile (p := p)).symm
  have head := List.head?_dropWhile_not p (text.drop start)
  rw [← List.head?_drop, behind]
  cases here : ((text.drop start).dropWhile p).head? with
  | none => simp
  | some c => simpa [here] using head

theorem passOver_eq_iff :
    passOver p text start = stop ↔ Run p text start stop ∧ ¬ text[stop]?.any p := by
  constructor
  · rintro rfl
    exact ⟨run_passOver p text start, passOver_ended p text start⟩
  · rintro ⟨run, ended⟩
    exact (run_passOver p text start).unique run (passOver_ended p text start) ended

theorem past?_eq_some_iff (other : ¬ p c) :
    past? p c text start = some stop ↔ Run p text start stop ∧ text[stop]? = some c := by
  have ended (here : text[stop]? = some c) : ¬ text[stop]?.any p := by
    rw [here]
    exact other
  rw [past?, Option.ite_none_right_eq_some, Option.some.injEq, passOver_eq_iff]
  constructor
  · rintro ⟨here, run, last⟩
    rw [passOver_eq_iff.mpr ⟨run, last⟩] at here
    exact ⟨run, here⟩
  · rintro ⟨run, here⟩
    rw [passOver_eq_iff.mpr ⟨run, ended here⟩]
    exact ⟨here, run, ended here⟩

theorem afterBlanks?_eq_some_iff (solid : ¬ isBlank c) :
    afterBlanks? c text start = some stop ↔ Run isBlank text start stop ∧ text[stop]? = some c :=
  past?_eq_some_iff solid

theorem first?_eq_some_iff :
    first? c text start = some stop ↔
      Run (CharClass.butNot c).holds text start stop ∧ text[stop]? = some c :=
  past?_eq_some_iff (by simp [CharClass.holds])

theorem first?_succ {d : Char} (here : text[start]? = some d) (other : d ≠ c) :
    first? c text (start + 1) = first? c text start := by
  have passed : text[start]?.any (CharClass.butNot c).holds := by
    rw [here]
    exact bne_iff_ne.mpr other
  apply Option.ext
  intro stop
  rw [first?_eq_some_iff, first?_eq_some_iff]
  constructor
  · rintro ⟨run, found⟩
    exact ⟨(Run.lt_iff.mpr ⟨passed, run⟩).2, found⟩
  · rintro ⟨run, found⟩
    have apart : start ≠ stop := by
      rintro rfl
      exact other (Option.some.inj (here.symm.trans found))
    exact ⟨(Run.lt_iff.mp ⟨Nat.lt_of_le_of_ne run.1 apart, run⟩).2, found⟩

end

end Text

/-- The items of a text from an offset on: the first one that starts there or later, then those
from its end on. -/
inductive Sweep {α : Type} (item? : Nat → Option α) (stop : α → Nat) : Nat → List α → Prop
  | done {start : Nat} (none : ∀ place, start ≤ place → item? place = none) :
    Sweep item? stop start []
  | take {start place : Nat} {item : α} {rest : List α} (after : start ≤ place)
    (least : ∀ other, start ≤ other → other < place → item? other = none)
    (found : item? place = some item) (swept : Sweep item? stop (stop item) rest) :
    Sweep item? stop start (item :: rest)

namespace Sweep

variable {α : Type} {item? : Nat → Option α} {stop : α → Nat} {start : Nat} {items : List α}

theorem skip (none : item? start = none) (swept : Sweep item? stop (start + 1) items) :
    Sweep item? stop start items := by
  have here {place : Nat} (after : start ≤ place)
      (later : start + 1 ≤ place → item? place = .none) : item? place = .none := by
    rcases Nat.eq_or_lt_of_le after with rfl | beyond
    · exact none
    · exact later beyond
  cases swept with
  | done absent => exact .done fun place after => here after (absent place)
  | take after least found rest =>
      refine .take (Nat.le_of_succ_le after) (fun other lower upper => ?_) found rest
      exact here lower fun beyond => least other beyond upper

/-- A text has one sweep. -/
theorem unique {others : List α} (swept : Sweep item? stop start items)
    (again : Sweep item? stop start others) : items = others := by
  induction swept generalizing others with
  | done absent =>
      cases again with
      | done => rfl
      | take after _ found _ =>
          rw [absent _ after] at found
          cases found
  | @take start place item rest after least found _ ih =>
      cases again with
      | done absent =>
          rw [absent _ after] at found
          cases found
      | @take _ place' item' rest' after' least' found' swept' =>
          obtain rfl : place = place' := by
            rcases Nat.lt_trichotomy place place' with less | same | greater
            · rw [least' place after less] at found
              cases found
            · exact same
            · rw [least place' after' greater] at found'
              cases found'
          obtain rfl : item = item' := Option.some.inj (found.symm.trans found')
          rw [ih swept']

end Sweep

namespace Pattern

variable {α : Type} {pattern : Pattern} {text : List Char} {item? : Nat → Option α}
  {stop : α → Nat} {view : Match → α}

/-- The occurrences of a pattern, in the view of a scanner that sees at each offset the match
there. -/
theorem sweep_occurrences (filled : 0 < pattern.minLength)
    (seen : ∀ start, item? start = (pattern.matchAt? (Cursor.place text start)).map view)
    (ends : ∀ m, stop (view m) = m.stop) (start : Nat) :
    Sweep item? stop start ((pattern.occurrences text start).map view) := by
  simp only [matchAt?_place] at seen
  have absent {start : Nat} (none : pattern.outcomes text start = []) : item? start = .none := by
    rw [seen, none]
    rfl
  refine occurrences_induction
    (motive := fun start found => Sweep item? stop start (found.map view)) filled ?_ ?_ ?_ start
  · intro start beyond
    refine .done fun place after => absent (outcomes_eq_nil_iff.mpr fun last spelled => ?_)
    have consumes := spelled.add_minLength_le
    have bound := spelled.le_max_length
    omega
  · intro start found _ none swept
    exact swept.skip (absent none)
  · intro start outcome more found _ trial _ swept
    refine .take (Nat.le_refl start) (fun other lower upper => by omega) ?_ ?_
    · rw [seen, trial]
      rfl
    · rw [ends]
      exact swept

theorem sweep_findAll_iff (filled : 0 < pattern.minLength)
    (seen : ∀ start, item? start = (pattern.matchAt? (Cursor.place text start)).map view)
    (ends : ∀ m, stop (view m) = m.stop) {items : List α} :
    Sweep item? stop 0 items ↔ items = (pattern.findAll text).map view := by
  have swept := sweep_occurrences filled seen ends 0
  rw [findAll_eq_occurrences]
  constructor
  · intro again
    exact again.unique swept
  · rintro rfl
    exact swept

end Pattern

end OverflowScan
