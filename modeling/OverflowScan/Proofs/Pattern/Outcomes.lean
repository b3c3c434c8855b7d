import OverflowScan.Pattern.Search
import OverflowScan.Proofs.Text.Slice

set_option autoImplicit false

/- What a pattern means, and in which order the ways to match it are tried.

`Spells` is the meaning: a relation between the two ends of a stretch of text. `outcomes` lists the
ends that can be reached from a start, with the groups passed on the way, in the order of trial:
longest repetition first, first alternative first. Matching takes the first outcome that what
follows accepts (`run_eq_findSome?`), and the outcomes are exactly the stretches that the pattern
spells (`exists_mem_outcomes_iff`). So nothing is lost by trying in an order. -/
namespace OverflowScan

theorem CharClass.forall_holds_butNot_iff {c : Char} {word : List Char} :
    (∀ d ∈ word, (butNot c).holds d) ↔ c ∉ word := by
  simp only [holds, bne_iff_ne]
  exact ⟨fun all member => all c member rfl, fun absent d member same => absent (same ▸ member)⟩

/-- A word starts or ends at an offset: exactly one of its two neighbours is a word character. -/
def Text.WordEdge (text : List Char) (offset : Nat) : Prop :=
  (before? text offset).any isWord ≠ text[offset]?.any isWord

instance (text : List Char) (offset : Nat) : Decidable (Text.WordEdge text offset) :=
  inferInstanceAs (Decidable (_ ≠ _))

def Cursor.place (text : List Char) (offset : Nat) : Cursor :=
  ⟨offset, Text.before? text offset, text.drop offset⟩

namespace Cursor

theorem start_eq_place (text : List Char) : start text = place text 0 := rfl

theorem place_succ (text rest : List Char) (offset : Nat) (c : Char)
    (here : text.drop offset = c :: rest) : place text (offset + 1) = ⟨offset + 1, c, rest⟩ := by
  obtain ⟨found, after⟩ := Text.of_drop_eq_cons here
  rw [place, Text.before?_succ, found, after]

theorem atBoundary_place (text : List Char) (offset : Nat) :
    (place text offset).atBoundary ↔ Text.WordEdge text offset := by
  simp [place, atBoundary, Text.WordEdge]

theorem step?_place (cls : CharClass) (text : List Char) (offset : Nat) :
    (place text offset).step? cls =
      if text[offset]?.any cls.holds then some (place text (offset + 1)) else none := by
  cases here : text.drop offset with
  | nil =>
      have absent : text[offset]? = none := by rw [← List.head?_drop, here, List.head?_nil]
      simp [place, here, absent, step?]
  | cons c rest =>
      obtain ⟨found, -⟩ := Text.of_drop_eq_cons here
      rw [place_succ text rest offset c here]
      simp [place, here, found, step?]

theorem skip?_place (word text : List Char) (offset : Nat) :
    (place text offset).skip? word =
      if word <+: text.drop offset then some (place text (offset + word.length)) else none := by
  induction word generalizing offset with
  | nil => simp [skip?]
  | cons c word ih =>
      cases here : text.drop offset with
      | nil => simp [place, here, skip?]
      | cons d rest =>
          obtain ⟨-, after⟩ := Text.of_drop_eq_cons here
          have next := ih (offset + 1)
          rw [place_succ text rest offset d here, after] at next
          by_cases same : c = d
          · subst d
            simp only [place, here, skip?, ↓reduceIte, List.cons_prefix_cons, true_and,
              List.length_cons]
            rw [next, Nat.add_assoc, Nat.add_comm 1]
            rfl
          · simp [place, here, skip?, same]

end Cursor

namespace Pattern

/-- What a pattern means: the stretch of the text between two offsets splits into the pieces that
the pattern spells. A boundary is judged in the whole text. -/
def Spells : Pattern → List Char → Nat → Nat → Prop
  | .boundary, text, start, stop => stop = start ∧ Text.WordEdge text start
  | .exactly word, text, start, stop => stop = start + word.length ∧ word <+: text.drop start
  | .one cls, text, start, stop => stop = start + 1 ∧ text[start]?.any cls.holds
  | .many cls, text, start, stop => Text.Run cls.holds text start stop
  | .seq first second, text, start, stop =>
    ∃ middle, first.Spells text start middle ∧ second.Spells text middle stop
  | .either first second, text, start, stop =>
    first.Spells text start stop ∨ second.Spells text start stop
  | .optional body, text, start, stop => body.Spells text start stop ∨ stop = start
  | .group _ body, text, start, stop => body.Spells text start stop

def manyStops (cls : CharClass) : Nat → List Char → List Nat
  | pos, [] => [pos]
  | pos, c :: rest => if cls.holds c then manyStops cls (pos + 1) rest ++ [pos] else [pos]

/-- All ways to match a pattern from an offset, in the order of trial: where the match stops, and
the groups it passes, latest first. -/
def outcomes : Pattern → List Char → Nat → List (Nat × List (Nat × List Char))
  | .boundary, text, start =>
    if (Cursor.place text start).atBoundary then [(start, [])] else []
  | .exactly word, text, start =>
    if word <+: text.drop start then [(start + word.length, [])] else []
  | .one cls, text, start => if text[start]?.any cls.holds then [(start + 1, [])] else []
  | .many cls, text, start => (manyStops cls start (text.drop start)).map fun stop => (stop, [])
  | .seq first second, text, start =>
    (first.outcomes text start).flatMap fun middle =>
      (second.outcomes text middle.1).map fun stop => (stop.1, stop.2 ++ middle.2)
  | .either first second, text, start => first.outcomes text start ++ second.outcomes text start
  | .optional body, text, start => body.outcomes text start ++ [(start, [])]
  | .group index body, text, start =>
    (body.outcomes text start).map fun stop =>
      (stop.1, (index, Text.slice text start stop.1) :: stop.2)

variable {α : Type}

private theorem findSome?_flatMap {β γ : Type} (xs : List β) (f : β → List γ)
    (next : γ → Option α) :
    (xs.flatMap f).findSome? next = xs.findSome? fun x => (f x).findSome? next := by
  induction xs with
  | nil => rfl
  | cons x xs ih =>
      rw [List.flatMap_cons, List.findSome?_append, ih, List.findSome?_cons]
      cases (f x).findSome? next <;> rfl

theorem runMany_eq_findSome? (cls : CharClass) (groups : List (Nat × List Char))
    (next : Progress → Option α) (text : List Char) (start : Nat) :
    runMany cls groups next start (Text.before? text start) (text.drop start) =
      (manyStops cls start (text.drop start)).findSome? fun stop =>
        next ⟨Cursor.place text stop, groups⟩ := by
  induction here : text.drop start generalizing start with
  | nil => simp [runMany, manyStops, Cursor.place, here]
  | cons c rest ih =>
      obtain ⟨found, after⟩ := Text.of_drop_eq_cons here
      have longer := ih (start + 1) after
      rw [Text.before?_succ, found] at longer
      have stay : Cursor.place text start = ⟨start, Text.before? text start, c :: rest⟩ := by
        rw [Cursor.place, here]
      by_cases holds : cls.holds c
      · simp only [runMany, manyStops, holds, ↓reduceIte, List.findSome?_append, longer,
          List.findSome?_singleton, stay]
        cases (manyStops cls (start + 1) rest).findSome? fun stop =>
          next ⟨Cursor.place text stop, groups⟩ <;> rfl
      · simp [runMany, manyStops, holds, stay]

/-- Matching with something to follow takes the first outcome that what follows accepts. -/
theorem run_eq_findSome? (pattern : Pattern) (text : List Char) (start : Nat)
    (groups : List (Nat × List Char)) (next : Progress → Option α) :
    pattern.run ⟨Cursor.place text start, groups⟩ next =
      (pattern.outcomes text start).findSome? fun stop =>
        next ⟨Cursor.place text stop.1, stop.2 ++ groups⟩ := by
  induction pattern generalizing start groups next with
  | boundary =>
      rw [run, outcomes]
      split <;> simp
  | exactly word =>
      rw [run, outcomes, Cursor.skip?_place]
      split <;> simp_all
  | one cls =>
      rw [run, outcomes, Cursor.step?_place]
      split <;> simp_all
  | many cls =>
      rw [run, outcomes, List.findSome?_map]
      exact runMany_eq_findSome? cls groups next text start
  | seq first second ihFirst ihSecond =>
      -- what follows the first part is the second one with all that follows both
      rw [run, outcomes, findSome?_flatMap, ihFirst]
      simp only [ihSecond, List.findSome?_map, Function.comp_def, List.append_assoc]
  | either first second ihFirst ihSecond =>
      rw [run, outcomes, List.findSome?_append, ihFirst, ihSecond]
      cases (first.outcomes text start).findSome? fun stop =>
        next ⟨Cursor.place text stop.1, stop.2 ++ groups⟩ <;> rfl
  | optional body ih =>
      rw [run, outcomes, List.findSome?_append, ih, List.findSome?_singleton]
      cases (body.outcomes text start).findSome? fun stop =>
        next ⟨Cursor.place text stop.1, stop.2 ++ groups⟩ <;> rfl
  | group index body ih =>
      rw [run, outcomes, List.findSome?_map, ih]
      rfl

variable {text : List Char} {start stop : Nat} {groups : List (Nat × List Char)}

@[simp] theorem mem_outcomes_boundary :
    (stop, groups) ∈ boundary.outcomes text start ↔
      stop = start ∧ Text.WordEdge text start ∧ groups = [] := by
  rw [outcomes, ← Cursor.atBoundary_place]
  split <;> simp_all

@[simp] theorem mem_outcomes_exactly {word : List Char} :
    (stop, groups) ∈ (exactly word).outcomes text start ↔
      stop = start + word.length ∧ word <+: text.drop start ∧ groups = [] := by
  rw [outcomes]
  split <;> simp_all

@[simp] theorem mem_outcomes_one {cls : CharClass} :
    (stop, groups) ∈ (one cls).outcomes text start ↔
      stop = start + 1 ∧ text[start]?.any cls.holds ∧ groups = [] := by
  rw [outcomes]
  split <;> simp_all

theorem mem_manyStops (cls : CharClass) (text : List Char) (start stop : Nat) :
    stop ∈ manyStops cls start (text.drop start) ↔ Text.Run cls.holds text start stop := by
  induction here : text.drop start generalizing start with
  | nil =>
      have absent : text[start]? = none := by rw [← List.head?_drop, here, List.head?_nil]
      rw [Text.Run.iff_or]
      simp [manyStops, absent]
  | cons c rest ih =>
      obtain ⟨found, after⟩ := Text.of_drop_eq_cons here
      rw [Text.Run.iff_or, found, Option.any_some, ← ih (start + 1) after, manyStops]
      by_cases holds : cls.holds c
      · simp [holds, or_comm]
      · simp [holds]

@[simp] theorem mem_outcomes_many {cls : CharClass} :
    (stop, groups) ∈ (many cls).outcomes text start ↔
      Text.Run cls.holds text start stop ∧ groups = [] := by
  rw [outcomes, ← mem_manyStops]
  simp only [List.mem_map, Prod.mk.injEq]
  constructor
  · rintro ⟨_, member, rfl, rfl⟩
    exact ⟨member, rfl⟩
  · rintro ⟨member, rfl⟩
    exact ⟨stop, member, rfl, rfl⟩

@[simp] theorem mem_outcomes_seq {first second : Pattern} :
    (stop, groups) ∈ (seq first second).outcomes text start ↔
      ∃ middle passed more, (middle, passed) ∈ first.outcomes text start ∧
        (stop, more) ∈ second.outcomes text middle ∧ groups = more ++ passed := by
  simp only [outcomes, List.mem_flatMap, List.mem_map, Prod.exists, Prod.mk.injEq]
  constructor
  · rintro ⟨middle, passed, before, stop, more, after, rfl, rfl⟩
    exact ⟨middle, passed, more, before, after, rfl⟩
  · rintro ⟨middle, passed, more, before, after, rfl⟩
    exact ⟨middle, passed, before, stop, more, after, rfl, rfl⟩

@[simp] theorem mem_outcomes_either {first second : Pattern} :
    (stop, groups) ∈ (either first second).outcomes text start ↔
      (stop, groups) ∈ first.outcomes text start ∨ (stop, groups) ∈ second.outcomes text start := by
  rw [outcomes, List.mem_append]

@[simp] theorem mem_outcomes_optional {body : Pattern} :
    (stop, groups) ∈ (optional body).outcomes text start ↔
      (stop, groups) ∈ body.outcomes text start ∨ stop = start ∧ groups = [] := by
  rw [outcomes, List.mem_append, List.mem_singleton, Prod.mk.injEq]

@[simp] theorem mem_outcomes_group {index : Nat} {body : Pattern} :
    (stop, groups) ∈ (group index body).outcomes text start ↔
      ∃ inner, (stop, inner) ∈ body.outcomes text start ∧
        groups = (index, Text.slice text start stop) :: inner := by
  simp only [outcomes, List.mem_map, Prod.exists, Prod.mk.injEq]
  constructor
  · rintro ⟨_, inner, member, rfl, rfl⟩
    exact ⟨inner, member, rfl⟩
  · rintro ⟨inner, member, rfl⟩
    exact ⟨stop, inner, member, rfl, rfl⟩

/-- The outcomes reach exactly the ends of the stretches that the pattern spells. -/
theorem exists_mem_outcomes_iff (pattern : Pattern) (text : List Char) (start stop : Nat) :
    (∃ groups, (stop, groups) ∈ pattern.outcomes text start) ↔ pattern.Spells text start stop := by
  induction pattern generalizing start stop with
  | boundary | exactly | one | many => simp [Spells]
  | seq first second ihFirst ihSecond =>
      simp only [Spells, ← ihFirst, ← ihSecond, mem_outcomes_seq]
      constructor
      · rintro ⟨_, middle, passed, more, before, after, -⟩
        exact ⟨middle, ⟨passed, before⟩, ⟨more, after⟩⟩
      · rintro ⟨middle, ⟨passed, before⟩, ⟨more, after⟩⟩
        exact ⟨more ++ passed, middle, passed, more, before, after, rfl⟩
  | either first second ihFirst ihSecond =>
      simp only [Spells, ← ihFirst, ← ihSecond, mem_outcomes_either, exists_or]
  | optional body ih => simp [Spells, ← ih, exists_or]
  | group index body ih =>
      simp only [Spells, ← ih, mem_outcomes_group]
      constructor
      · rintro ⟨_, inner, member, -⟩
        exact ⟨inner, member⟩
      · rintro ⟨inner, member⟩
        exact ⟨_, inner, member, rfl⟩

end Pattern

end OverflowScan
