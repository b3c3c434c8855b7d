import Mathlib.Data.List.Basic
import OverflowScan.Proofs.Catalog.Heads
import OverflowScan.Proofs.Pass.Transport
import OverflowScan.Proofs.Pattern.Sweep
import OverflowScan.Proofs.Pattern.Words
import OverflowScan.Proofs.Text.Seams

set_option autoImplicit false

namespace OverflowScan.FunctionPass

open Catalog
open Text (IsGap)

/-- The head of a function: where it starts, its name, its parameters, and where it ends, right
behind the opening brace. -/
structure Header where
  start : Nat
  name : List Char
  parameters : List Char
  stop : Nat
  deriving DecidableEq, Repr

namespace Header

def at? (text : List Char) (start : Nat) : Option Header := do
  let kind ← returnTypes.find? fun kind => kind <+: text.drop start
  let nameStart := Text.passOver Text.isBlank text (start + kind.length)
  let nameStop := Text.passOver CharClass.identifier.holds text nameStart
  if Text.WordEdge text start ∧ start + kind.length < nameStart ∧ nameStart < nameStop then
    let paren ← Text.afterBlanks? '(' text nameStop
    let close ← Text.first? ')' text (paren + 1)
    let brace ← Text.afterBlanks? '\x7b' text (close + 1)
    return {
      start := start
      name := Text.slice text nameStart nameStop
      parameters := Text.slice text (paren + 1) close
      stop := brace + 1 }
  else none

theorem find?_returnTypes_eq_some_iff {text kind : List Char} {start : Nat} :
    (returnTypes.find? fun kind => kind <+: text.drop start) = some kind ↔
      kind ∈ returnTypes ∧ kind <+: text.drop start := by
  have stands {kind : List Char}
      (found : (returnTypes.find? fun kind => kind <+: text.drop start) = some kind) :
      kind ∈ returnTypes ∧ kind <+: text.drop start := by
    have holds := List.find?_some found
    exact ⟨List.mem_of_find?_eq_some found, of_decide_eq_true holds⟩
  refine ⟨stands, fun ⟨listed, keyword⟩ => ?_⟩
  cases found : returnTypes.find? fun kind => kind <+: text.drop start with
  | none => exact absurd keyword (by simpa using List.find?_eq_none.mp found kind listed)
  | some other =>
      obtain ⟨listed', keyword'⟩ := stands found
      rw [returnTypes_unique listed listed' keyword keyword']

theorem at?_eq_some_iff {text : List Char} {start : Nat} {header : Header} :
    at? text start = some header ↔
      ∃ kind nameStart nameStop paren close brace,
        FunctionHead text start kind nameStart nameStop paren close brace ∧
          header = ⟨start, Text.slice text nameStart nameStop, Text.slice text (paren + 1) close,
            brace + 1⟩ := by
  have paren : ¬ Text.isBlank '(' := by decide
  have brace : ¬ Text.isBlank '\x7b' := by decide
  simp only [at?, Option.ite_none_right_eq_some, Option.bind_eq_bind, Option.bind_eq_some_iff,
    find?_returnTypes_eq_some_iff, Text.afterBlanks?_eq_some_iff paren,
    Text.afterBlanks?_eq_some_iff brace, Text.first?_eq_some_iff, Option.pure_def,
    Option.some.injEq]
  constructor
  · rintro ⟨kind, ⟨listed, keyword⟩, ⟨edge, spaced, filled⟩, paren, ⟨blank, opened⟩, close,
      ⟨parameters, closed⟩, brace, ⟨after, braced⟩, rfl⟩
    exact ⟨kind, _, _, paren, close, brace,
      ⟨edge, listed, keyword, ⟨spaced, Text.run_passOver _ text _⟩,
        ⟨filled, Text.run_passOver _ text _⟩, blank, opened, parameters, closed, after, braced⟩,
      rfl⟩
  · rintro ⟨kind, nameStart, nameStop, paren, close, brace, head, rfl⟩
    have spaced := Text.passOver_eq_iff.mpr ⟨head.gap.2, head.gap_ended⟩
    have named := Text.passOver_eq_iff.mpr ⟨head.named.2, head.name_ended⟩
    refine ⟨kind, ⟨head.listed, head.keyword⟩, ?_⟩
    rw [spaced, named]
    exact ⟨⟨head.edge, head.gap.1, head.named.1⟩, paren, ⟨head.blank, head.opened⟩, close,
      ⟨head.parameters, head.closed⟩, brace, ⟨head.after, head.braced⟩, rfl⟩

def ofMatch (found : Match) : Header :=
  ⟨found.start, (found.group? 2).getD [], (found.group? 3).getD [], found.stop⟩

/-- The scanner sees a head exactly where the pattern matches. -/
theorem at?_eq_matchAt? (text : List Char) (start : Nat) :
    at? text start = (Catalog.function.matchAt? (Cursor.place text start)).map ofMatch := by
  apply Option.ext
  intro header
  rw [at?_eq_some_iff, Option.map_eq_some_iff]
  simp only [steady_function.matchAt?_eq_some_iff]
  constructor
  · rintro ⟨kind, nameStart, nameStop, paren, close, brace, head, rfl⟩
    have member := mem_outcomes_function.mpr
      ⟨kind, nameStart, nameStop, paren, close, brace, head, rfl, rfl⟩
    exact ⟨_, ⟨_, member, rfl⟩, rfl⟩
  · rintro ⟨_, ⟨⟨stop, groups⟩, member, rfl⟩, rfl⟩
    obtain ⟨kind, nameStart, nameStop, paren, close, brace, head, rfl, rfl⟩ :=
      mem_outcomes_function.mp member
    exact ⟨kind, nameStart, nameStop, paren, close, brace, head, rfl⟩

end Header

def pointedTypes : List (List Char) :=
  ["char".toList, "int".toList, "float".toList, "double".toList]

/-- Some parameter is a pointer: a type, an asterisk and a letter, with nothing but blanks between
them. -/
def HasPointer (parameters : List Char) : Prop :=
  ∃ kind ∈ pointedTypes, ∃ gap space letter, IsGap gap ∧ IsGap space ∧
    CharClass.identifier.holds letter ∧ kind ++ (gap ++ '*' :: (space ++ [letter])) <:+: parameters

theorem pointerParameter_occursIn_iff (parameters : List Char) :
    pointerParameter.occursIn parameters ↔ HasPointer parameters := by
  rw [Pattern.occursIn_iff_infix rfl (by decide)]
  constructor
  · rintro ⟨_, ⟨kind, _, typed, atGap, rfl⟩, inside⟩
    obtain ⟨gap, _, before, atSign, rfl⟩ := atGap
    obtain ⟨_, _, rfl, atSpace, rfl⟩ := atSign
    obtain ⟨space, name, after, named, rfl⟩ := atSpace
    obtain ⟨_, more, ⟨letter, holds, rfl⟩, -, rfl⟩ := named
    have listed := (Pattern.accepts_words "char".toList pointedTypes.tail).mp typed
    refine ⟨kind, listed, gap, space, letter, before, after, holds, .trans ?_ inside⟩
    exact ⟨[], more, by simp⟩
  · rintro ⟨kind, listed, gap, space, letter, before, after, holds, inside⟩
    have typed := (Pattern.accepts_words "char".toList pointedTypes.tail).mpr listed
    refine ⟨_, ⟨kind, _, typed, ?_, rfl⟩, inside⟩
    refine ⟨gap, _, before, ?_, rfl⟩
    refine ⟨['*'], _, rfl, ?_, rfl⟩
    exact ⟨space, [letter], after, Pattern.accepts_singleton holds, rfl⟩

instance (parameters : List Char) : Decidable (HasPointer parameters) :=
  decidable_of_iff _ (pointerParameter_occursIn_iff parameters)

def HasAssignment (body : List Char) : Prop :=
  ∃ first second : Nat, first < second ∧ body[first]? = some '=' ∧ body[second]? = some ';'

instance (body : List Char) : Decidable (HasAssignment body) :=
  decidable_of_iff _ (assignment_occursIn_iff body)

/-- What stands between the opening brace of a head and the first closing brace behind it, with the
opening brace. -/
def Header.body? (text : List Char) (header : Header) : Option (List Char) :=
  (Text.first? '\x7d' text header.stop).map (Text.slice text (header.stop - 1))

theorem bodyAt?_eq_map_first? (text : List Char) (offset : Nat) :
    Text.bodyAt? text offset = (Text.first? '\x7d' text offset).map (Text.slice text offset) := by
  apply Option.ext
  intro body
  rw [Text.bodyAt?_eq_some_iff, Option.map_eq_some_iff]
  simp only [Text.first?_eq_some_iff]
  constructor
  · rintro ⟨unclosed, rest, split⟩
    have run := Text.Run.of_drop_eq split (CharClass.forall_holds_butNot_iff.mpr unclosed)
    have closed := (Text.of_drop_eq_cons (Text.drop_add_length split)).1
    exact ⟨_, ⟨run, closed⟩, Text.slice_eq_of_prefix text body offset ⟨_, split.symm⟩⟩
  · rintro ⟨stop, ⟨run, closed⟩, rfl⟩
    refine ⟨CharClass.forall_holds_butNot_iff.mp run.forall_mem, text.drop (stop + 1), ?_⟩
    rw [← Text.slice_append_drop text run.1, ← Text.slice_append_drop text (Nat.le_succ stop),
      Text.slice_singleton closed]
    rfl

theorem bodyAt?_eq_body? {text : List Char} {found : Match}
    (occurs : Catalog.function.Occurs text found) :
    Text.bodyAt? text ((found.stop : Int) - 1) = (Header.ofMatch found).body? text := by
  obtain ⟨_, _, _, _, _, brace, head, stop, -⟩ := mem_outcomes_function.mp occurs.mem
  have before : ((found.stop : Int) - 1) = brace := by omega
  rw [before, bodyAt?_eq_map_first?, Header.body?, Header.ofMatch]
  simp only [stop, Nat.add_sub_cancel]
  rw [Text.first?_succ head.braced (by decide)]

/-- A function takes a pointer, and its body, which ends, holds an assignment. -/
def Header.Writes (text : List Char) (header : Header) : Prop :=
  HasPointer header.parameters ∧ ∃ body ∈ header.body? text, HasAssignment body

instance (text : List Char) (header : Header) : Decidable (header.Writes text) :=
  inferInstanceAs (Decidable (_ ∧ _))

def Header.finding (text : List Char) (header : Header) : Finding :=
  ⟨String.ofList header.name, Text.lineNumberAt text header.start, description, .medium,
    FunctionPass.name⟩

theorem functionFinding?_eq_ite_writes {text : List Char} {found : Match}
    (occurs : Catalog.function.Occurs text found) :
    functionFinding? text found =
      if (Header.ofMatch found).Writes text then some ((Header.ofMatch found).finding text)
      else none := by
  have writes : (Header.ofMatch found).Writes text ↔
      pointerParameter.occursIn ((found.group? 3).getD []) ∧
        assigns (Text.bodyAt? text ((found.stop : Int) - 1)) := by
    rw [pointerParameter_occursIn_iff, assigns, Option.any_eq_true, bodyAt?_eq_body? occurs]
    simp only [assignment_occursIn_iff]
    rfl
  simp only [functionFinding?_eq_ite, writes]
  rfl

/-- The function pass goes through a text in one sweep: it takes the first head at or after the end
of the one before, and reports it if the function takes a pointer and assigns. -/
theorem function_pass_sweeps (text : List Char) :
    ∃ headers, (∀ swept, Sweep (Header.at? text) Header.stop 0 swept ↔ swept = headers) ∧
      findings text =
        (headers.filter fun header => header.Writes text).map (Header.finding text) := by
  refine ⟨(Catalog.function.findAll text).map Header.ofMatch, fun swept => ?_, ?_⟩
  · exact Pattern.sweep_findAll_iff (by decide) (Header.at?_eq_matchAt? text) fun _ => rfl
  · rw [findings, ← List.filterMap_eq_map, List.filterMap_filter, List.filterMap_map]
    refine List.filterMap_congr fun found member => ?_
    have occurs := Pattern.occurs_of_mem_occurrences function text (by decide) 0 found member
    simp only [functionFinding?_eq_ite_writes occurs, Function.comp_def, decide_eq_true_eq]

end OverflowScan.FunctionPass
