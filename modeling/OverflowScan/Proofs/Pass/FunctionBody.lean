import Mathlib.Order.Bounds.Defs
import OverflowScan.Proofs.Pass.FunctionScanner
import OverflowScan.Proofs.Pass.LastBracket

set_option autoImplicit false

namespace OverflowScan

namespace Text

variable {text : List Char} {c : Char} {start stop : Nat}

/-- An offset counts from the start of a text, or backwards from its end but not beyond the start.
It may lie behind the end. -/
theorem position_eq_ite (text : List Char) (offset : Int) :
    (position text offset : Int) =
      if 0 ≤ offset then offset else max 0 (text.length + offset) := by
  unfold position
  split <;> omega

theorem bodyAt?_position (text : List Char) (offset : Int) :
    bodyAt? text offset = bodyAt? text (position text offset : Nat) := rfl

theorem first?_eq_some_iff_isLeast :
    first? c text start = some stop ↔ IsLeast {k | start ≤ k ∧ text[k]? = some c} stop := by
  rw [first?_eq_some_iff]
  constructor
  · rintro ⟨run, found⟩
    refine ⟨⟨run.1, found⟩, ?_⟩
    rintro k ⟨after, again⟩
    exact run.le_of_butNot again after
  · rintro ⟨⟨order, found⟩, least⟩
    refine ⟨⟨order, fun i lower upper => ?_⟩, found⟩
    have inside : i < text.length := by
      have bound := (List.getElem?_eq_some_iff.mp found).1
      omega
    rw [List.getElem?_eq_getElem inside, Option.any_some]
    -- a closing character before the least one would be a lesser one
    refine bne_iff_ne.mpr fun same => ?_
    have lesser := least ⟨lower, by rw [List.getElem?_eq_getElem inside, same]⟩
    omega

theorem first?_eq_none_iff :
    first? c text start = none ↔ ∀ k, start ≤ k → text[k]? ≠ some c := by
  rw [Option.eq_none_iff_forall_ne_some, ← not_exists, exists_first?_iff]
  push Not
  rfl

theorem closed_of_isLeast (least : IsLeast {k | start ≤ k ∧ text[k]? = some c} stop) :
    c ∉ slice text start stop ∧ text[start + (slice text start stop).length]? = some c := by
  obtain ⟨run, found⟩ := first?_eq_some_iff.mp (first?_eq_some_iff_isLeast.mpr least)
  refine ⟨CharClass.forall_holds_butNot_iff.mp run.forall_mem, ?_⟩
  rw [run.length_slice, Nat.add_sub_cancel' run.1]
  exact found

end Text

namespace FunctionPass

open Catalog

theorem brace_of_occurs {text : List Char} {found : Match}
    (occurs : Catalog.function.Occurs text found) :
    0 < found.stop ∧ text[found.stop - 1]? = some '\x7b' := by
  obtain ⟨_, _, _, _, _, brace, head, stop, -⟩ := mem_outcomes_function.mp occurs.mem
  simp only [stop, Nat.add_sub_cancel]
  exact ⟨Nat.succ_pos brace, head.braced⟩

/-- The body at an opening brace starts with it, since the brace is not a closing one. -/
theorem head?_body {text body : List Char} {brace : Nat} (braced : text[brace]? = some '\x7b')
    (extracted : Text.bodyAt? text brace = some body) : body.head? = some '\x7b' := by
  rw [bodyAt?_eq_map_first?, Option.map_eq_some_iff] at extracted
  obtain ⟨stop, found, rfl⟩ := extracted
  obtain ⟨run, closed⟩ := Text.first?_eq_some_iff.mp found
  have apart : brace ≠ stop := by
    rintro rfl
    exact absurd (braced.symm.trans closed) (by decide)
  have order := run.1
  rw [List.head?_eq_getElem?, Text.getElem?_slice text brace stop 0 (by omega), Nat.add_zero,
    braced]

/-- The body at an offset is the text from the position that the offset names up to the first
closing brace there or behind it, and there is none exactly if no such brace follows. The pass asks
for it at the opening brace of a function, with which the body then starts. -/
theorem body_extraction_exact :
    (∀ (text : List Char) (offset : Int), ∃ start : Nat,
      (start : Int) = (if 0 ≤ offset then offset else max 0 (text.length + offset)) ∧
      (Text.bodyAt? text offset = none ↔ ∀ k, start ≤ k → text[k]? ≠ some '\x7d') ∧
      ∀ body, Text.bodyAt? text offset = some body ↔
        ∃ stop, IsLeast {k | start ≤ k ∧ text[k]? = some '\x7d'} stop ∧
          body = Text.slice text start stop ∧
          '\x7d' ∉ body ∧ text[start + body.length]? = some '\x7d') ∧
    ∀ (text : List Char), ∀ found ∈ Catalog.function.findAll text,
      0 ≤ (found.stop : Int) - 1 ∧ text[found.stop - 1]? = some '\x7b' ∧
      ∀ body, Text.bodyAt? text ((found.stop : Int) - 1) = some body →
        body.head? = some '\x7b' := by
  constructor
  · intro text offset
    refine ⟨Text.position text offset, Text.position_eq_ite text offset, ?_, ?_⟩
    · rw [Text.bodyAt?_position, bodyAt?_eq_map_first?, Option.map_eq_none_iff,
        Text.first?_eq_none_iff]
    · intro body
      rw [Text.bodyAt?_position, bodyAt?_eq_map_first?, Option.map_eq_some_iff]
      simp only [Text.first?_eq_some_iff_isLeast]
      constructor
      · rintro ⟨stop, least, rfl⟩
        exact ⟨stop, least, rfl, Text.closed_of_isLeast least⟩
      · rintro ⟨stop, least, rfl, -⟩
        exact ⟨stop, least, rfl⟩
  · intro text found member
    have occurs := Pattern.occurs_of_mem_occurrences function text (by decide) 0 found member
    obtain ⟨positive, braced⟩ := brace_of_occurs occurs
    have brace : (found.stop : Int) - 1 = (found.stop - 1 : Nat) := by omega
    refine ⟨by omega, braced, ?_⟩
    rw [brace]
    intro body extracted
    exact head?_body braced extracted

theorem closed_block_opens_with_brace :
    let text := "int f()\x7ba;\x7d".toList
    let found : Match := ⟨0, 8, "int f()\x7b".toList, [(3, []), (2, ['f']), (1, "int".toList)]⟩
    found ∈ Catalog.function.findAll text ∧
      Text.bodyAt? text ((found.stop : Int) - 1) = some "\x7ba;".toList ∧
      "\x7ba;".toList.head? = some '\x7b' := by
  intro text found
  have member : found ∈ Catalog.function.findAll text := by decide +kernel
  have extracted : Text.bodyAt? text ((found.stop : Int) - 1) = some "\x7ba;".toList := by decide
  exact ⟨member, extracted, (body_extraction_exact.2 text found member).2.2 _ extracted⟩

example :
    let text := "a\x7d b\x7d".toList
    Text.bodyAt? text (-9) = some ['a'] ∧ Text.bodyAt? text (-3) = some [' ', 'b'] ∧
      Text.bodyAt? text 5 = none := by
  decide

end FunctionPass

end OverflowScan
