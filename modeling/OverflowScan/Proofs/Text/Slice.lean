set_option autoImplicit false

namespace OverflowScan.Text

theorem of_drop_eq_cons {text rest : List Char} {offset : Nat} {c : Char}
    (here : text.drop offset = c :: rest) :
    text[offset]? = some c ∧ text.drop (offset + 1) = rest := by
  constructor
  · rw [← List.head?_drop, here, List.head?_cons]
  · rw [← List.drop_drop, here, List.drop_succ_cons, List.drop_zero]

/-- The characters of a text from one offset up to another. -/
def slice (text : List Char) (start stop : Nat) : List Char :=
  (text.drop start).take (stop - start)

theorem length_slice (text : List Char) (start stop : Nat) (inside : stop ≤ text.length) :
    (slice text start stop).length = stop - start := by
  simp only [slice, List.length_take, List.length_drop]
  omega

theorem slice_prefix_drop (text : List Char) (start stop : Nat) :
    slice text start stop <+: text.drop start :=
  List.take_prefix _ _

theorem slice_infix (text : List Char) (start stop : Nat) : slice text start stop <:+: text :=
  (slice_prefix_drop text start stop).isInfix.trans (List.drop_suffix start text).isInfix

theorem slice_append (text : List Char) (start middle stop : Nat) (left : start ≤ middle)
    (right : middle ≤ stop) :
    slice text start middle ++ slice text middle stop = slice text start stop := by
  have later : text.drop middle = (text.drop start).drop (middle - start) := by
    rw [List.drop_drop, Nat.add_sub_cancel' left]
  have total : stop - start = (middle - start) + (stop - middle) := by omega
  rw [slice, slice, slice, later, total, List.take_add]

theorem slice_append_drop (text : List Char) {start stop : Nat} (order : start ≤ stop) :
    slice text start stop ++ text.drop stop = text.drop start := by
  have rest : (text.drop start).drop (stop - start) = text.drop stop := by
    rw [List.drop_drop, Nat.add_sub_cancel' order]
  rw [slice, ← rest, List.take_append_drop]

theorem slice_eq_of_prefix (text word : List Char) (start : Nat)
    (stands : word <+: text.drop start) : slice text start (start + word.length) = word := by
  obtain ⟨rest, whole⟩ := stands
  rw [slice, Nat.add_sub_cancel_left, ← whole, List.take_left]

theorem prefix_slice (text word : List Char) (start stop : Nat) (stands : word <+: text.drop start)
    (within : start + word.length ≤ stop) : word <+: slice text start stop :=
  List.prefix_take_iff.mpr ⟨stands, by omega⟩

theorem getElem?_slice (text : List Char) (start stop index : Nat) (inside : start + index < stop) :
    (slice text start stop)[index]? = text[start + index]? := by
  rw [slice, List.getElem?_take_of_lt (by omega), List.getElem?_drop]

section

variable {text word : List Char} {start index : Nat}

theorem getElem?_of_prefix (stands : word <+: text.drop start) (inside : index < word.length) :
    text[start + index]? = word[index]? := by
  obtain ⟨rest, split⟩ := stands
  rw [← List.getElem?_drop, ← split, List.getElem?_append_left inside]

theorem getElem?_eq_head? (stands : word <+: text.drop start) (nonempty : word ≠ []) :
    text[start]? = word.head? := by
  rw [← Nat.add_zero start, getElem?_of_prefix stands (List.length_pos_iff.mpr nonempty),
    List.head?_eq_getElem?]

theorem any_imp {p q : Char → Bool} (implies : ∀ c, p c → q c) (here : text[index]?.any p) :
    text[index]?.any q := by
  obtain ⟨c, lookup, holds⟩ := (Option.any_eq_true p text[index]?).mp here
  rw [lookup]
  exact implies c holds

end

theorem lt_length_of_any {text : List Char} {index : Nat} {p : Char → Bool}
    (found : text[index]?.any p) : index < text.length := by
  obtain ⟨c, lookup, -⟩ := (Option.any_eq_true p text[index]?).mp found
  exact (List.getElem?_eq_some_iff.mp lookup).1

@[simp] theorem singleton_prefix_drop (text : List Char) (c : Char) (offset : Nat) :
    [c] <+: text.drop offset ↔ text[offset]? = some c := by
  rw [← List.head?_drop]
  cases text.drop offset <;> simp [eq_comm]

theorem slice_singleton {text : List Char} {offset : Nat} {c : Char}
    (found : text[offset]? = some c) : slice text offset (offset + 1) = [c] :=
  slice_eq_of_prefix text [c] offset ((singleton_prefix_drop text c offset).mpr found)

theorem drop_add_length {text word rest : List Char} {start : Nat}
    (split : text.drop start = word ++ rest) : text.drop (start + word.length) = rest := by
  rw [← List.drop_drop, split, List.drop_left]

/-- Every character of a stretch satisfies a predicate. -/
def Run (p : Char → Bool) (text : List Char) (start stop : Nat) : Prop :=
  start ≤ stop ∧ ∀ i, start ≤ i → i < stop → text[i]?.any p

namespace Run

variable {p q : Char → Bool} {text word : List Char} {start stop index : Nat}

theorem refl (p : Char → Bool) (text : List Char) (start : Nat) : Run p text start start :=
  ⟨Nat.le_refl start, fun i lower upper => by omega⟩

theorem lt_iff : (start < stop ∧ Run p text start stop) ↔
    (text[start]?.any p ∧ Run p text (start + 1) stop) := by
  constructor
  · rintro ⟨filled, -, all⟩
    exact ⟨all start (Nat.le_refl start) filled, filled,
      fun i lower upper => all i (by omega) upper⟩
  · rintro ⟨first, order, all⟩
    refine ⟨order, Nat.le_of_lt order, fun i lower upper => ?_⟩
    rcases Nat.eq_or_lt_of_le lower with rfl | later
    · exact first
    · exact all i later upper

theorem iff_or : Run p text start stop ↔
    stop = start ∨ (text[start]?.any p ∧ Run p text (start + 1) stop) := by
  rw [← lt_iff]
  constructor
  · intro run
    rcases Nat.eq_or_lt_of_le run.1 with same | more
    · exact Or.inl same.symm
    · exact Or.inr ⟨more, run⟩
  · rintro (rfl | ⟨-, run⟩)
    · exact refl p text stop
    · exact run

theorem le_max_length (run : Run p text start stop) : stop ≤ max start text.length := by
  obtain ⟨order, all⟩ := run
  rcases Nat.eq_or_lt_of_le order with rfl | more
  · exact Nat.le_max_left _ _
  · have last := lt_length_of_any (all (stop - 1) (by omega) (by omega))
    omega

theorem length_slice (run : Run p text start stop) :
    (slice text start stop).length = stop - start := by
  have order := run.1
  have bound := run.le_max_length
  simp only [slice, List.length_take, List.length_drop]
  omega

theorem slice_ne_nil (run : Run p text start stop) (filled : start < stop) :
    slice text start stop ≠ [] := by
  have width := run.length_slice
  intro empty
  rw [empty, List.length_nil] at width
  omega

theorem forall_mem (run : Run p text start stop) : ∀ c ∈ slice text start stop, p c := by
  intro c member
  obtain ⟨index, bound, rfl⟩ := List.mem_iff_getElem.mp member
  have width : (slice text start stop).length ≤ stop - start := by
    rw [slice]
    exact List.length_take_le _ _
  have here := run.2 (start + index) (by omega) (by omega)
  rw [← getElem?_slice text start stop index (by omega), List.getElem?_eq_getElem bound,
    Option.any_some] at here
  exact here

theorem of_drop_eq {word rest : List Char} (split : text.drop start = word ++ rest)
    (all : ∀ c ∈ word, p c) : Run p text start (start + word.length) := by
  refine ⟨Nat.le_add_right _ _, fun i lower upper => ?_⟩
  obtain ⟨index, rfl⟩ : ∃ index, i = start + index := ⟨i - start, by omega⟩
  have inside : index < word.length := by omega
  rw [← List.getElem?_drop, split, List.getElem?_append_left inside,
    List.getElem?_eq_getElem inside, Option.any_some]
  exact all _ (List.getElem_mem inside)

theorem of_prefix (stands : word <+: text.drop start) (all : word.all p) :
    Run p text start (start + word.length) := by
  obtain ⟨rest, split⟩ := stands
  exact of_drop_eq split.symm (List.all_eq_true.mp all)

theorem imp (implies : ∀ c, p c → q c) (run : Run p text start stop) : Run q text start stop :=
  ⟨run.1, fun i lower upper => any_imp implies (run.2 i lower upper)⟩

theorem outside (run : Run p text start stop) (other : ¬ text[index]?.any p) :
    index < start ∨ stop ≤ index := by
  rcases Nat.lt_or_ge index start with before | after
  · exact Or.inl before
  · rcases Nat.lt_or_ge index stop with inside | beyond
    · exact absurd (run.2 index after inside) other
    · exact Or.inr beyond

/-- A run that is followed by a character of another kind can stop only there. -/
theorem unique {other : Nat} (run : Run p text start stop) (again : Run p text start other)
    (ended : ¬ text[stop]?.any p) (closed : ¬ text[other]?.any p) : stop = other := by
  rcases Nat.lt_trichotomy stop other with less | equal | greater
  · exact absurd (again.2 stop run.1 less) ended
  · exact equal
  · exact absurd (run.2 other again.1 greater) closed

end Run

/-- The character before an offset; none at the start. -/
def before? (text : List Char) : Nat → Option Char
  | 0 => none
  | offset + 1 => text[offset]?

@[simp] theorem before?_zero (text : List Char) : before? text 0 = none := rfl

@[simp] theorem before?_succ (text : List Char) (offset : Nat) :
    before? text (offset + 1) = text[offset]? := rfl

theorem before?_of_prefix {text word : List Char} {start index : Nat}
    (stands : word <+: text.drop start) (positive : 0 < index)
    (inside : index ≤ word.length) : before? text (start + index) = before? word index := by
  obtain ⟨previous, rfl⟩ := Nat.exists_eq_add_of_le' positive
  exact getElem?_of_prefix stands inside

end OverflowScan.Text
