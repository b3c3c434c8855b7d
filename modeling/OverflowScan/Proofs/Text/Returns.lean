import OverflowScan.Proofs.Text.Seams

set_option autoImplicit false

namespace OverflowScan.Text

def crlfChar (c : Char) : List Char :=
  if c = '\n' then ['\r', '\n'] else [c]

/-- The text with a carriage return in front of every line feed. -/
def crlf (text : List Char) : List Char :=
  text.flatMap crlfChar

@[simp] theorem crlf_nil : crlf [] = [] := rfl

@[simp] theorem crlf_feed (rest : List Char) :
    crlf ('\n' :: rest) = '\r' :: '\n' :: crlf rest := rfl

theorem crlf_cons {c : Char} (other : c ≠ '\n') (rest : List Char) :
    crlf (c :: rest) = c :: crlf rest := by
  simp [crlf, crlfChar, other]

theorem crlf_append (first second : List Char) :
    crlf (first ++ second) = crlf first ++ crlf second :=
  List.flatMap_append

theorem crlf_of_plain {text : List Char} (plain : '\n' ∉ text) : crlf text = text := by
  induction text with
  | nil => rfl
  | cons c rest ih =>
      have other : c ≠ '\n' := by
        rintro rfl
        exact plain List.mem_cons_self
      rw [crlf_cons other, ih fun inside => plain (List.mem_cons_of_mem c inside)]

theorem length_crlf (text : List Char) : (crlf text).length = text.length + text.count '\n' := by
  induction text with
  | nil => rfl
  | cons c rest ih =>
      by_cases feed : c = '\n'
      · subst feed
        simp only [crlf_feed, List.length_cons, List.count_cons_self, ih]
        omega
      · simp only [crlf_cons feed, List.length_cons, List.count_cons_of_ne feed, ih]
        omega

theorem count_crlf (text : List Char) : (crlf text).count '\n' = text.count '\n' := by
  induction text with
  | nil => rfl
  | cons c rest ih =>
      by_cases feed : c = '\n'
      · subst feed
        rw [crlf_feed, List.count_cons_of_ne (by decide), List.count_cons_self,
          List.count_cons_self, ih]
      · rw [crlf_cons feed, List.count_cons_of_ne feed, List.count_cons_of_ne feed, ih]

theorem mem_crlf {c : Char} (plain : c ≠ '\r') (text : List Char) : c ∈ crlf text ↔ c ∈ text := by
  induction text with
  | nil => simp
  | cons d rest ih =>
      by_cases feed : d = '\n'
      · subst feed
        simp [plain, ih]
      · simp [crlf_cons feed, ih]

/-- The place of an offset: each line feed before it takes one character more. -/
def crlfOffset (text : List Char) (offset : Nat) : Nat :=
  offset + (text.take offset).count '\n'

variable {text : List Char} {offset : Nat}

theorem crlfOffset_add (text : List Char) (offset count : Nat) :
    crlfOffset text (offset + count) =
      crlfOffset text offset + crlfOffset (text.drop offset) count := by
  rw [crlfOffset, crlfOffset, crlfOffset, List.take_add, List.count_append]
  omega

theorem crlfOffset_succ (other : text[offset]? ≠ some '\n') :
    crlfOffset text (offset + 1) = crlfOffset text offset + 1 := by
  have none : ((text.drop offset).take 1).count '\n' = 0 := by
    refine List.count_eq_zero_of_not_mem fun member => other ?_
    rw [← List.head?_drop]
    cases here : text.drop offset with
    | nil => simp [here] at member
    | cons c rest => simpa [here, eq_comm] using member
  rw [crlfOffset_add, crlfOffset.eq_1 (text.drop offset), none]

theorem crlfOffset_succ_feed (feed : text[offset]? = some '\n') :
    crlfOffset text (offset + 1) = crlfOffset text offset + 2 := by
  have one : (text.drop offset).take 1 = ['\n'] := by
    have single := slice_singleton feed
    rwa [slice, Nat.add_sub_cancel_left] at single
  rw [crlfOffset_add, crlfOffset.eq_1 (text.drop offset), one]
  rfl

theorem crlfOffset_lt {first second : Nat} (order : first < second) :
    crlfOffset text first < crlfOffset text second := by
  obtain ⟨count, rfl⟩ := Nat.exists_eq_add_of_lt order
  rw [Nat.add_assoc, crlfOffset_add, crlfOffset.eq_1 (text.drop first)]
  omega

theorem crlfOffset_lt_iff {first second : Nat} :
    crlfOffset text first < crlfOffset text second ↔ first < second := by
  refine ⟨fun order => ?_, crlfOffset_lt⟩
  rcases Nat.lt_trichotomy first second with less | rfl | greater
  · exact less
  · exact absurd order (Nat.lt_irrefl _)
  · exact absurd (crlfOffset_lt greater) (Nat.lt_asymm order)

theorem crlfOffset_le_iff {first second : Nat} :
    crlfOffset text first ≤ crlfOffset text second ↔ first ≤ second := by
  rw [← Nat.not_lt, crlfOffset_lt_iff, Nat.not_lt]

theorem crlfOffset_inj {first second : Nat} :
    crlfOffset text first = crlfOffset text second ↔ first = second := by
  refine ⟨fun same => ?_, fun same => by rw [same]⟩
  have left := crlfOffset_le_iff.mp (Nat.le_of_eq same)
  have right := crlfOffset_le_iff.mp (Nat.le_of_eq same.symm)
  omega

theorem length_crlf_le (beyond : text.length ≤ offset) :
    (crlf text).length ≤ crlfOffset text offset := by
  rw [length_crlf, crlfOffset, List.take_of_length_le beyond]
  omega

theorem crlfOffset_lt_length (inside : offset < text.length) :
    crlfOffset text offset < (crlf text).length := by
  have fewer := (List.take_sublist offset text).count_le '\n'
  rw [length_crlf, crlfOffset]
  omega

theorem take_crlf (text : List Char) (offset : Nat) :
    (crlf text).take (crlfOffset text offset) = crlf (text.take offset) := by
  by_cases within : offset ≤ text.length
  · have split : crlf text = crlf (text.take offset) ++ crlf (text.drop offset) := by
      rw [← crlf_append, List.take_append_drop]
    have width : crlfOffset text offset = (crlf (text.take offset)).length := by
      rw [length_crlf, List.length_take, Nat.min_eq_left within, crlfOffset]
    rw [split, width, List.take_left]
  · rw [List.take_of_length_le (length_crlf_le (by omega)), List.take_of_length_le (by omega)]

theorem drop_crlf (text : List Char) (offset : Nat) :
    (crlf text).drop (crlfOffset text offset) = crlf (text.drop offset) := by
  have whole : crlf (text.take offset) ++ (crlf text).drop (crlfOffset text offset) =
      crlf (text.take offset) ++ crlf (text.drop offset) := by
    rw [← take_crlf, List.take_append_drop, take_crlf, ← crlf_append, List.take_append_drop]
  exact List.append_cancel_left whole

theorem slice_crlf (text : List Char) {start stop : Nat} (order : start ≤ stop) :
    slice (crlf text) (crlfOffset text start) (crlfOffset text stop) =
      crlf (slice text start stop) := by
  obtain ⟨count, rfl⟩ := Nat.exists_eq_add_of_le order
  rw [slice, slice, drop_crlf, crlfOffset_add, Nat.add_sub_cancel_left, take_crlf,
    Nat.add_sub_cancel_left]

theorem getElem?_crlf (other : text[offset]? ≠ some '\n') :
    (crlf text)[crlfOffset text offset]? = text[offset]? := by
  rw [← List.head?_drop, drop_crlf, ← List.head?_drop]
  rw [← List.head?_drop] at other
  cases here : text.drop offset with
  | nil => rfl
  | cons c rest =>
      rw [here, List.head?_cons, ne_eq, Option.some.injEq] at other
      rw [crlf_cons other, List.head?_cons, List.head?_cons]

theorem getElem?_crlf_feed (feed : text[offset]? = some '\n') :
    (crlf text)[crlfOffset text offset]? = some '\r' ∧
      (crlf text)[crlfOffset text offset + 1]? = some '\n' := by
  have inside := (List.getElem?_eq_some_iff.mp feed).1
  have here : text.drop offset = '\n' :: text.drop (offset + 1) := by
    rw [List.drop_eq_getElem_cons inside, (List.getElem?_eq_some_iff.mp feed).2]
  have changed := drop_crlf text offset
  rw [here, crlf_feed] at changed
  obtain ⟨first, rest⟩ := of_drop_eq_cons changed
  exact ⟨first, (of_drop_eq_cons rest).1⟩

theorem any_crlf {p : Char → Bool} (alike : p '\n' = p '\r') (text : List Char) (offset : Nat) :
    (crlf text)[crlfOffset text offset]?.any p = text[offset]?.any p := by
  by_cases feed : text[offset]? = some '\n'
  · rw [(getElem?_crlf_feed feed).1, feed, Option.any_some, Option.any_some, alike]
  · rw [getElem?_crlf feed]

theorem getElem?_crlf_eq_some_iff {c : Char} (feed : c ≠ '\n') (ret : c ≠ '\r') :
    (crlf text)[crlfOffset text offset]? = some c ↔ text[offset]? = some c := by
  by_cases here : text[offset]? = some '\n'
  · rw [(getElem?_crlf_feed here).1, here, Option.some.injEq, Option.some.injEq]
    exact ⟨fun same => absurd same.symm ret, fun same => absurd same.symm feed⟩
  · rw [getElem?_crlf here]

theorem before?_crlf (text : List Char) (offset : Nat) :
    before? (crlf text) (crlfOffset text offset) = before? text offset := by
  cases offset with
  | zero => rfl
  | succ offset =>
      by_cases feed : text[offset]? = some '\n'
      · rw [crlfOffset_succ_feed feed, before?_succ, before?_succ, (getElem?_crlf_feed feed).2,
          feed]
      · rw [crlfOffset_succ feed, before?_succ, before?_succ, getElem?_crlf feed]

/-- Every offset of the changed text is a place, or lies between a carriage return and the line feed
it was put in front of. -/
theorem crlfOffset_cases (text : List Char) (place : Nat) :
    (∃ offset, place = crlfOffset text offset) ∨
      ∃ offset, place = crlfOffset text offset + 1 ∧ text[offset]? = some '\n' := by
  induction place with
  | zero => exact Or.inl ⟨0, rfl⟩
  | succ place ih =>
      rcases ih with ⟨offset, rfl⟩ | ⟨offset, rfl, feed⟩
      · by_cases feed : text[offset]? = some '\n'
        · exact Or.inr ⟨offset, rfl, feed⟩
        · exact Or.inl ⟨offset + 1, (crlfOffset_succ feed).symm⟩
      · exact Or.inl ⟨offset + 1, (crlfOffset_succ_feed feed).symm⟩

theorem exists_crlfOffset {place : Nat} (other : (crlf text)[place]? ≠ some '\n') :
    ∃ offset, place = crlfOffset text offset := by
  rcases crlfOffset_cases text place with here | ⟨offset, rfl, feed⟩
  · exact here
  · exact absurd (getElem?_crlf_feed feed).2 other

theorem exists_crlfOffset_of_before? {place : Nat} (other : before? (crlf text) place ≠ some '\r') :
    ∃ offset, place = crlfOffset text offset := by
  rcases crlfOffset_cases text place with here | ⟨offset, rfl, feed⟩
  · exact here
  · exact absurd (getElem?_crlf_feed feed).1 other

theorem getElem?_crlf_ne_feed (text : List Char) (offset : Nat) :
    (crlf text)[crlfOffset text offset]? ≠ some '\n' := by
  by_cases feed : text[offset]? = some '\n'
  · rw [(getElem?_crlf_feed feed).1]
    decide
  · rw [getElem?_crlf feed]
    exact feed

theorem wordEdge_crlf (text : List Char) (offset : Nat) :
    WordEdge (crlf text) (crlfOffset text offset) ↔ WordEdge text offset := by
  rw [WordEdge, WordEdge, before?_crlf, any_crlf (by decide)]

theorem prefix_crlf_iff {word : List Char} (feed : '\n' ∉ word) (ret : '\r' ∉ word)
    (text : List Char) : word <+: crlf text ↔ word <+: text := by
  induction word generalizing text with
  | nil => simp
  | cons c word ih =>
      rw [List.mem_cons, not_or] at feed ret
      cases text with
      | nil => simp
      | cons d rest =>
          by_cases ending : d = '\n'
          · subst ending
            simp [Ne.symm ret.1, Ne.symm feed.1]
          · simp [crlf_cons ending, ih feed.2 ret.2]

theorem crlfOffset_add_length {word : List Char} (feed : '\n' ∉ word)
    (stands : word <+: text.drop offset) :
    crlfOffset text (offset + word.length) = crlfOffset text offset + word.length := by
  rw [crlfOffset_add, crlfOffset.eq_1 (text.drop offset),
    ← List.prefix_iff_eq_take.mp stands, List.count_eq_zero_of_not_mem feed, Nat.add_zero]

theorem Run.crlf_iff {p : Char → Bool} (alike : p '\n' = p '\r') {start stop : Nat} :
    Run p (crlf text) (crlfOffset text start) (crlfOffset text stop) ↔ Run p text start stop := by
  constructor
  · rintro ⟨order, all⟩
    refine ⟨crlfOffset_le_iff.mp order, fun i lower upper => ?_⟩
    rw [← any_crlf alike]
    exact all _ (crlfOffset_le_iff.mpr lower) (crlfOffset_lt upper)
  · rintro ⟨order, all⟩
    refine ⟨crlfOffset_le_iff.mpr order, fun place lower upper => ?_⟩
    rcases crlfOffset_cases text place with ⟨offset, rfl⟩ | ⟨offset, rfl, feed⟩
    · rw [any_crlf alike]
      exact all offset (crlfOffset_le_iff.mp lower) (crlfOffset_lt_iff.mp upper)
    · -- Between a carriage return and its line feed, both of which belong to the run.
      have next := crlfOffset_succ_feed feed
      have first : crlfOffset text start < crlfOffset text (offset + 1) := by omega
      have last : crlfOffset text offset < crlfOffset text stop := by omega
      have here := all offset (Nat.le_of_lt_succ (crlfOffset_lt_iff.mp first))
        (crlfOffset_lt_iff.mp last)
      rw [feed] at here
      rw [(getElem?_crlf_feed feed).2]
      exact here

theorem lineNumberAt_crlf (text : List Char) (offset : Nat) :
    lineNumberAt (crlf text) (crlfOffset text offset) = lineNumberAt text offset := by
  rw [lineNumberAt_natCast, lineNumberAt_natCast, take_crlf, count_crlf]

theorem bodyAt?_crlf (text : List Char) (offset : Nat) :
    bodyAt? (crlf text) (crlfOffset text offset) = (bodyAt? text offset).map crlf := by
  have brace (rest : List Char) : '\x7d' ∈ crlf rest ↔ '\x7d' ∈ rest := mem_crlf (by decide) rest
  cases found : bodyAt? text offset with
  | none =>
      rw [Option.map_none, ← Option.not_isSome_iff_eq_none, bodyAt?_isSome_iff, drop_crlf, brace,
        ← bodyAt?_isSome_iff, found]
      simp
  | some body =>
      obtain ⟨unclosed, rest, split⟩ := (bodyAt?_eq_some_iff text body offset).mp found
      refine (bodyAt?_eq_some_iff _ _ _).mpr ⟨fun inside => unclosed ((brace body).mp inside),
        crlf rest, ?_⟩
      rw [drop_crlf, split, crlf_append, crlf_cons (by decide)]

end OverflowScan.Text
