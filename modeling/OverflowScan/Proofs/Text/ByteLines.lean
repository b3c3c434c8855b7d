import Mathlib.Data.List.SplitBy
import OverflowScan.Proofs.Text.Lines
import OverflowScan.Proofs.Text.Utf8

set_option autoImplicit false

namespace OverflowScan.Utf8

def feed : UInt8 := 0x0A

theorem eq_of_ofNat_eq_feed {code : Nat} (same : Char.ofNat code = '\n') : code = 0x0A := by
  by_cases valid : code.isValidChar
  · rw [Char.ofNat, dif_pos valid] at same
    exact congrArg Char.toNat same
  · rw [Char.ofNat, dif_neg valid] at same
    cases same

theorem feed_not_mem_stepStart {byte : UInt8} (other : byte ≠ feed) :
    '\n' ∉ (stepStart byte).1 := by
  unfold stepStart
  split
  · intro inside
    have code := eq_of_ofNat_eq_feed (List.mem_singleton.mp inside).symm
    exact other (UInt8.toNat_inj.mp code)
  · split
    · exact List.not_mem_nil
    · decide

theorem feed_not_mem_step {state : State} (sound : state.Sound) {byte : UInt8}
    (other : byte ≠ feed) : '\n' ∉ (step state byte).1 := by
  have first := feed_not_mem_stepStart other
  cases state with
  | start => exact first
  | inside owed low high bits =>
      by_cases within : low ≤ byte ∧ byte ≤ high
      · rw [step, if_pos within]
        extract_lets grown
        by_cases last : owed ≤ 1
        · rw [if_pos last]
          have large := sound.grown within.1
          rw [show owed - 1 = 0 by omega, Nat.pow_zero, Nat.mul_one] at large
          intro inside
          have code := eq_of_ofNat_eq_feed (List.mem_singleton.mp inside).symm
          omega
        · rw [if_neg last]
          exact List.not_mem_nil
      · rw [step, if_neg within]
        intro inside
        rcases List.mem_cons.mp inside with same | inside
        · exact absurd same (by decide)
        · exact first inside

theorem feed_not_mem_decodeFrom {state : State} (sound : state.Sound) {bytes : List UInt8}
    (plain : feed ∉ bytes) : '\n' ∉ decodeFrom state bytes := by
  induction bytes generalizing state with
  | nil =>
      cases state with
      | start => exact List.not_mem_nil
      | inside owed low high bits =>
          intro inside
          exact absurd (List.mem_singleton.mp inside) (by decide)
  | cons byte rest ih =>
      intro inside
      rcases List.mem_append.mp inside with here | later
      · refine feed_not_mem_step sound ?_ here
        rintro rfl
        exact plain List.mem_cons_self
      · exact ih (sound_step sound byte) (fun among => plain (List.mem_cons_of_mem _ among)) later

theorem feed_not_mem_decode {bytes : List UInt8} (plain : feed ∉ bytes) : '\n' ∉ decode bytes :=
  feed_not_mem_decodeFrom State.sound_start plain

/-- A line feed cuts the reading in two. -/
theorem decode_append_feed (line rest : List UInt8) :
    decode (line ++ feed :: rest) = decode line ++ '\n' :: decode rest := by
  have fresh : StartsFresh (feed :: rest) := by
    intro byte first
    cases first
    unfold Continues
    decide
  rw [decode_append line fresh]
  rfl

theorem count_feed_decode (bytes : List UInt8) :
    (decode bytes).count '\n' = bytes.count feed := by
  induction bytes using Text.separated_induction feed with
  | last line plain =>
      rw [List.count_eq_zero_of_not_mem plain,
        List.count_eq_zero_of_not_mem (feed_not_mem_decode plain)]
  | step line rest plain ih =>
      rw [decode_append_feed, List.count_append, List.count_append, List.count_cons_self,
        List.count_cons_self, ih, List.count_eq_zero_of_not_mem plain,
        List.count_eq_zero_of_not_mem (feed_not_mem_decode plain)]

/-- The bytes cut after every line feed. There is no empty piece behind a last line feed. -/
def chunks (bytes : List UInt8) : List (List UInt8) :=
  bytes.splitBy fun byte _ => byte ≠ feed

def unfed (chunk : List UInt8) : List UInt8 :=
  if chunk.getLast? = some feed then chunk.dropLast else chunk

theorem unfed_append_feed (line : List UInt8) : unfed (line ++ [feed]) = line := by
  simp [unfed]

theorem unfed_of_plain {line : List UInt8} (plain : feed ∉ line) : unfed line = line :=
  if_neg fun last => plain (List.mem_of_getLast? last)

theorem chunks_of_plain {line : List UInt8} (plain : feed ∉ line) (last : UInt8) :
    chunks (line ++ [last]) = [line ++ [last]] := by
  apply List.splitBy_of_isChain (by simp)
  induction line with
  | nil => exact List.isChain_singleton last
  | cons byte line ih =>
      refine (ih fun among => plain (List.mem_cons_of_mem _ among)).cons fun next _ => ?_
      apply decide_eq_true
      rintro rfl
      exact plain List.mem_cons_self

theorem chunks_append_feed {line : List UInt8} (plain : feed ∉ line) (rest : List UInt8) :
    chunks (line ++ feed :: rest) = (line ++ [feed]) :: chunks rest := by
  have cut : ∀ byte ∈ (line ++ [feed]).getLast?, ∀ next ∈ rest.head?,
      decide (byte ≠ feed) = false := by
    simp
  rw [← List.singleton_append, ← List.append_assoc]
  exact (List.splitBy_append cut).trans (congrArg (· ++ chunks rest) (chunks_of_plain plain feed))

/-- The lines of a file are its chunks, each read on its own. -/
theorem lines_decode (bytes : List UInt8) :
    Text.lines (decode bytes) = (chunks bytes).map fun chunk => decode (unfed chunk) := by
  induction bytes using Text.separated_induction feed with
  | last line plain =>
      rcases List.eq_nil_or_concat' line with rfl | ⟨front, final, rfl⟩
      · rfl
      · have filled : decode (front ++ [final]) ≠ [] := decode_ne_nil (by simp)
        have uncut : feed ∉ front := fun among => plain (List.mem_append_left _ among)
        rw [Text.lines_unterminated _ (feed_not_mem_decode plain) filled, chunks_of_plain uncut,
          List.map_singleton, unfed_of_plain plain]
  | step line rest plain ih =>
      rw [decode_append_feed, Text.lines_append_feed _ _ (feed_not_mem_decode plain), ih,
        chunks_append_feed plain, List.map_cons, unfed_append_feed]

/-- An ill-formed part of a file affects only its own line. Each line is what the reader makes of
its chunk alone, so two files agree on every line whose chunks agree; more generally, reading can be
cut before any byte that does not continue a character. Line feeds are neither swallowed nor made
up, and a text that was written is read back. -/
theorem ill_formed_bytes_keep_to_line :
    (∀ bytes : List UInt8,
      Text.lines (decode bytes) = (chunks bytes).map fun chunk => decode (unfed chunk)) ∧
    (∀ (bytes other : List UInt8) (index : Nat),
      (chunks bytes)[index]? = (chunks other)[index]? →
        (Text.lines (decode bytes))[index]? = (Text.lines (decode other))[index]?) ∧
    (∀ front rest : List UInt8, StartsFresh rest →
      decode (front ++ rest) = decode front ++ decode rest) ∧
    (∀ bytes : List UInt8, (decode bytes).count '\n' = bytes.count feed) ∧
    ∀ text : List Char, decode (encode text) = text := by
  refine ⟨lines_decode, ?_, fun front _ => decode_append front, count_feed_decode, decode_encode⟩
  intro bytes other index same
  rw [lines_decode, lines_decode, List.getElem?_map, List.getElem?_map, same]

theorem cut_character_keeps_to_line :
    decode ([0x41, 0xE2, 0x82] ++ [0x0A, 0x42]) = decode [0x41, 0xE2, 0x82] ++ decode [0x0A, 0x42] ∧
    (Text.lines (decode [0x41, 0xE2, 0x82, 0x0A, 0x42]))[1]? =
      (Text.lines (decode [0x41, 0x0A, 0x42]))[1]? := by
  refine ⟨ill_formed_bytes_keep_to_line.2.2.1 _ _ ?_, ill_formed_bytes_keep_to_line.2.1 _ _ 1 ?_⟩
  · intro byte first
    cases first
    unfold Continues
    decide
  · rfl

end OverflowScan.Utf8
