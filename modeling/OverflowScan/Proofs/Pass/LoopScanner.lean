import OverflowScan.Proofs.Catalog.Heads
import OverflowScan.Proofs.Pass.Findings
import OverflowScan.Proofs.Pattern.Sweep
import OverflowScan.Proofs.Pattern.Words

set_option autoImplicit false

namespace OverflowScan.LoopPass

open Catalog
open Text (IsGap)

/-- A loop: where it starts, its condition, its body, and where it ends. -/
structure Loop where
  start : Nat
  condition : List Char
  body : List Char
  stop : Nat
  deriving DecidableEq, Repr

namespace Loop

def at? (text : List Char) (start : Nat) : Option Loop :=
  if "for".toList <+: text.drop start then do
    let paren ← Text.afterBlanks? '(' text (start + 3)
    let first ← Text.first? ';' text (paren + 1)
    let second ← Text.first? ';' text (first + 1)
    let close ← Text.first? ')' text (second + 1)
    let brace ← Text.afterBlanks? '\x7b' text (close + 1)
    let last ← Text.first? '\x7d' text (brace + 1)
    return {
      start := start
      condition := Text.slice text (first + 1) second
      body := Text.slice text (brace + 1) last
      stop := last + 1 }
  else none

theorem at?_eq_some_iff {text : List Char} {start : Nat} {loop : Loop} :
    at? text start = some loop ↔
      ∃ paren first second close brace last,
        LoopHead text start paren first second close brace ∧
          Text.Run (CharClass.butNot '\x7d').holds text (brace + 1) last ∧
          text[last]? = some '\x7d' ∧
          loop = ⟨start, Text.slice text (first + 1) second, Text.slice text (brace + 1) last,
            last + 1⟩ := by
  have paren : ¬ Text.isBlank '(' := by decide
  have brace : ¬ Text.isBlank '\x7b' := by decide
  simp only [at?, Option.ite_none_right_eq_some, Option.bind_eq_bind, Option.bind_eq_some_iff,
    Text.afterBlanks?_eq_some_iff paren, Text.afterBlanks?_eq_some_iff brace,
    Text.first?_eq_some_iff, Option.pure_def, Option.some.injEq]
  constructor
  · rintro ⟨keyword, paren, ⟨blank, opened⟩, first, ⟨initial, parted⟩, second,
      ⟨condition, partedAgain⟩, close, ⟨update, closed⟩, brace, ⟨after, braced⟩, last,
      ⟨body, ended⟩, rfl⟩
    exact ⟨paren, first, second, close, brace, last,
      ⟨keyword, blank, opened, initial, parted, condition, partedAgain, update, closed, after,
        braced⟩, body, ended, rfl⟩
  · rintro ⟨paren, first, second, close, brace, last, head, body, ended, rfl⟩
    exact ⟨head.keyword, paren, ⟨head.blank, head.opened⟩, first, ⟨head.initial, head.parted⟩,
      second, ⟨head.condition, head.partedAgain⟩, close, ⟨head.update, head.closed⟩, brace,
      ⟨head.after, head.braced⟩, last, ⟨body, ended⟩, rfl⟩

def ofMatch (found : Match) : Loop :=
  ⟨found.start, (found.group? 2).getD [], (found.group? 4).getD [], found.stop⟩

/-- The scanner sees a loop exactly where the pattern matches. -/
theorem at?_eq_matchAt? (text : List Char) (start : Nat) :
    at? text start = (Catalog.loop.matchAt? (Cursor.place text start)).map ofMatch := by
  apply Option.ext
  intro loop
  rw [at?_eq_some_iff, Option.map_eq_some_iff]
  simp only [steady_loop.matchAt?_eq_some_iff]
  constructor
  · rintro ⟨paren, first, second, close, brace, last, head, body, ended, rfl⟩
    have member := mem_outcomes_loop.mpr
      ⟨paren, first, second, close, brace, last, head, body, ended, rfl, rfl⟩
    exact ⟨_, ⟨_, member, rfl⟩, rfl⟩
  · rintro ⟨_, ⟨⟨stop, groups⟩, member, rfl⟩, rfl⟩
    obtain ⟨paren, first, second, close, brace, last, head, body, ended, rfl, rfl⟩ :=
      mem_outcomes_loop.mp member
    exact ⟨paren, first, second, close, brace, last, head, body, ended, rfl⟩

example : at? "for (;i<n;) \x7b if (i) \x7b a[i]; \x7d \x7d".toList 0 =
    some ⟨0, "i<n".toList, " if (i) \x7b a[i]; ".toList, 30⟩ := by
  decide

end Loop

/-- A body indexes an array: it has an opening bracket, right after it another character than the
closing one, and a closing bracket later on. -/
def Indexes (body : List Char) : Prop :=
  ∃ front c rest, body = front ++ '[' :: c :: rest ∧ c ≠ ']' ∧ ']' ∈ rest

theorem bodyAccess_occursIn_iff (body : List Char) :
    bodyAccess.occursIn body ↔ Indexes body := by
  rw [Pattern.occursIn_iff_infix rfl (by decide)]
  constructor
  · rintro ⟨_, ⟨_, _, rfl, ⟨index, _, inner, rfl, rfl⟩, rfl⟩, front, back, rfl⟩
    obtain ⟨filled, all⟩ := Pattern.accepts_atLeastOne.mp inner
    obtain ⟨c, more, rfl⟩ := List.exists_cons_of_ne_nil filled
    have other := all c List.mem_cons_self
    refine ⟨front, c, more ++ ']' :: back, ?_, bne_iff_ne.mp other, by simp⟩
    simp
  · rintro ⟨front, c, rest, rfl, other, closed⟩
    obtain ⟨more, back, rfl, absent⟩ := List.eq_append_cons_of_mem closed
    have inner : (Pattern.atLeastOne (.butNot ']')).Accepts (c :: more) := by
      refine Pattern.accepts_atLeastOne.mpr ⟨List.cons_ne_nil c more, ?_⟩
      exact List.forall_mem_cons.mpr
        ⟨bne_iff_ne.mpr other, CharClass.forall_holds_butNot_iff.mpr absent⟩
    exact ⟨_, ⟨_, _, rfl, ⟨_, _, inner, rfl, rfl⟩, rfl⟩, front, back, by simp⟩

instance (body : List Char) : Decidable (Indexes body) :=
  decidable_of_iff _ (bodyAccess_occursIn_iff body)

def IsName (word : List Char) : Prop := word ≠ [] ∧ ∀ c ∈ word, CharClass.identifier.holds c

/-- What makes a bound clear: a size, a length, or something less one. -/
inductive IsLimit : List Char → Prop
  | size : IsLimit ".size()".toList
  | length : IsLimit ".length".toList
  | lessOne {gap space : List Char} (before : IsGap gap) (after : IsGap space) :
    IsLimit (gap ++ '-' :: (space ++ ['1']))

/-- A comparison by `<` with a limit. The limit belongs to a name, with or without a member. -/
inductive IsBound : List Char → Prop
  | mk {letter : Char} {gap space name member limit : List Char}
    (compared : CharClass.identifier.holds letter) (before : IsGap gap) (after : IsGap space)
    (named : IsName name) (selected : member = [] ∨ ∃ field, IsName field ∧ member = '.' :: field)
    (limited : IsLimit limit) :
    IsBound (letter :: (gap ++ '<' :: (space ++ (name ++ (member ++ limit)))))

def HasBound (condition : List Char) : Prop :=
  ∃ word, IsBound word ∧ word <:+: condition

theorem accepts_member_iff {member : List Char} :
    (Pattern.optional (.group 1 (.sequence [.lit ".", Catalog.name]))).Accepts member ↔
      member = [] ∨ ∃ field, IsName field ∧ member = '.' :: field := by
  constructor
  · rintro (⟨_, field, rfl, named, rfl⟩ | rfl)
    · exact Or.inr ⟨field, Pattern.accepts_atLeastOne.mp named, rfl⟩
    · exact Or.inl rfl
  · rintro (rfl | ⟨field, named, rfl⟩)
    · exact Or.inr rfl
    · exact Or.inl ⟨['.'], field, rfl, Pattern.accepts_atLeastOne.mpr named, rfl⟩

theorem accepts_limit_iff {limit : List Char} :
    (Pattern.choice (.lit ".size()") [.lit ".length",
      .sequence [blanks, .lit "-", blanks, .lit "1"]]).Accepts limit ↔ IsLimit limit := by
  constructor
  · rintro (rfl | rfl | ⟨gap, _, before, ⟨_, _, rfl, ⟨space, _, after, rfl, rfl⟩, rfl⟩, rfl⟩)
    · exact .size
    · exact .length
    · exact .lessOne before after
  · rintro (_ | _ | ⟨before, after⟩)
    · exact Or.inl rfl
    · exact Or.inr (Or.inl rfl)
    · exact Or.inr (Or.inr ⟨_, _, before, ⟨['-'], _, rfl, ⟨_, _, after, rfl, rfl⟩, rfl⟩, rfl⟩)

/-- Of what is compared only the last character counts, and the blanks before it do not. -/
theorem exists_isBound_of_accepts {word : List Char} (accepted : boundCheck.Accepts word) :
    ∃ bound, IsBound bound ∧ bound <:+ word := by
  obtain ⟨blanks, _, -, atCompared, rfl⟩ := accepted
  obtain ⟨compared, _, name, atGap, rfl⟩ := atCompared
  obtain ⟨gap, _, before, atSign, rfl⟩ := atGap
  obtain ⟨_, _, rfl, atSpace, rfl⟩ := atSign
  obtain ⟨space, _, after, atSized, rfl⟩ := atSpace
  obtain ⟨sized, _, named, atMember, rfl⟩ := atSized
  obtain ⟨member, limit, selected, limited, rfl⟩ := atMember
  obtain ⟨filled, letters⟩ := Pattern.accepts_atLeastOne.mp name
  obtain ⟨init, letter, rfl⟩ := (List.eq_nil_or_concat compared).resolve_left filled
  refine ⟨_, .mk (letters letter (by simp)) before after (Pattern.accepts_atLeastOne.mp named)
    (accepts_member_iff.mp selected) (accepts_limit_iff.mp limited), blanks ++ init, ?_⟩
  simp

theorem IsBound.accepts {word : List Char} (bound : IsBound word) : boundCheck.Accepts word := by
  obtain ⟨compared, before, after, named, selected, limited⟩ := bound
  rename_i letter gap space name member limit
  refine ⟨[], _, List.forall_mem_nil _, ?_, rfl⟩
  refine ⟨[letter], _, Pattern.accepts_singleton compared, ?_, rfl⟩
  refine ⟨gap, _, before, ?_, rfl⟩
  refine ⟨['<'], _, rfl, ?_, rfl⟩
  refine ⟨space, _, after, ?_, rfl⟩
  refine ⟨name, _, Pattern.accepts_atLeastOne.mpr named, ?_, rfl⟩
  exact ⟨member, limit, accepts_member_iff.mpr selected, accepts_limit_iff.mpr limited, rfl⟩

theorem boundCheck_occursIn_iff (condition : List Char) :
    boundCheck.occursIn condition ↔ HasBound condition := by
  rw [Pattern.occursIn_iff_infix rfl (by decide)]
  constructor
  · rintro ⟨word, accepted, inside⟩
    obtain ⟨bound, compared, final⟩ := exists_isBound_of_accepts accepted
    exact ⟨bound, compared, final.isInfix.trans inside⟩
  · rintro ⟨word, compared, inside⟩
    exact ⟨word, compared.accepts, inside⟩

instance (condition : List Char) : Decidable (HasBound condition) :=
  decidable_of_iff _ (boundCheck_occursIn_iff condition)

def Loop.finding (text : List Char) (loop : Loop) : Finding :=
  ⟨subject, Text.lineNumberAt text loop.start, description, .medium, name⟩

theorem loopFinding?_eq_ite (text : List Char) (found : Match) :
    loopFinding? text found =
      if Indexes (Loop.ofMatch found).body ∧ ¬ HasBound (Loop.ofMatch found).condition then
        some ((Loop.ofMatch found).finding text)
      else none := by
  simp only [← bodyAccess_occursIn_iff, ← boundCheck_occursIn_iff]
  rfl

/-- The loop pass goes through a text in one sweep: it takes the first loop at or after the end of
the one before, and reports it if its body indexes an array and its condition checks no bound. -/
theorem loop_pass_sweeps (text : List Char) :
    ∃ loops, (∀ swept, Sweep (Loop.at? text) Loop.stop 0 swept ↔ swept = loops) ∧
      findings text =
        (loops.filter fun loop => Indexes loop.body ∧ ¬ HasBound loop.condition).map
          (Loop.finding text) := by
  refine ⟨(Catalog.loop.findAll text).map Loop.ofMatch, fun swept => ?_, ?_⟩
  · exact Pattern.sweep_findAll_iff (by decide) (Loop.at?_eq_matchAt? text) fun _ => rfl
  · rw [findings, funext (loopFinding?_eq_ite text), ← List.filterMap_eq_map,
      List.filterMap_filter, List.filterMap_map]
    simp only [Function.comp_def, decide_eq_true_eq]

end OverflowScan.LoopPass
