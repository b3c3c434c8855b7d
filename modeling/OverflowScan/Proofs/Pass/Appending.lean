import Mathlib.Data.List.Basic
import OverflowScan.Proofs.Catalog.Heads
import OverflowScan.Proofs.Pass.Prepending

set_option autoImplicit false

namespace OverflowScan

theorem LoopPass.findings_append_behind (text more : List Char) :
    findings text <+: findings (text ++ more) := by
  have leftmost := Pattern.leftmost_occurrences Catalog.loop text (by decide) 0
  obtain ⟨added, grown⟩ : Catalog.loop.findAll text <+: Catalog.loop.findAll (text ++ more) :=
    Catalog.steady_loop.occurrences_prefix (by decide)
      (Pattern.keeps_of_no_boundary rfl text more) 0
  have same : ∀ found ∈ Catalog.loop.findAll text,
      loopFinding? text found = loopFinding? (text ++ more) found := by
    intro found member
    have order := leftmost.filled found member
    have bound := (leftmost.spelled found member).le_max_length
    have placed := Text.lineNumberAt_append_behind text more found.start (by omega)
    have moved : loopFinding? (text ++ more) found =
        (loopFinding? text found).map (Finding.moveDown 0) := loopFinding?_congr rfl rfl placed
    rw [moved, Finding.map_moveDown_zero]
  rw [findings, findings, ← grown, List.filterMap_append, List.filterMap_congr same]
  exact List.prefix_append _ _

/-- Where reporting stops for good, what was reported before is a prefix of what is reported once it
goes on. -/
private theorem filterMap_prefix {α β : Type} {f g : α → Option β} (settled : α → Prop)
    {items : List α} (more : List α) (same : ∀ item ∈ items, settled item → f item = g item)
    (silent : ∀ item ∈ items, ¬ settled item → f item = none)
    (order : items.Pairwise fun item later => settled later → settled item) :
    items.filterMap f <+: (items ++ more).filterMap g := by
  induction items with
  | nil => exact List.nil_prefix
  | cons item rest ih =>
      obtain ⟨first, order⟩ := List.pairwise_cons.mp order
      obtain ⟨here, same⟩ := List.forall_mem_cons.mp same
      obtain ⟨quiet, silent⟩ := List.forall_mem_cons.mp silent
      by_cases closed : settled item
      · have next := ih same silent order
        rw [List.cons_append, List.filterMap_cons, List.filterMap_cons, here closed]
        cases g item with
        | none => exact next
        | some shown => exact List.cons_prefix_cons.mpr ⟨rfl, next⟩
      · have none : rest.filterMap f = [] := by
          refine List.filterMap_eq_nil_iff.mpr fun later member => ?_
          exact silent later member fun settles => closed (first later member settles)
        rw [List.filterMap_cons, quiet closed, none]
        exact List.nil_prefix

theorem FunctionPass.findings_append_behind (text more : List Char) :
    findings text <+: findings (text ++ more) := by
  have leftmost := Pattern.leftmost_occurrences Catalog.function text (by decide) 0
  obtain ⟨added, grown⟩ :
      Catalog.function.findAll text <+: Catalog.function.findAll (text ++ more) :=
    Catalog.steady_function.occurrences_prefix (by decide)
      (Pattern.keeps_seq_boundary rfl text more) 0
  have brace (found : Match) (member : found ∈ Catalog.function.findAll text) :
      (found.stop : Int) - 1 = (found.stop - 1 : Nat) := by
    have := leftmost.filled found member
    omega
  rw [findings, findings, ← grown]
  -- a header whose body is still open reports nothing, and neither does any header behind it
  refine filterMap_prefix (fun found => '\x7d' ∈ text.drop (found.stop - 1)) added ?_ ?_ ?_
  · intro found member closed
    have order := leftmost.filled found member
    have bound := (leftmost.spelled found member).le_max_length
    have placed := Text.lineNumberAt_append_behind text more found.start (by omega)
    obtain ⟨body, ends⟩ := Option.isSome_iff_exists.mp
      ((Text.bodyAt?_isSome_iff text (found.stop - 1)).mpr closed)
    have moved : functionFinding? (text ++ more) found =
        (functionFinding? text found).map (Finding.moveDown 0) := by
      refine functionFinding?_congr rfl rfl ?_ placed
      rw [brace found member, ends, Text.bodyAt?_append_behind ends more]
    rw [moved, Finding.map_moveDown_zero]
  · intro found member unclosed
    have absent : Text.bodyAt? text (found.stop - 1 : Nat) = none := by
      rw [← Option.not_isSome_iff_eq_none, Text.bodyAt?_isSome_iff]
      exact unclosed
    rw [functionFinding?_eq_ite, brace found member, absent]
    simp [assigns]
  · refine leftmost.apart.imp_of_mem fun {found later} listed member => ?_
    intro (apart : found.stop ≤ later.start) closed
    have first := leftmost.filled found listed
    have second := leftmost.filled later member
    have behind : text.drop (later.stop - 1) <:+ text.drop (found.stop - 1) := by
      rw [show later.stop - 1 = found.stop - 1 + (later.stop - found.stop) by omega,
        ← List.drop_drop]
      exact List.drop_suffix _ _
    exact behind.subset closed

theorem LinePass.findings_append_behind {text : List Char} (ended : Text.Ended text)
    (more : List Char) : findings text <+: findings (text ++ more) := by
  rw [findings_append_front ended]
  exact List.prefix_append _ _

/-- Appended text never removes or changes what was found: the findings of every pass on a text are
the first ones on the longer text. For the line pass, the text has to end with its last line. -/
theorem appending_keeps_findings (text more : List Char) :
    LoopPass.findings text <+: LoopPass.findings (text ++ more) ∧
    FunctionPass.findings text <+: FunctionPass.findings (text ++ more) ∧
    (Text.Ended text → LinePass.findings text <+: LinePass.findings (text ++ more)) :=
  ⟨LoopPass.findings_append_behind text more, FunctionPass.findings_append_behind text more,
    fun ended => LinePass.findings_append_behind ended more⟩

theorem line_findings_kept :
    Text.Ended "gets(s);\n".toList ∧ LinePass.findings "gets(s);\n".toList ≠ [] ∧
    LinePass.findings "gets(s);\n".toList <+:
      LinePass.findings ("gets(s);\n".toList ++ "a[i];".toList) := by
  have ended : Text.Ended "gets(s);\n".toList := Or.inr (by decide)
  exact ⟨ended, by decide +kernel, (appending_keeps_findings _ _).2.2 ended⟩

end OverflowScan
