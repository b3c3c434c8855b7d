import OverflowScan.Document.Basic

set_option autoImplicit false

namespace OverflowScan

/-- Induction over a document through its items and the values of its fields. -/
@[elab_as_elim, induction_eliminator]
theorem Document.induction {motive : Document → Prop}
    (null : motive .null) (bool : ∀ value, motive (.bool value))
    (int : ∀ value, motive (.int value)) (text : ∀ value, motive (.text value))
    (list : ∀ items, (∀ item ∈ items, motive item) → motive (.list items))
    (map : ∀ fields, (∀ field ∈ fields, motive field.2) → motive (.map fields))
    (document : Document) : motive document :=
  match document with
  | .null => null
  | .bool value => bool value
  | .int value => int value
  | .text value => text value
  | .list items =>
    list items fun item _inside => Document.induction null bool int text list map item
  | .map fields =>
    map fields fun field _inside => Document.induction null bool int text list map field.2
termination_by sizeOf document
decreasing_by
  · have smaller := List.sizeOf_lt_of_mem _inside
    simp only [Document.list.sizeOf_spec]
    omega
  · have smaller := List.sizeOf_lt_of_mem _inside
    have part : sizeOf field = 1 + sizeOf field.1 + sizeOf field.2 := rfl
    simp only [Document.map.sizeOf_spec]
    omega

theorem Severity.text_injective {first second : Severity} (same : first.text = second.text) :
    first = second := by
  revert same
  cases first <;> cases second <;> decide

namespace Document

theorem ofFinding_injective {first second : Finding} (same : ofFinding first = ofFinding second) :
    first = second := by
  simp only [ofFinding, map.injEq, List.cons.injEq, Prod.mk.injEq, text.injEq, int.injEq, true_and,
    and_true] at same
  obtain ⟨subject, line, description, severity, rule⟩ := same
  cases first
  cases second
  simp only [Finding.mk.injEq]
  exact ⟨subject, line, description, Severity.text_injective severity, rule⟩

theorem ofSummary_injective {first second : Summary} (same : ofSummary first = ofSummary second) :
    first = second := by
  simp only [ofSummary, map.injEq, List.cons.injEq, Prod.mk.injEq, int.injEq, true_and,
    and_true] at same
  obtain ⟨high, medium, low, -⟩ := same
  cases first
  cases second
  simp only [Summary.mk.injEq]
  exact ⟨high, medium, low⟩

theorem ofResult_injective {first second : ScanResult} (same : ofResult first = ofResult second) :
    first = second := by
  simp only [ofResult, map.injEq, List.cons.injEq, Prod.mk.injEq, text.injEq, list.injEq, true_and,
    and_true] at same
  obtain ⟨source, summary, findings⟩ := same
  cases first
  cases second
  simp only [ScanResult.mk.injEq]
  exact ⟨source, ofSummary_injective summary,
    (List.map_inj_right fun _ _ => ofFinding_injective).mp findings⟩

end Document

end OverflowScan
