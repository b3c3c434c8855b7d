import OverflowScan.Proofs.Pass.Findings

set_option autoImplicit false

namespace OverflowScan

/-- The finding with as many more lines above it. -/
def Finding.moveDown (count : Nat) (finding : Finding) : Finding :=
  { finding with lineNumber := finding.lineNumber + count }

theorem Finding.map_moveDown_zero (shown : Option Finding) : shown.map (moveDown 0) = shown := by
  cases shown with
  | none => rfl
  | some finding => simp [moveDown]

variable {text other : List Char} {found again : Match} {count : Nat}

theorem LoopPass.loopFinding?_congr
    (access : Catalog.bodyAccess.occursIn ((again.group? 4).getD []) =
      Catalog.bodyAccess.occursIn ((found.group? 4).getD []))
    (bound : Catalog.boundCheck.occursIn ((again.group? 2).getD []) =
      Catalog.boundCheck.occursIn ((found.group? 2).getD []))
    (moved : Text.lineNumberAt other again.start = Text.lineNumberAt text found.start + count) :
    loopFinding? other again = (loopFinding? text found).map (Finding.moveDown count) := by
  simp only [loopFinding?, access, bound, moved]
  split <;> rfl

def FunctionPass.assigns (body : Option (List Char)) : Bool :=
  body.any Catalog.assignment.occursIn

theorem FunctionPass.functionFinding?_eq_ite (text : List Char) (found : Match) :
    functionFinding? text found =
      if Catalog.pointerParameter.occursIn ((found.group? 3).getD []) ∧
          assigns (Text.bodyAt? text ((found.stop : Int) - 1)) then
        some ⟨String.ofList ((found.group? 2).getD []), Text.lineNumberAt text found.start,
          description, .medium, name⟩
      else none := by
  unfold functionFinding? assigns
  by_cases pointer : Catalog.pointerParameter.occursIn ((found.group? 3).getD [])
  · cases Text.bodyAt? text ((found.stop : Int) - 1) with
    | none => simp
    | some body => simp [pointer]
  · simp [pointer]

theorem FunctionPass.functionFinding?_congr
    (pointer : Catalog.pointerParameter.occursIn ((again.group? 3).getD []) =
      Catalog.pointerParameter.occursIn ((found.group? 3).getD []))
    (named : (again.group? 2).getD [] = (found.group? 2).getD [])
    (body : assigns (Text.bodyAt? other ((again.stop : Int) - 1)) =
      assigns (Text.bodyAt? text ((found.stop : Int) - 1)))
    (moved : Text.lineNumberAt other again.start = Text.lineNumberAt text found.start + count) :
    functionFinding? other again = (functionFinding? text found).map (Finding.moveDown count) := by
  simp only [functionFinding?_eq_ite, pointer, named, body, moved]
  split <;> rfl

end OverflowScan
