import OverflowScan.Log

set_option autoImplicit false

namespace OverflowScan

namespace Level

theorem eq_debug_of_le {level : Level} (least : level.rank ≤ Level.debug.rank) :
    level = .debug := by
  cases level with
  | debug => rfl
  | info | warning | error | critical => exact absurd least (by decide)

theorem ofName?_eq_some_iff {word : String} {level : Level} :
    ofName? word = some level ↔ word = level.name := by
  constructor
  · intro found
    have same := List.find?_some found
    exact (beq_iff_eq.mp same).symm
  · rintro rfl
    cases level <;> decide

theorem ofName?_eq_none_iff {word : String} :
    ofName? word = none ↔ ∀ level : Level, word ≠ level.name := by
  simp only [Option.eq_none_iff_forall_ne_some, ne_eq, ofName?_eq_some_iff]

end Level

namespace Logger

variable {environment : Option String} {logger : Logger}

theorem environmentLevel_of_name {level : Level}
    (named : (environment.getD "").map capital = level.name) :
    environmentLevel environment = level := by
  rw [environmentLevel, Level.ofName?_eq_some_iff.mpr named, Option.getD_some]

theorem environmentLevel_of_other
    (other : ∀ level : Level, (environment.getD "").map capital ≠ level.name) :
    environmentLevel environment = .warning := by
  rw [environmentLevel, Level.ofName?_eq_none_iff.mpr other, Option.getD_none]

/-- A base logger that has been configured once. -/
structure InUse (logger : Logger) : Prop where
  handlers : logger.handlers = 1
  reserved : logger.propagates = false

theorem inUse_acquire_unconfigured (environment : Option String) :
    (unconfigured.acquire environment).InUse :=
  ⟨rfl, rfl⟩

def heard (n : Int) : Option Int := if 0 < n then some n else none

/-- The level that a verbosity stands for, or the given one if none was asked for. -/
def levelFor (otherwise : Level) : Option Int → Level
  | none => otherwise
  | some n => if n = 1 then .info else .debug

namespace InUse

theorem acquire_eq (inUse : logger.InUse) (environment : Option String) :
    logger.acquire environment = logger := by
  apply if_neg
  rw [inUse.handlers]
  decide

theorem setVerbosity_eq (inUse : logger.InUse) (environment : Option String) (n : Int) :
    logger.setVerbosity environment n =
      { logger with level := levelFor logger.level (heard n) } := by
  by_cases effect : 0 < n
  · simp only [setVerbosity, heard, if_neg (Int.not_le.mpr effect), if_pos effect, levelFor,
      inUse.acquire_eq]
  · simp only [setVerbosity, heard, if_pos (Int.not_lt.mp effect), if_neg effect, levelFor]

end InUse

end Logger

end OverflowScan
