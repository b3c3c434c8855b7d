import OverflowScan.Proofs.CommandLine.Outcome
import OverflowScan.Session

set_option autoImplicit false

namespace OverflowScan

namespace FileTree

def Opens (tree : FileTree) (path : Path) : Prop :=
  ∃ content, tree.lookup path = .ok (.file content)

theorem read_of_null (tree : FileTree) {source : String} (null : '\x00' ∈ source.toList) :
    tree.read (Path.ofString source) = .error .nullByte := by
  rw [read, if_pos ((hasNull_ofString source).mpr null)]

theorem read_of_opens {tree : FileTree} {source : String} (plain : '\x00' ∉ source.toList)
    (opens : tree.Opens (Path.ofString source)) :
    ∃ bytes, tree.read (Path.ofString source) = .ok bytes := by
  obtain ⟨bytes, found⟩ := opens
  refine ⟨bytes, ?_⟩
  rw [read, hasNull_ofString_eq_false plain, if_neg Bool.false_ne_true, found]

theorem read_of_not_opens {tree : FileTree} {source : String} (plain : '\x00' ∉ source.toList)
    (shut : ¬ tree.Opens (Path.ofString source)) :
    ∃ cause, tree.read (Path.ofString source) =
      .error (.unopenable cause (Path.ofString source)) := by
  rw [read, hasNull_ofString_eq_false plain, if_neg Bool.false_ne_true]
  split
  · exact ⟨_, rfl⟩
  · exact ⟨_, rfl⟩
  · rename_i content found
    exact absurd ⟨content, found⟩ shut

end FileTree

theorem Pass.skipRecord_unopenable (pass : Pass) (cause : Refusal) (path : Path) :
    pass.skipRecord (.unopenable cause path) =
      ⟨.warning, Logger.fullName pass.name,
        pass.name ++ " skipped: Could not open file " ++ path.text⟩ := by
  have joined : " skipped: Could not open file " = " skipped: " ++ "Could not open file " := rfl
  unfold skipRecord Failure.message
  rw [joined]
  simp only [String.append_assoc]

theorem Scan.runIn_of_not_opens {tree : FileTree} {source : String}
    (plain : '\x00' ∉ source.toList) (shut : ¬ tree.Opens (Path.ofString source)) :
    ∃ cause, Scan.runIn tree source =
      ([Scan.announcement .line (Path.ofString source)],
        .error (.unopenable cause (Path.ofString source))) := by
  obtain ⟨cause, refused⟩ := FileTree.read_of_not_opens plain shut
  refine ⟨cause, ?_⟩
  rw [runIn, refused]
  rfl

theorem Scan.runIn_of_null (tree : FileTree) {source : String} (null : '\x00' ∈ source.toList) :
    (Scan.runIn tree source).2 = .error .nullByte := by
  rw [runIn, FileTree.read_of_null tree null]
  rfl

namespace Session

theorem step_logger (session : Session) (step : Step) :
    (session.step step).1.logger = session.logger ∨
      ∃ n, (session.step step).1.logger = session.logger.setVerbosity session.environment n := by
  cases step with
  | verbosity n => exact Or.inr ⟨n, rfl⟩
  | write | makeFolder | reset | scanLine | report | showResult | showRows => exact Or.inl rfl
  | remove | pass | add | scan | saveReport =>
      apply Or.inl
      rw [Session.step]
      split <;> rfl

theorem step_handlers {session : Session} (used : session.logger.handlers = 1) (step : Step) :
    (session.step step).1.logger.handlers = 1 := by
  rcases session.step_logger step with same | ⟨n, asked⟩
  · rw [same]
    exact used
  · rw [asked]
    exact Logger.setVerbosity_handlers used session.environment n

theorem run_handlers {session : Session} (used : session.logger.handlers = 1)
    (steps : List Step) : (session.run steps).1.logger.handlers = 1 := by
  induction steps generalizing session with
  | nil => exact used
  | cons step rest ih => exact ih (step_handlers used step)

theorem start_handlers (source : String) (home : Location) (environment : Option String) :
    (start source home environment).logger.handlers = 1 :=
  Logger.acquire_handlers (Nat.zero_le 1) environment

/-- A step that fails leaves the result as it was. -/
theorem step_failed {session : Session} {step : Step} {failure : Failure}
    (failed : (session.step step).2 = .failed failure) :
    (session.step step).1.result = session.result := by
  cases step with
  | write | makeFolder | verbosity | report | showResult | showRows => rfl
  | remove | saveReport =>
      rw [Session.step]
      split <;> rfl
  | reset | scanLine => cases failed
  | pass | add | scan =>
      -- The one branch that changes the result does not fail.
      revert failed
      rw [Session.step]
      split
      · intro failed
        cases failed
      · intro _
        rfl

section

variable {session : Session} {path : String}

theorem step_line_of_null (session : Session) (null : '\x00' ∈ path.toList) :
    session.step (.pass .line path) = (session, .failed .nullByte) := by
  rw [Session.step, FileTree.read_of_null _ null]
  rfl

theorem step_line_of_not_opens (plain : '\x00' ∉ path.toList)
    (shut : ¬ session.tree.Opens (Path.ofString path)) :
    ∃ cause, session.step (.pass .line path) =
      (session, .failed (.unopenable cause (Path.ofString path))) := by
  obtain ⟨cause, refused⟩ := FileTree.read_of_not_opens plain shut
  refine ⟨cause, ?_⟩
  rw [Session.step, refused]
  rfl

/-- A pass other than the line pass says that it skips a source that cannot be opened, and does
nothing else. -/
theorem step_other_of_not_opens (used : session.logger.handlers = 1) {pass : Pass}
    (other : pass ≠ .line) (plain : '\x00' ∉ path.toList)
    (shut : ¬ session.tree.Opens (Path.ofString path)) :
    session.step (.pass pass path) =
      (session, .appended [] session.result.summary
        (if session.logger.level.rank ≤ Level.warning.rank then
          [⟨.warning, Logger.fullName pass.name,
            pass.name ++ " skipped: Could not open file " ++ (Path.ofString path).text⟩]
        else [])) := by
  obtain ⟨cause, refused⟩ := FileTree.read_of_not_opens plain shut
  have skipped (result : ScanResult) :
      pass.apply (.error (.unopenable cause (Path.ofString path))) result =
        .ok (result, [pass.skipRecord (.unopenable cause (Path.ofString path))]) := by
    cases pass with
    | line => exact absurd rfl other
    | loop => rfl
    | function => rfl
  simp only [Session.step, refused, skipped, withResult, List.drop_length,
    Logger.emitAll_singleton used, Logger.admits, decide_eq_true_eq,
    Pass.skipRecord_unopenable]

theorem step_scan_of_error {source : String} {failure : Failure}
    (failed : (Scan.runIn session.tree source).2 = .error failure) :
    session.step (.scan source) = (session, .failed failure) := by
  rw [Session.step]
  split
  · rename_i ended
    rw [ended] at failed
    cases failed
  · rename_i ended
    rw [ended] at failed
    cases failed
    rfl

theorem step_scan_failed_iff {source : String} {failure : Failure} :
    (session.step (.scan source)).2 = .failed failure ↔
      (Scan.runIn session.tree source).2 = .error failure := by
  rw [Session.step]
  split
  · rename_i ended
    simp [ended]
  · rename_i ended
    simp [ended]

/-- A scan finds its source unopenable exactly if the path reaches the operating system and cannot
be opened. -/
theorem step_scan_unopenable_iff (session : Session) (source : String) :
    (∃ cause place, (session.step (.scan source)).2 = .failed (.unopenable cause place)) ↔
      '\x00' ∉ source.toList ∧ ¬ session.tree.Opens (Path.ofString source) := by
  constructor
  · rintro ⟨cause, place, failed⟩
    rw [step_scan_failed_iff] at failed
    have plain : '\x00' ∉ source.toList := by
      intro null
      rw [Scan.runIn_of_null session.tree null] at failed
      cases failed
    refine ⟨plain, fun opens => ?_⟩
    obtain ⟨bytes, opened⟩ := FileTree.read_of_opens plain opens
    rw [Scan.runIn_readable opened] at failed
    cases failed
  · rintro ⟨plain, shut⟩
    obtain ⟨cause, refused⟩ := Scan.runIn_of_not_opens plain shut
    refine ⟨cause, Path.ofString source, ?_⟩
    exact step_scan_failed_iff.mpr (congrArg Prod.snd refused)

theorem step_scan_of_not_opens {source : String} (plain : '\x00' ∉ source.toList)
    (shut : ¬ session.tree.Opens (Path.ofString source)) :
    (session.step (.scan source)).1 = session ∧
      (Scan.runIn session.tree source).1 =
        [Scan.announcement .line (Path.ofString source)] := by
  obtain ⟨cause, refused⟩ := Scan.runIn_of_not_opens plain shut
  constructor
  · rw [step_scan_of_error (congrArg Prod.snd refused)]
  · rw [refused]

theorem step_add_of_unknown (session : Session) {subject description severity rule : String}
    {number : Int} (unknown : ∀ known : Severity, known.text ≠ severity) :
    session.step (.add subject number description severity rule) =
      (session, .failed (.badSeverity severity)) := by
  have none : Severity.ofText? severity = none := by
    rw [Severity.ofText?, List.find?_eq_none]
    intro known _ same
    exact unknown known (beq_iff_eq.mp same)
  rw [Session.step, none]

end

/-- How a session fails: every step that fails leaves the result as it was, and the steps that can
meet a bad path or a bad severity leave the whole session as it was. -/
structure FailsSafely (session : Session) : Prop where
  kept : ∀ step failure, (session.step step).2 = .failed failure →
    (session.step step).1.result = session.result
  lineNull : ∀ path : String, '\x00' ∈ path.toList →
    session.step (.pass .line path) = (session, .failed .nullByte)
  /-- The line pass fails on a path that cannot be opened. -/
  lineShut : ∀ path : String, '\x00' ∉ path.toList →
    ¬ session.tree.Opens (Path.ofString path) →
    ∃ cause, session.step (.pass .line path) =
      (session, .failed (.unopenable cause (Path.ofString path)))
  scanShut : ∀ source : String,
    (∃ cause path, (session.step (.scan source)).2 = .failed (.unopenable cause path)) ↔
      '\x00' ∉ source.toList ∧ ¬ session.tree.Opens (Path.ofString source)
  scanStops : ∀ source : String, '\x00' ∉ source.toList →
    ¬ session.tree.Opens (Path.ofString source) →
    (session.step (.scan source)).1 = session ∧
      (Scan.runIn session.tree source).1 = [Scan.announcement .line (Path.ofString source)]
  /-- The other passes skip a path that cannot be opened, with one warning. -/
  skipped : ∀ (pass : Pass) (path : String), pass ≠ .line → '\x00' ∉ path.toList →
    ¬ session.tree.Opens (Path.ofString path) →
    session.step (.pass pass path) =
      (session, .appended [] session.result.summary
        (if session.logger.level.rank ≤ Level.warning.rank then
          [⟨.warning, Logger.fullName pass.name,
            pass.name ++ " skipped: Could not open file " ++ (Path.ofString path).text⟩]
        else []))
  misjudged : ∀ (subject : String) (number : Int) (description severity rule : String),
    (∀ known : Severity, known.text ≠ severity) →
    session.step (.add subject number description severity rule) =
      (session, .failed (.badSeverity severity))

end Session

/-- Steps that fail leave the result as it was, in every session that can be reached. -/
theorem failed_steps_keep_result (source : String) (home : Location)
    (environment : Option String) (steps : List Session.Step) :
    ((Session.start source home environment).run steps).1.FailsSafely := by
  have used := Session.run_handlers (Session.start_handlers source home environment) steps
  generalize ((Session.start source home environment).run steps).1 = session at used ⊢
  exact {
    kept := fun _ _ failed => Session.step_failed failed
    lineNull := fun _ null => session.step_line_of_null null
    lineShut := fun _ plain shut => Session.step_line_of_not_opens plain shut
    scanShut := session.step_scan_unopenable_iff
    scanStops := fun _ plain shut => Session.step_scan_of_not_opens plain shut
    skipped := fun _ _ other plain shut => Session.step_other_of_not_opens used other plain shut
    misjudged := fun _ _ _ _ _ unknown => session.step_add_of_unknown unknown }

theorem removed_source_skipped :
    ((((Session.start "a.c" ["home"] none).run [.write "a.c" [], .remove "a.c"]).1.step
        (.pass .loop "./a.c")).2 =
      .appended [] {} [⟨.warning, "bufscan.loop_boundary",
        "loop_boundary skipped: Could not open file a.c"⟩]) := by
  have absent : ¬ ((Session.start "a.c" ["home"] none).run
      [.write "a.c" [], .remove "a.c"]).1.tree.Opens (Path.ofString "./a.c") := by
    rintro ⟨content, found⟩
    cases found
  have skipped := (failed_steps_keep_result "a.c" ["home"] none
    [.write "a.c" [], .remove "a.c"]).skipped .loop "./a.c" (by decide) (by decide) absent
  rw [skipped]
  decide +kernel

end OverflowScan
