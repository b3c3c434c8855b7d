import OverflowScan.Proofs.CommandLine.AnyOrder
import OverflowScan.Proofs.CommandLine.Outcome

set_option autoImplicit false

namespace OverflowScan.CommandLine

def Output.errorText (clock : String) (output : Output) : String :=
  String.join (output.stderr.map (Notice.render clock))

/-- What a run on a source promises. -/
structure Contract (tree : FileTree) (source : String) (ran : Output × FileTree) : Prop where
  status : ran.1.status = .ok 0
  opened : ∀ bytes, tree.read (Path.ofString source) = .ok bytes →
    ∃ result, (Scan.runIn tree source).2 = .ok result ∧
      ran.1.stdout = Report.render result none ++ "\n"
  unopened : ∀ failure, tree.read (Path.ofString source) = .error failure →
    ran.1.stdout = "" ∧
      (∀ clock, ("Error: Could not open file " ++ source ++ "\n").toList <:+
        (ran.1.errorText clock).toList) ∧
      ran.2 = tree

theorem Contract.same {tree : FileTree} {source : String} {first second : Output × FileTree}
    (left : Contract tree source first) (right : Contract tree source second) :
    first.1.status = second.1.status ∧ first.1.stdout = second.1.stdout := by
  refine ⟨left.status.trans right.status.symm, ?_⟩
  cases content : tree.read (Path.ofString source) with
  | error failure => rw [(left.unopened failure content).1, (right.unopened failure content).1]
  | ok bytes =>
    obtain ⟨result, scanned, shown⟩ := left.opened bytes content
    obtain ⟨again, scannedAgain, shownAgain⟩ := right.opened bytes content
    rw [scanned] at scannedAgain
    cases scannedAgain
    rw [shown, shownAgain]

theorem contract_unopenable (environment : Option String) {tree : FileTree}
    {arguments : List String} {options : Options} {cause : Refusal} {path : Path}
    (parsed : parse arguments = .scan options)
    (refused : tree.read (Path.ofString options.source) = .error (.unopenable cause path)) :
    Contract tree options.source (run environment tree arguments) := by
  rw [run_unopenable environment parsed refused]
  refine ⟨rfl, ?_, ?_⟩
  · intro bytes content
    rw [refused] at content
    cases content
  · intro failure _
    refine ⟨rfl, ?_, rfl⟩
    intro clock
    have last : String.join ([Notice.message (openMessage options.source)].map
        (Notice.render clock)) = openMessage options.source := by
      simp [Notice.render]
    change (openMessage options.source).toList <:+ _
    rw [Output.errorText, List.map_append, String.join_append, last, String.toList_append]
    exact List.suffix_append _ _

/-- The report file is tried after the report is printed, and a refusal is only logged. -/
theorem contract_opened (environment : Option String) {tree : FileTree}
    {arguments : List String} {options : Options} {bytes : List UInt8}
    (parsed : parse arguments = .scan options)
    (opened : tree.read (Path.ofString options.source) = .ok bytes)
    (outputPlain : ∀ path, options.output = some path → '\x00' ∉ path.toList) :
    Contract tree options.source (run environment tree arguments) := by
  have shown : (run environment tree arguments).1.status = .ok 0 ∧
      (run environment tree arguments).1.stdout =
        Report.render (Scan.resultOf options.source bytes) none ++ "\n" := by
    rw [run_opened environment parsed opened]
    split
    · exact ⟨rfl, rfl⟩
    · rename_i order ordered
      have plain := outputPlain order.path (output_of_orderFor ordered)
      refine ⟨?_, afterWriting_stdout _ _ _ _⟩
      apply afterWriting_status
      intro failure failed
      exact isRefusal_of_storeDocument plain failed
  refine ⟨shown.1, ?_, ?_⟩
  · intro content _
    exact ⟨_, Scan.runIn_readable opened, shown.2⟩
  · intro failure content
    rw [opened] at content
    cases content

theorem contract_run (environment : Option String) (tree : FileTree) {arguments : List String}
    {options : Options} (parsed : parse arguments = .scan options)
    (sourcePlain : '\x00' ∉ options.source.toList)
    (outputPlain : ∀ path, options.output = some path → '\x00' ∉ path.toList) :
    Contract tree options.source (run environment tree arguments) := by
  rcases tree.read_cases (FileTree.hasNull_ofString_eq_false sourcePlain) with
    ⟨bytes, opened⟩ | ⟨cause, refused⟩
  · exact contract_opened environment parsed opened outputPlain
  · exact contract_unopenable environment parsed refused

/-- Some command line asks for any choice of options; only a double dash is never taken for the path
of a report file. -/
theorem exists_parse (choice : Options) (value : choice.output ≠ some "--") :
    ∃ arguments, parse arguments = .scan choice := by
  obtain ⟨source, format, output, verbosity⟩ := choice
  have quiet : ∃ groups, optionsFor groups source = ⟨source, format, output, 0⟩ := by
    cases output with
    | none => exact ⟨[.formatJoined format], rfl⟩
    | some path =>
      have other : path ≠ "--" := by
        rintro rfl
        exact value rfl
      exact ⟨[.formatJoined format, .outputJoined .out path other], rfl⟩
  have asked : ∃ groups, optionsFor groups source = ⟨source, format, output, verbosity⟩ := by
    clear value
    induction verbosity with
    | zero => exact quiet
    | succ count ih =>
      obtain ⟨groups, same⟩ := ih
      have more : optionsFor (.verbose :: groups) source =
          { optionsFor groups source with
            verbosity := 1 + (optionsFor groups source).verbosity } := rfl
      exact ⟨.verbose :: groups, by rw [more, same, Nat.add_comm]⟩
  obtain ⟨groups, same⟩ := asked
  refine ⟨groups.flatMap Group.words ++ ["--", source], ?_⟩
  rw [parse_of_length_ne_one (by simp), parseWords_marked, same]

/-- No option changes what a run shows. Some command line asks for any choice of options, and
whichever is asked for, in whatever environment, the run keeps the promise; so two runs on one
source in one tree have the same status and the same standard output. -/
theorem choices_keep_stdout :
    (∀ choice : Options, choice.output ≠ some "--" →
      ∃ arguments, parse arguments = .scan choice) ∧
    ∀ (tree : FileTree) (environment : Option String) (arguments : List String)
      (options : Options),
      parse arguments = .scan options → '\x00' ∉ options.source.toList →
      (∀ path, options.output = some path → '\x00' ∉ path.toList) →
      Contract tree options.source (run environment tree arguments) ∧
      ∀ (other : Option String) (others : List String) (choice : Options),
        parse others = .scan choice → choice.source = options.source →
        (∀ path, choice.output = some path → '\x00' ∉ path.toList) →
        (run other tree others).1.status = (run environment tree arguments).1.status ∧
          (run other tree others).1.stdout = (run environment tree arguments).1.stdout := by
  refine ⟨exists_parse, ?_⟩
  intro tree environment arguments options parsed sourcePlain outputPlain
  have kept := contract_run environment tree parsed sourcePlain outputPlain
  refine ⟨kept, ?_⟩
  intro other others choice parsedAgain same plain
  have keptAgain := contract_run other tree parsedAgain (by rwa [same]) plain
  rw [same] at keptAgain
  exact keptAgain.same kept

theorem unwritable_file_keeps_stdout :
    let tree := (FileTree.empty ["home"]).put ["home", "a.c"]
      (.file (Utf8.encode "gets(s);".toList))
    (∃ arguments, parse arguments = .scan ⟨"--help", .yaml, some "-v", 7⟩) ∧
    (run (some "critical") tree ["--out=a.c/x", "a.c", "--format", "yaml"]).1.stdout =
      (run none tree ["-vv", "a.c"]).1.stdout ∧
    (run (some "critical") tree ["--out=a.c/x", "a.c", "--format", "yaml"]).1.status = .ok 0 := by
  intro tree
  have filed : parse ["--out=a.c/x", "a.c", "--format", "yaml"] =
      .scan ⟨"a.c", .yaml, some "a.c/x", 0⟩ := by
    decide +kernel
  have logged : parse ["-vv", "a.c"] = .scan ⟨"a.c", .json, none, 2⟩ := by decide +kernel
  have outputPlain : ∀ path, some "a.c/x" = some path → '\x00' ∉ path.toList := by
    intro path asked
    cases asked
    decide
  obtain ⟨kept, same⟩ := choices_keep_stdout.2 tree (some "critical") _ _ filed (by decide)
    outputPlain
  refine ⟨choices_keep_stdout.1 _ (by decide), ?_, kept.status⟩
  exact (same none _ _ logged rfl (by simp)).2.symm

end OverflowScan.CommandLine
