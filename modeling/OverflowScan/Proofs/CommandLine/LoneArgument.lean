import OverflowScan.Proofs.CommandLine.Stdout
import OverflowScan.Proofs.Report

set_option autoImplicit false

namespace OverflowScan.CommandLine

theorem parse_lone (source : String) : parse [source] = .scan ⟨source, .json, none, 0⟩ :=
  parseWords_marked [] source

theorem run_tree (environment : Option String) (tree : FileTree) {arguments : List String}
    {options : Options} (parsed : parse arguments = .scan options)
    (sourcePlain : '\x00' ∉ options.source.toList) (unfiled : options.output = none) :
    (run environment tree arguments).2 = tree := by
  rcases tree.read_cases (FileTree.hasNull_ofString_eq_false sourcePlain) with
    ⟨bytes, opened⟩ | ⟨cause, refused⟩
  · have unordered : orderFor options (Scan.resultOf options.source bytes) = none := by
      rw [orderFor, unfiled]
    rw [run_opened environment parsed opened, unordered]
  · rw [run_unopenable environment parsed refused]

/-- A lone argument is scanned with no option in effect, whatever its text is. The run ends with
status zero and changes nothing, and it shows the argument as it was given: in the header of the
report if there are findings, and in the message if it cannot be opened. -/
theorem lone_argument_is_source (environment : Option String) (tree : FileTree) (source : String)
    (plain : '\x00' ∉ source.toList) :
    parse [source] = .scan ⟨source, .json, none, 0⟩ ∧
    let ran := run environment tree [source]
    ran.1.status = .ok 0 ∧ ran.2 = tree ∧
    (∀ bytes, tree.read (Path.ofString source) = .ok bytes →
      ∃ result, (Scan.runIn tree source).2 = .ok result ∧
        ran.1.stdout = Report.render result none ++ "\n" ∧
        (result.findings ≠ [] →
          ("Detected " ++ Nat.repr result.findings.length ++
            " potential buffer overflow vulnerabilities in " ++ source ++ ":\n").toList <+:
              ran.1.stdout.toList)) ∧
    ∀ failure, tree.read (Path.ofString source) = .error failure →
      ran.1.stdout = "" ∧
      ∀ clock, ("Error: Could not open file " ++ source ++ "\n").toList <:+
        (ran.1.errorText clock).toList := by
  have parsed := parse_lone source
  have kept := contract_run environment tree parsed plain (by simp)
  refine ⟨parsed, kept.status, run_tree environment tree parsed plain rfl, ?_, ?_⟩
  · intro bytes opened
    obtain ⟨result, scanned, shown⟩ := kept.opened bytes opened
    refine ⟨result, scanned, shown, ?_⟩
    intro found
    have named : result.source = source := by
      rw [Scan.runIn, opened] at scanned
      exact Scan.source_of_run scanned
    obtain ⟨rest, opening⟩ := Report.render_header found none
    rw [Option.getD_none, named, Report.header_line] at opening
    refine ⟨(rest ++ "\n").toList, ?_⟩
    rw [shown, opening, ← String.toList_append]
    simp only [String.append_assoc]
  · intro failure unopened
    obtain ⟨silent, message, -⟩ := kept.unopened failure unopened
    exact ⟨silent, message⟩

theorem option_names_scanned :
    let tree := (FileTree.empty ["home"]).put ["home", "--help"]
      (.file (Utf8.encode "gets(s);".toList))
    '\x00' ∉ "--help".toList ∧ '\x00' ∉ "--".toList ∧
    "Detected 1 potential buffer overflow vulnerabilities in --help:\n".toList <+:
      (run none tree ["--help"]).1.stdout.toList ∧
    "Error: Could not open file --\n".toList <:+
      ((run none tree ["--"]).1.errorText "").toList := by
  intro tree
  have plainHelp : '\x00' ∉ "--help".toList := by decide
  have plainDashes : '\x00' ∉ "--".toList := by decide
  have opened : tree.read (Path.ofString "--help") = .ok (Utf8.encode "gets(s);".toList) := by
    rfl
  have missing : tree.read (Path.ofString "--") =
      .error (.unopenable .noEntry (Path.ofString "--")) := by
    rfl
  have count : (Scan.findings (Utf8.decode (Utf8.encode "gets(s);".toList))).length = 1 := by
    decide +kernel
  obtain ⟨-, -, -, read, -⟩ := lone_argument_is_source none tree "--help" plainHelp
  obtain ⟨-, -, -, -, unread⟩ := lone_argument_is_source none tree "--" plainDashes
  refine ⟨plainHelp, plainDashes, ?_, (unread _ missing).2 ""⟩
  obtain ⟨result, scanned, -, header⟩ := read _ opened
  have shown : result.findings.length = 1 := by
    rw [Scan.runIn, opened] at scanned
    rw [Scan.findings_of_run scanned]
    exact count
  have found : result.findings ≠ [] := List.ne_nil_of_length_pos (by omega)
  have named := header found
  rw [shown] at named
  exact named

end OverflowScan.CommandLine
