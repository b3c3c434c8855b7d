import OverflowScan.Proofs.Pass.Findings
import OverflowScan.Proofs.Scan
import OverflowScan.Proofs.Text.Decimal
import OverflowScan.Report

set_option autoImplicit false

namespace OverflowScan

def OneLine (text : String) : Prop :=
  '\n' ∉ text.toList

instance (text : String) : Decidable (OneLine text) :=
  inferInstanceAs (Decidable ('\n' ∉ text.toList))

namespace OneLine

theorem append {first second : String} (left : OneLine first) (right : OneLine second) :
    OneLine (first ++ second) := by
  unfold OneLine
  rw [String.toList_append, List.mem_append]
  intro feed
  exact feed.elim left right

theorem of_part {part line : List Char} (plain : '\n' ∉ line) (within : part <:+: line) :
    OneLine (String.ofList part) := by
  unfold OneLine
  rw [String.toList_ofList]
  intro feed
  exact plain (within.subset feed)

theorem repr (n : Nat) : OneLine (Nat.repr n) := by
  intro feed
  exact absurd (Text.isDigit_of_mem_repr feed) (by decide)

theorem decimal (n : Int) : OneLine (Text.decimal n) := by
  intro feed
  rcases Text.mem_decimal feed with sign | digit
  · exact absurd sign (by decide)
  · exact absurd digit (by decide)

end OneLine

/-- A finding whose texts hold no line feed. -/
structure Finding.Plain (finding : Finding) : Prop where
  subject : OneLine finding.subject
  description : OneLine finding.description

theorem Finding.Plain.line {finding : Finding} (plain : finding.Plain) : OneLine finding.line := by
  have severity : OneLine finding.severity.text := by
    cases finding.severity <;> decide
  unfold Finding.line
  apply OneLine.append ?_ plain.description
  apply OneLine.append ?_ (by decide)
  apply OneLine.append ?_ plain.subject
  apply OneLine.append ?_ (by decide)
  apply OneLine.append ?_ severity
  apply OneLine.append ?_ (by decide)
  exact OneLine.append (by decide) (OneLine.decimal _)

theorem LinePass.entryFinding_plain {line : List Char} {entry : Catalog.Entry} {found : Match}
    (plain : '\n' ∉ line) (number : Int) (listed : entry ∈ Catalog.lineEntries)
    (occurs : entry.pattern.Occurs line found) :
    (entryFinding number line entry found).Plain := by
  have described : ∀ entry ∈ Catalog.lineEntries, OneLine entry.description := by decide +kernel
  constructor
  · intro feed
    exact plain ((subject_in_line listed occurs).1.subset feed)
  · have within := excerpt_infix line found
    apply OneLine.append ?_ (OneLine.of_part plain within)
    exact OneLine.append (described entry listed) (by decide)

theorem LinePass.lineFindings_plain {line : List Char} (plain : '\n' ∉ line) (number : Int) :
    ∀ finding ∈ lineFindings number line, finding.Plain := by
  intro finding member
  rcases (mem_lineFindings number line finding).mp member with
    ⟨entry, listed, found, among, rfl⟩ | ⟨found, among, reported⟩
  · exact entryFinding_plain plain number listed (entry_occurs listed among)
  · have occurs := Pattern.occurs_of_mem_occurrences Catalog.arrayAccess line (by decide) 0 found
      among
    obtain ⟨index, -, ⟨before, after, split⟩, rfl⟩ := accessFinding?_eq_some finding occurs reported
    have within : index <:+: line := ⟨before ++ ['['], ']' :: after, by simp [← split]⟩
    have subject : OneLine accessSubject := by decide
    exact ⟨subject, OneLine.append (by decide) (OneLine.of_part plain within)⟩

theorem LoopPass.findings_plain (text : List Char) :
    ∀ finding ∈ findings text, finding.Plain := by
  intro finding member
  obtain ⟨found, -, reported⟩ := List.mem_filterMap.mp member
  obtain ⟨-, rfl⟩ := (loopFinding?_eq_some_iff text found finding).mp reported
  have subject : OneLine LoopPass.subject := by decide
  have description : OneLine LoopPass.description := by decide +kernel
  exact ⟨subject, description⟩

/-- The match behind a function may span lines, but its name is a run of letters, digits and
underscores. -/
theorem FunctionPass.findings_plain (text : List Char) :
    ∀ finding ∈ findings text, finding.Plain := by
  intro finding member
  obtain ⟨found, among, reported⟩ := List.mem_filterMap.mp member
  obtain ⟨-, -, rfl⟩ := (functionFinding?_eq_some_iff text found finding).mp reported
  have occurs := Pattern.occurs_of_mem_occurrences Catalog.function text (by decide) 0 found among
  obtain ⟨kind, nameStart, nameStop, paren, close, brace, head, -, groups⟩ :=
    Catalog.mem_outcomes_function.mp occurs.mem
  have named : (found.group? 2).getD [] = Text.slice text nameStart nameStop := by
    simp [Match.group?, groups, List.lookup_cons]
  have description : OneLine FunctionPass.description := by decide +kernel
  refine ⟨?_, description⟩
  show OneLine (String.ofList ((found.group? 2).getD []))
  rw [named]
  unfold OneLine
  rw [String.toList_ofList]
  intro feed
  exact absurd (head.named.2.forall_mem '\n' feed) (by decide)

theorem Scan.findings_plain (text : List Char) : ∀ finding ∈ findings text, finding.Plain := by
  intro finding member
  rcases (mem_findings text finding).mp member with inLine | inLoop | inFunction
  · obtain ⟨index, line, lookup, member⟩ := (LinePass.mem_findings text finding).mp inLine
    have plain := Text.newline_not_mem_lines text line (List.mem_of_getElem? lookup)
    exact LinePass.lineFindings_plain plain _ finding member
  · exact LoopPass.findings_plain text finding inLoop
  · exact FunctionPass.findings_plain text finding inFunction

namespace Report

theorem render_header {result : ScanResult} (found : result.findings ≠ [])
    (name? : Option String) :
    ∃ rest, render result name? =
      header result.findings.length (name?.getD result.source) ++ "\n" ++ rest := by
  have filled : result.findings.isEmpty = false := by simpa using found
  refine ⟨String.intercalate "\n"
    ([separator] ++ result.findings.map Finding.line ++ [separator] ++ disclaimer), ?_⟩
  rw [render, filled, if_neg Bool.false_ne_true, lines]
  simp only [List.cons_append, List.nil_append, String.intercalate_cons_cons, String.append_assoc]

theorem header_line (count : Nat) (name : String) :
    header count name ++ "\n" = "Detected " ++ Nat.repr count ++
      " potential buffer overflow vulnerabilities in " ++ name ++ ":\n" := by
  rw [header, String.append_assoc]
  rfl

theorem lines_oneLine {result : ScanResult} {name : String}
    (plain : ∀ finding ∈ result.findings, finding.Plain) (named : OneLine name) :
    ∀ line ∈ lines result name, OneLine line := by
  have header : OneLine (header result.findings.length name) := by
    apply OneLine.append ?_ (by decide)
    apply OneLine.append ?_ named
    apply OneLine.append ?_ (by decide)
    exact OneLine.append (by decide) (OneLine.repr _)
  have fixed : ∀ line ∈ separator :: disclaimer, OneLine line := by decide +kernel
  intro line member
  simp only [lines, List.mem_append, List.mem_cons, List.mem_map, List.not_mem_nil, or_false]
    at member
  rcases member with (((rfl | rfl) | ⟨finding, among, rfl⟩) | rfl) | closing
  · exact header
  · exact fixed _ List.mem_cons_self
  · exact (plain finding among).line
  · exact fixed _ List.mem_cons_self
  · exact fixed line (List.mem_cons_of_mem _ closing)

/-- Splitting a report of findings at its line feeds gives back the lines it was made of. -/
theorem splitOn_render {result : ScanResult} (found : result.findings ≠ [])
    (plain : ∀ finding ∈ result.findings, finding.Plain) (named : OneLine result.source) :
    (render result none).toList.splitOn '\n' = (lines result result.source).map String.toList := by
  have filled : result.findings.isEmpty = false := by simpa using found
  have feed : "\n".toList = ['\n'] := by decide
  rw [render, filled, if_neg Bool.false_ne_true, Option.getD_none, String.toList_intercalate, feed]
  apply List.splitOn_intercalate
  · intro line member
    obtain ⟨text, among, rfl⟩ := List.mem_map.mp member
    exact lines_oneLine plain named text among
  · simp [lines]

end Report

/-- The text of a source cannot forge lines of its report, whatever the bytes are: no finding holds
a line feed, so a report splits into its header, a separator, one line for each finding in order, a
separator and the two lines of the disclaimer; without findings it is one fixed sentence. -/
theorem report_lines_not_forged (source : String) (bytes : List UInt8)
    (plain : '\n' ∉ source.toList) :
    ∃ result, (Scan.run source (.ok bytes)).2 = .ok result ∧
      (∀ finding ∈ result.findings,
        '\n' ∉ finding.subject.toList ∧ '\n' ∉ finding.description.toList) ∧
      (result.findings = [] → Report.render result none =
        "No potential buffer overflow vulnerabilities detected.") ∧
      (result.findings ≠ [] →
        let dashes := String.ofList (List.replicate 69 '-')
        ((Report.render result none).toList.splitOn '\n').length = result.findings.length + 5 ∧
        (Report.render result none).toList.splitOn '\n' =
          (["Detected " ++ Nat.repr result.findings.length ++
              " potential buffer overflow vulnerabilities in " ++ source ++ ":", dashes] ++
            result.findings.map (fun finding =>
              "Line " ++ Text.decimal finding.lineNumber ++ ": [" ++ finding.severity.text ++
                "] " ++ finding.subject ++ " - " ++ finding.description) ++
            [dashes, "Note: This is a static analysis and may produce false positives.",
              "Each finding should be manually verified."]).map String.toList) := by
  obtain ⟨result, ran⟩ : ∃ result, (Scan.run source (.ok bytes)).2 = .ok result :=
    ⟨_, Scan.run_ok source bytes⟩
  have texts : ∀ finding ∈ result.findings, finding.Plain := by
    rw [Scan.findings_of_run ran]
    exact Scan.findings_plain _
  have named : result.source = source := Scan.source_of_run ran
  refine ⟨result, ran, ?_, ?_, ?_⟩
  · intro finding member
    exact ⟨(texts finding member).subject, (texts finding member).description⟩
  · intro empty
    rw [Report.render, empty]
    rfl
  · intro found
    rw [Report.splitOn_render found texts (by rwa [named]), named]
    refine ⟨?_, congrArg (List.map String.toList) ?_⟩
    · simp [Report.lines, Report.disclaimer]
    · rw [Report.lines, List.append_assoc (_ ++ _)]
      rfl

theorem spanning_function_takes_one_line :
    '\n' ∉ "a.c".toList ∧
    ∃ result,
      (Scan.run "a.c" (.ok (Utf8.encode "void\nf(char *p)\x7b*p=1;\x7d".toList))).2 = .ok result ∧
      ((Report.render result none).toList.splitOn '\n').length = 6 := by
  have plain : '\n' ∉ "a.c".toList := by decide
  obtain ⟨result, ran, -, -, split⟩ :=
    report_lines_not_forged "a.c" (Utf8.encode "void\nf(char *p)\x7b*p=1;\x7d".toList) plain
  have count : (Scan.findings
      (Utf8.decode (Utf8.encode "void\nf(char *p)\x7b*p=1;\x7d".toList))).length = 1 := by
    decide +kernel
  have shown : result.findings.length = 1 := by
    rw [Scan.findings_of_run ran]
    exact count
  have found : result.findings ≠ [] := List.ne_nil_of_length_pos (by omega)
  exact ⟨plain, result, ran, by rw [(split found).1, shown]⟩

end OverflowScan
