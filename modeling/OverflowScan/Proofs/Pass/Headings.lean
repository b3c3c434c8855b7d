import OverflowScan.Proofs.Pass.Findings
import OverflowScan.Proofs.Scan

set_option autoImplicit false

namespace OverflowScan

namespace Catalog

/-- How the description of each finding on an entry starts. -/
def Entry.heading (entry : Entry) : List Char :=
  entry.description.toList ++ " in context: ".toList

def Entry.reports (entry : Entry) (finding : Finding) : Bool :=
  entry.heading.isPrefixOf finding.description.toList

def Diverge (first second : List Char) : Prop :=
  ¬ first <+: second ∧ ¬ second <+: first

instance (first second : List Char) : Decidable (Diverge first second) :=
  inferInstanceAs (Decidable (_ ∧ _))

def otherHeadings : List (List Char) :=
  ["Unchecked array access with variable: ".toList, LoopPass.description.toList,
    FunctionPass.description.toList]

theorem headings_diverge : lineEntries.Pairwise fun entry other =>
    Diverge entry.heading other.heading := by
  decide

theorem otherHeadings_diverge :
    ∀ entry ∈ lineEntries, ∀ heading ∈ otherHeadings, Diverge entry.heading heading := by
  decide

theorem toList_prefix_append (opening : String) (rest : List Char) :
    opening.toList <+: (opening ++ String.ofList rest).toList :=
  ⟨rest, by simp⟩

variable {entry : Entry} {finding : Finding}

theorem reports_iff : entry.reports finding ↔ entry.heading <+: finding.description.toList :=
  List.isPrefixOf_iff_prefix

theorem not_reports_of_diverge {heading : List Char} (apart : Diverge entry.heading heading)
    (opens : heading <+: finding.description.toList) : ¬ entry.reports finding := by
  intro reports
  rcases List.prefix_or_prefix_of_prefix (reports_iff.mp reports) opens with shorter | longer
  · exact apart.1 shorter
  · exact apart.2 longer

end Catalog

private theorem filter_flatMap_of_pairwise {α β : Type} {apart : α → α → Prop} {items : List α}
    {item : α} {f : α → List β} {p : β → Bool} (pairwise : items.Pairwise apart)
    (member : item ∈ items) (own : ∀ b ∈ f item, p b)
    (others : ∀ other, apart item other ∨ apart other item → ∀ b ∈ f other, ¬ p b) :
    (items.flatMap f).filter p = f item := by
  obtain ⟨before, after, rfl⟩ := List.append_of_mem member
  obtain ⟨-, later, earlier⟩ := List.pairwise_append.mp pairwise
  have none (rest : List α) (away : ∀ other ∈ rest, apart item other ∨ apart other item) :
      (rest.flatMap f).filter p = [] := by
    refine List.filter_eq_nil_iff.mpr fun b found => ?_
    obtain ⟨other, listed, found⟩ := List.mem_flatMap.mp found
    exact others other (away other listed) b found
  have behind := none after fun other listed =>
    Or.inl ((List.pairwise_cons.mp later).1 other listed)
  have ahead := none before fun other listed =>
    Or.inr (earlier other listed item List.mem_cons_self)
  rw [List.flatMap_append, List.flatMap_cons, List.filter_append, List.filter_append, ahead, behind,
    List.filter_eq_self.mpr own, List.nil_append, List.append_nil]

namespace Catalog

/-- A finding that is on no entry: its description starts otherwise, and it is medium. -/
structure OnNoEntry (finding : Finding) : Prop where
  described : ∃ heading ∈ otherHeadings, heading <+: finding.description.toList
  severity : finding.severity = .medium

theorem OnNoEntry.not_reports {entry : Catalog.Entry} {finding : Finding}
    (other : OnNoEntry finding) (listed : entry ∈ lineEntries) : ¬ entry.reports finding := by
  obtain ⟨heading, known, opens⟩ := other.described
  exact not_reports_of_diverge (otherHeadings_diverge entry listed heading known) opens

end Catalog

open Catalog

theorem LinePass.accesses_onNoEntry (number : Int) (line : List Char) :
    ∀ finding ∈ (arrayAccess.findAll line).filterMap (accessFinding? number),
      OnNoEntry finding := by
  intro finding member
  obtain ⟨found, among, reported⟩ := List.mem_filterMap.mp member
  have occurs := Pattern.occurs_of_mem_occurrences arrayAccess line (by decide) 0 found among
  obtain ⟨index, -, -, rfl⟩ := accessFinding?_eq_some finding occurs reported
  exact ⟨⟨_, List.mem_cons_self, toList_prefix_append _ index⟩, rfl⟩

theorem LoopPass.findings_onNoEntry (text : List Char) :
    ∀ finding ∈ findings text, OnNoEntry finding := by
  intro finding member
  obtain ⟨found, -, reported⟩ := List.mem_filterMap.mp member
  obtain ⟨-, rfl⟩ := (loopFinding?_eq_some_iff text found finding).mp reported
  exact ⟨⟨_, List.mem_cons_of_mem _ List.mem_cons_self, List.prefix_refl _⟩, rfl⟩

theorem FunctionPass.findings_onNoEntry (text : List Char) :
    ∀ finding ∈ findings text, OnNoEntry finding := by
  intro finding member
  obtain ⟨found, -, reported⟩ := List.mem_filterMap.mp member
  obtain ⟨-, -, rfl⟩ := (functionFinding?_eq_some_iff text found finding).mp reported
  exact ⟨⟨_, List.mem_of_getLast? rfl, List.prefix_refl _⟩, rfl⟩

theorem LinePass.heading_opens (number : Int) (line : List Char) (entry : Catalog.Entry)
    (found : Match) :
    entry.heading <+: (entryFinding number line entry found).description.toList := by
  rw [Entry.heading, ← String.toList_append]
  exact toList_prefix_append _ (excerpt line found)

section

variable {entry : Catalog.Entry}

private theorem filter_reports_eq_nil (listed : entry ∈ lineEntries) {findings : List Finding}
    (others : ∀ finding ∈ findings, OnNoEntry finding) : findings.filter entry.reports = [] :=
  List.filter_eq_nil_iff.mpr fun finding member => (others finding member).not_reports listed

/-- The findings on an entry in a line are those of its occurrences. -/
theorem LinePass.filter_lineFindings (listed : entry ∈ lineEntries) (number : Int)
    (line : List Char) :
    (lineFindings number line).filter entry.reports =
      (entry.pattern.findAll line).map (entryFinding number line entry) := by
  rw [lineFindings, List.filter_append,
    filter_reports_eq_nil listed (accesses_onNoEntry number line), List.append_nil]
  refine filter_flatMap_of_pairwise headings_diverge listed ?_ ?_
  · intro finding member
    obtain ⟨found, -, rfl⟩ := List.mem_map.mp member
    exact reports_iff.mpr (heading_opens number line entry found)
  · intro other apart finding member
    obtain ⟨found, -, rfl⟩ := List.mem_map.mp member
    exact not_reports_of_diverge (apart.elim id And.symm) (heading_opens number line other found)

/-- The findings on an entry in a scan are those of its occurrences, line by line. -/
theorem Scan.filter_findings (listed : entry ∈ lineEntries) (text : List Char) :
    (findings text).filter entry.reports =
      ((Text.lines text).zipIdx 1).flatMap fun numbered =>
        (entry.pattern.findAll numbered.1).map
          (LinePass.entryFinding numbered.2 numbered.1 entry) := by
  have loops := filter_reports_eq_nil listed (LoopPass.findings_onNoEntry text)
  have functions := filter_reports_eq_nil listed (FunctionPass.findings_onNoEntry text)
  simp only [findings, Pass.all, Pass.findings, List.flatMap_cons, List.flatMap_nil,
    List.filter_append, loops, functions, List.append_nil]
  rw [LinePass.findings, LinePass.findingsFrom_eq_flatMap, List.filter_flatMap]
  simp only [LinePass.filter_lineFindings listed]

end

end OverflowScan
