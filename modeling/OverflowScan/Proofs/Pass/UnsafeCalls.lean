import OverflowScan.Proofs.Pass.Headings
import OverflowScan.Proofs.Pass.Places

set_option autoImplicit false

namespace OverflowScan

open Catalog

/-- The severity of a call: two of the unsafe functions cannot be used safely at all. -/
def callSeverity (name : String) : Severity :=
  if name = "strcpy" ∨ name = "gets" then .high else .medium

theorem callSeverity_eq_high_iff (name : String) :
    callSeverity name = .high ↔ name = "strcpy" ∨ name = "gets" := by
  rw [callSeverity]
  split <;> simp_all

theorem callSeverity_ne_low (name : String) : callSeverity name ≠ .low := by
  rw [callSeverity]
  split <;> simp

/-- The findings on an entry are, in order, one for each place at which something stands, with its
line, its words and its severity. -/
structure ReportsPlaces (entry : Catalog.Entry) (stands : List Char → Nat → String → Prop)
    (severity : String → Severity) (text : List Char) (findings : List Finding)
    (places : List Place) : Prop where
  listed : ListsPlaces stands text places
  reported : (findings.filter entry.reports).map (fun finding =>
      (finding.lineNumber, finding.subject, finding.severity)) =
    places.map fun place => ((place.number : Int), place.subject, severity place.subject)

namespace LinePass

variable {line : List Char} {entry : Catalog.Entry} {found : Match}

theorem classify_eq_callSeverity (subject : String) : classify subject = callSeverity subject := by
  have same : subject ∈ highSeveritySubjects ↔ subject = "strcpy" ∨ subject = "gets" := by
    rw [or_comm, highSeveritySubjects, List.mem_cons, List.mem_singleton]
  simp only [classify, callSeverity, same]

theorem callSeverity_of_other (other : entry ∈ lineEntries.tail)
    (occurs : entry.pattern.Occurs line found) : callSeverity (subject found) = .medium := by
  have apart : ∀ entry ∈ lineEntries.tail, ∀ word ∈ entry.pattern.openings,
      ∀ high ∈ highSeveritySubjects, ¬ word <+: high.toList := by decide
  obtain ⟨-, word, opening, opens⟩ := subject_in_line (List.mem_of_mem_tail other) occurs
  rw [← classify_eq_callSeverity, classify, if_neg]
  exact fun high => apart entry other word opening _ high opens

end LinePass

namespace Scan

variable {text : List Char} {finding : Finding}

/-- A finding is on an occurrence of an entry in a line, or on no entry at all. -/
theorem findings_cases (member : finding ∈ findings text) :
    (∃ number line, ∃ entry ∈ lineEntries, ∃ found, entry.pattern.Occurs line found ∧
      finding = LinePass.entryFinding number line entry found) ∨ OnNoEntry finding := by
  rcases (mem_findings text finding).mp member with inLine | inLoop | inFunction
  · obtain ⟨index, line, -, member⟩ := (LinePass.mem_findings text finding).mp inLine
    rcases List.mem_append.mp member with entries | accesses
    · obtain ⟨entry, listed, member⟩ := List.mem_flatMap.mp entries
      obtain ⟨found, among, rfl⟩ := List.mem_map.mp member
      exact Or.inl ⟨_, line, entry, listed, found, LinePass.entry_occurs listed among, rfl⟩
    · exact Or.inr (LinePass.accesses_onNoEntry _ line finding accesses)
  · exact Or.inr (LoopPass.findings_onNoEntry text finding inLoop)
  · exact Or.inr (FunctionPass.findings_onNoEntry text finding inFunction)

theorem severity_eq (member : finding ∈ findings text) :
    finding.severity =
      if unsafeCall.reports finding then callSeverity finding.subject else .medium := by
  have listed : unsafeCall ∈ lineEntries := List.mem_cons_self
  rcases findings_cases member with ⟨number, line, entry, known, found, occurs, rfl⟩ | other
  · rcases List.mem_cons.mp known with rfl | later
    · rw [if_pos (reports_iff.mpr (LinePass.heading_opens number line unsafeCall found))]
      exact LinePass.classify_eq_callSeverity _
    · have apart := (List.pairwise_cons.mp headings_diverge).1 entry later
      rw [if_neg (not_reports_of_diverge apart (LinePass.heading_opens number line entry found))]
      exact (LinePass.classify_eq_callSeverity _).trans
        (LinePass.callSeverity_of_other later occurs)
  · rw [if_neg (other.not_reports listed), other.severity]

theorem reportsPlaces {entry : Catalog.Entry} {stands : List Char → Nat → String → Prop}
    {severity : String → Severity} (locates : Locates entry stands) (listed : entry ∈ lineEntries)
    (rated : ∀ {line found}, entry.pattern.Occurs line found →
      callSeverity (LinePass.subject found) = severity (LinePass.subject found))
    (text : List Char) :
    ReportsPlaces entry stands severity text (findings text) (entryPlaces entry text) := by
  refine ⟨locates.listsPlaces listed text, ?_⟩
  rw [filter_findings listed, entryPlaces, List.map_flatMap, List.map_flatMap]
  congr 1
  funext numbered
  rw [List.map_map, List.map_map]
  refine List.map_congr_left fun found member => ?_
  have same := rated (LinePass.entry_occurs listed member)
  rw [← LinePass.classify_eq_callSeverity] at same
  simp only [Function.comp_apply, LinePass.entryFinding, same]

theorem reportsPlaces_of_other {entry : Catalog.Entry} {stands : List Char → Nat → String → Prop}
    (locates : Locates entry stands) (other : entry ∈ lineEntries.tail) (text : List Char) :
    ReportsPlaces entry stands (fun _ => .medium) text (findings text) (entryPlaces entry text) :=
  reportsPlaces locates (List.mem_of_mem_tail other) (LinePass.callSeverity_of_other other) text

theorem countP_high {places : List Place}
    (reports : ReportsPlaces unsafeCall UnsafeCallAt callSeverity text (findings text) places) :
    (findings text).countP (fun finding => finding.severity = .high) =
      places.countP fun place => callSeverity place.subject = .high := by
  have view := congrArg (List.countP fun shown => decide (shown.2.2 = Severity.high))
    reports.reported
  rw [List.countP_map, List.countP_map, List.countP_filter] at view
  refine Eq.trans (List.countP_congr fun finding member => ?_) view
  by_cases reported : unsafeCall.reports finding
  · simp [reported]
  · simp [reported, severity_eq member]

theorem severity_eq_high_iff (member : finding ∈ findings text) :
    finding.severity = .high ↔
      unsafeCall.reports finding ∧ (finding.subject = "strcpy" ∨ finding.subject = "gets") := by
  rw [severity_eq member, ← callSeverity_eq_high_iff]
  by_cases reported : unsafeCall.reports finding <;> simp [reported]

theorem severity_ne_low (member : finding ∈ findings text) : finding.severity ≠ .low := by
  rw [severity_eq member]
  by_cases reported : unsafeCall.reports finding <;> simp [reported, callSeverity_ne_low]

theorem severity_of_function (member : finding ∈ findings text)
    (rule : finding.rule = FunctionPass.name) : finding.severity = .medium := by
  have differ : LinePass.name ≠ FunctionPass.name := by decide
  rcases findings_cases member with ⟨number, line, entry, -, found, -, rfl⟩ | other
  · exact absurd rule differ
  · exact other.severity

end Scan

/-- A scan reports each unsafe call of a file once, with its line, its name and its severity, and so
it does each fixed-size buffer and each call of `std::copy`. Nothing else is of high severity, and
nothing is of low severity. -/
theorem scan_reports_each_unsafe_call (source : String) (bytes : List UInt8) :
    ∃ result, (Scan.run source (.ok bytes)).2 = .ok result ∧ ∃ calls buffers copies,
      ReportsPlaces unsafeCall UnsafeCallAt callSeverity (Utf8.decode bytes) result.findings calls ∧
      ReportsPlaces fixedBuffer FixedBufferAt (fun _ => .medium) (Utf8.decode bytes)
        result.findings buffers ∧
      ReportsPlaces standardCopy StandardCopyAt (fun _ => .medium) (Utf8.decode bytes)
        result.findings copies ∧
      (∀ finding ∈ result.findings, finding.severity = .high ↔
        unsafeCall.reports finding ∧ (finding.subject = "strcpy" ∨ finding.subject = "gets")) ∧
      (∀ finding ∈ result.findings,
        finding.rule = FunctionPass.name → finding.severity = .medium) ∧
      result.summary.high =
        (calls.countP fun call => call.subject = "strcpy" ∨ call.subject = "gets" : Nat) ∧
      result.summary.low = 0 := by
  have calls := Scan.reportsPlaces locates_unsafeCall List.mem_cons_self (fun _ => rfl)
    (Utf8.decode bytes)
  have buffers := Scan.reportsPlaces_of_other locates_fixedBuffer List.mem_cons_self
    (Utf8.decode bytes)
  have copies := Scan.reportsPlaces_of_other locates_standardCopy (by simp [lineEntries])
    (Utf8.decode bytes)
  have counts := ScanResult.addAll_count { source := source } (Scan.findings (Utf8.decode bytes))
  refine ⟨_, Scan.run_ok source bytes, entryPlaces unsafeCall (Utf8.decode bytes),
    entryPlaces fixedBuffer (Utf8.decode bytes), entryPlaces standardCopy (Utf8.decode bytes), ?_⟩
  rw [ScanResult.addAll_new_findings]
  refine ⟨calls, buffers, copies, fun _ => Scan.severity_eq_high_iff,
    fun _ => Scan.severity_of_function, ?_, ?_⟩
  · have high := counts .high
    simp only [Scan.countP_high calls, callSeverity_eq_high_iff] at high
    exact high.trans (Int.zero_add _)
  · have none : (Scan.findings (Utf8.decode bytes)).countP
        (fun finding => finding.severity = .low) = 0 := by
      refine List.countP_eq_zero.mpr fun finding member => ?_
      simpa using Scan.severity_ne_low member
    have low := counts .low
    rw [none] at low
    exact low

end OverflowScan
