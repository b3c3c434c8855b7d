import OverflowScan.Proofs.Catalog.Heads
import OverflowScan.Proofs.Pass.Findings

set_option autoImplicit false

namespace OverflowScan

open Catalog

namespace Text

/-- The pieces of a line that a closing bracket ends, without that bracket. -/
def closedPieces (line : List Char) : List (List Char) :=
  (line.splitOn ']').dropLast

theorem closedPieces_open {piece : List Char} (unclosed : ']' ∉ piece) :
    closedPieces piece = [] := by
  rw [closedPieces, List.splitOn_eq_singleton unclosed, List.dropLast_singleton]

theorem closedPieces_append (front rest : List Char) :
    closedPieces (front ++ ']' :: rest) = front.splitOn ']' ++ closedPieces rest := by
  rw [closedPieces, List.splitOn_append_cons_self,
    List.dropLast_append_of_ne_nil (List.splitOn_ne_nil ']' rest), closedPieces]

theorem closedPieces_closed {piece : List Char} (unclosed : ']' ∉ piece) (rest : List Char) :
    closedPieces (piece ++ ']' :: rest) = piece :: closedPieces rest := by
  rw [closedPieces_append, List.splitOn_eq_singleton unclosed, List.singleton_append]

/-- The pieces up to a closing bracket do not depend on what follows it. -/
theorem closedPieces_seam (front rest : List Char) :
    closedPieces (front ++ ']' :: rest) = closedPieces (front ++ [']']) ++ closedPieces rest := by
  have none : closedPieces [] = [] := closedPieces_open List.not_mem_nil
  rw [closedPieces_append, closedPieces_append, none, List.append_nil]

end Text

instance (word : List Char) : Decidable (Catalog.IsIdentifier word) :=
  decidable_of_iff _ (Catalog.identifier_matchWhole?_iff word)

namespace LinePass

def index? : List Char → Option (List Char)
  | [] => none
  | c :: rest => if c = '[' then some rest else index? rest

/-- The identifier by which a piece accesses an array. -/
def bareIndex? (piece : List Char) : Option (List Char) :=
  (index? piece).filter fun index => IsIdentifier index

theorem index?_eq_none {piece : List Char} (absent : '[' ∉ piece) : index? piece = none := by
  induction piece with
  | nil => rfl
  | cons c rest ih =>
      obtain ⟨other, later⟩ := List.ne_and_not_mem_of_not_mem_cons absent
      rw [index?, if_neg other.symm, ih later]

theorem index?_append {front : List Char} (absent : '[' ∉ front) (index : List Char) :
    index? (front ++ '[' :: index) = some index := by
  induction front with
  | nil => rfl
  | cons c front ih =>
      obtain ⟨other, later⟩ := List.ne_and_not_mem_of_not_mem_cons absent
      rw [List.cons_append, index?, if_neg other.symm, ih later]

theorem index?_eq_some_iff {piece index : List Char} :
    index? piece = some index ↔ ∃ front, '[' ∉ front ∧ piece = front ++ '[' :: index := by
  constructor
  · intro found
    by_cases bracket : '[' ∈ piece
    · obtain ⟨front, behind, rfl, absent⟩ := List.eq_append_cons_of_mem bracket
      rw [index?_append absent] at found
      cases found
      exact ⟨front, absent, rfl⟩
    · rw [index?_eq_none bracket] at found
      cases found
  · intro shape
    obtain ⟨front, absent, rfl⟩ := shape
    exact index?_append absent index

theorem bareIndex?_eq_some_iff {piece index : List Char} :
    bareIndex? piece = some index ↔
      IsIdentifier index ∧ ∃ front, '[' ∉ front ∧ piece = front ++ '[' :: index := by
  rw [bareIndex?, Option.filter_eq_some_iff, index?_eq_some_iff, decide_eq_true_iff, and_comm]

theorem not_isIdentifier_of_bracket {word : List Char} (bracket : '[' ∈ word) :
    ¬ IsIdentifier word := by
  rintro ⟨first, rest, rfl, letter, letters⟩
  rcases List.mem_cons.mp bracket with rfl | inside
  · exact absurd letter (by decide)
  · exact absurd (letters '[' inside) (by decide)

/-- What follows any opening bracket of a piece follows its first one, too. -/
theorem index?_append_suffix (front rest : List Char) :
    ∃ index, index? (front ++ '[' :: rest) = some index ∧ rest <:+ index := by
  induction front with
  | nil => exact ⟨rest, rfl, List.suffix_refl rest⟩
  | cons c front ih =>
      by_cases bracket : c = '['
      · refine ⟨front ++ '[' :: rest, ?_, front ++ ['['], ?_⟩
        · rw [List.cons_append, index?, if_pos bracket]
        · rw [List.append_assoc, List.singleton_append]
      · rw [List.cons_append, index?, if_neg bracket]
        exact ih

theorem bareIndex?_of_two (front middle back : List Char) :
    bareIndex? (front ++ '[' :: (middle ++ '[' :: back)) = none := by
  obtain ⟨index, found, inside⟩ := index?_append_suffix front (middle ++ '[' :: back)
  have bracket : '[' ∈ index := inside.subset (by simp)
  rw [bareIndex?, found, Option.filter_some, if_neg]
  exact fun identifier => not_isIdentifier_of_bracket bracket (of_decide_eq_true identifier)

theorem bareIndex?_of_empty (front : List Char) : bareIndex? (front ++ ['[']) = none := by
  by_cases bracket : '[' ∈ front
  · obtain ⟨start, middle, rfl⟩ := List.append_of_mem bracket
    rw [List.append_assoc]
    exact bareIndex?_of_two start middle []
  · rw [bareIndex?, index?_append bracket]
    rfl

theorem getElem?_closing (piece rest : List Char) :
    (piece ++ ']' :: rest)[piece.length]? = some ']' := by
  rw [List.getElem?_append_right (Nat.le_refl _), Nat.sub_self, List.getElem?_cons_zero]

/-- An access starts with an opening bracket, and another character than the closing one is next. -/
theorem opening_of_spells {text : List Char} {start stop : Nat}
    (spelled : arrayAccess.Spells text start stop) :
    text[start]? = some '[' ∧ text[start + 1]? ≠ some ']' := by
  obtain ⟨groups, found⟩ := (Pattern.exists_mem_outcomes_iff _ _ _ _).mpr spelled
  obtain ⟨close, opened, filled, run, -, -, -⟩ := mem_outcomes_arrayAccess.mp found
  refine ⟨opened, fun closing => ?_⟩
  have inner := run.2 (start + 1) (Nat.le_refl _) filled
  rw [closing] at inner
  exact absurd inner (by decide)

theorem not_spells_of_none {piece : List Char} (none : ∀ index ∈ index? piece, index = [])
    (rest : List Char) {start : Nat} (before : start < piece.length + 1) (stop : Nat) :
    ¬ arrayAccess.Spells (piece ++ ']' :: rest) start stop := by
  intro spelled
  obtain ⟨opened, other⟩ := opening_of_spells spelled
  have closing := getElem?_closing piece rest
  have inside : start < piece.length := by
    rcases Nat.lt_succ_iff_lt_or_eq.mp before with less | rfl
    · exact less
    · rw [closing] at opened
      exact absurd opened (by decide)
  rw [List.getElem?_append_left inside] at opened
  have split : piece.take start ++ '[' :: piece.drop (start + 1) = piece := by
    have here := List.drop_eq_getElem?_toList_append (l := piece) (i := start)
    rw [opened] at here
    rw [← List.singleton_append, ← Option.toList_some, ← here, List.take_append_drop]
  obtain ⟨index, found, behind⟩ := index?_append_suffix (piece.take start) (piece.drop (start + 1))
  rw [split] at found
  rw [none index found, List.suffix_nil, List.drop_eq_nil_iff] at behind
  have last : piece.length = start + 1 := by omega
  rw [last] at closing
  exact other closing

private theorem edgeless {edge : Prop} : arrayAccess.hasBoundary → edge :=
  fun boundary => absurd boundary (by decide)

theorem findAll_of_none {piece : List Char} (none : ∀ index ∈ index? piece, index = [])
    (rest : List Char) :
    arrayAccess.findAll (piece ++ ']' :: rest) =
      (arrayAccess.findAll rest).map (Match.shift (piece.length + 1)) := by
  have split : piece ++ ']' :: rest = (piece ++ [']']) ++ rest := by simp
  have width : (piece ++ [']']).length = piece.length + 1 := List.length_append
  have absent : ∀ start < (piece ++ [']']).length, ∀ stop,
      ¬ arrayAccess.Spells (piece ++ [']'] ++ rest) start stop := by
    intro start before stop
    rw [← split]
    exact not_spells_of_none none rest (by omega) stop
  rw [split, Pattern.findAll_append_left (by decide) _ rest edgeless absent, width]

/-- An access is taken where it starts, and the search goes on behind its closing bracket. -/
theorem occurrences_arrayAccess {text : List Char} {start close : Nat}
    (opened : text[start]? = some '[') (filled : start + 1 < close)
    (run : Text.Run (CharClass.butNot ']').holds text (start + 1) close)
    (closed : text[close]? = some ']') :
    ∃ found, found.group? 1 = some (Text.slice text (start + 1) close) ∧
      arrayAccess.occurrences text start = found :: arrayAccess.occurrences text (close + 1) := by
  have member := mem_outcomes_arrayAccess.mpr ⟨close, opened, filled, run, closed, rfl, rfl⟩
  have inside : start < text.length := (List.getElem?_eq_some_iff.mp opened).1
  cases trial : arrayAccess.outcomes text start with
  | nil =>
      rw [trial] at member
      exact absurd member List.not_mem_nil
  | cons outcome more =>
      obtain ⟨other, -, -, again, ended, stop, groups⟩ :=
        mem_outcomes_arrayAccess.mp (Pattern.mem_of_outcomes_cons trial)
      have same := run.unique_of_butNot closed again ended
      have stops : outcome.1 = close + 1 := by omega
      refine ⟨Match.ofOutcome text start outcome, ?_, ?_⟩
      · rw [Match.group?, Match.ofOutcome, groups, same]
        rfl
      · rw [Pattern.occurrences_of_outcomes_cons _ text start outcome more inside trial (by omega),
          stops]

theorem findAll_of_some {front index : List Char} (absent : '[' ∉ front) (filled : index ≠ [])
    (unclosed : ']' ∉ index) (rest : List Char) :
    ∃ found, found.group? 1 = some index ∧
      arrayAccess.findAll (front ++ '[' :: index ++ ']' :: rest) =
        found :: (arrayAccess.findAll rest).map
          (Match.shift ((front ++ '[' :: index).length + 1)) := by
  have behind : (front ++ '[' :: index ++ ']' :: rest).drop (front.length + 1) =
      index ++ ']' :: rest := by
    rw [List.append_assoc, ← List.drop_drop, List.drop_left]
    rfl
  have opened : (front ++ '[' :: index ++ ']' :: rest)[front.length]? = some '[' := by
    rw [List.append_assoc, List.getElem?_append_right (Nat.le_refl _), Nat.sub_self]
    rfl
  have width : (front ++ '[' :: index).length = front.length + 1 + index.length := by
    rw [List.length_append, List.length_cons]
    omega
  have closed := getElem?_closing (front ++ '[' :: index) rest
  rw [width] at closed ⊢
  have wide : 0 < index.length := List.length_pos_iff.mpr filled
  have run := Text.Run.of_drop_eq behind (CharClass.forall_holds_butNot_iff.mpr unclosed)
  obtain ⟨found, group, taken⟩ := occurrences_arrayAccess opened (by omega) run closed
  have none : ∀ start < front.length,
      arrayAccess.outcomes (front ++ '[' :: index ++ ']' :: rest) start = [] := by
    intro start before
    apply Pattern.outcomes_eq_nil_iff.mpr
    intro stop spelled
    have bracket := (opening_of_spells spelled).1
    rw [List.append_assoc, List.getElem?_append_left before] at bracket
    exact absent (List.mem_of_getElem? bracket)
  have split : front ++ '[' :: index ++ ']' :: rest = (front ++ '[' :: index ++ [']']) ++ rest := by
    simp
  have later := Pattern.occurrences_append_left (by decide) (front ++ '[' :: index ++ [']']) rest
    edgeless 0
  rw [← split, List.length_append, List.length_singleton, width, Nat.add_zero] at later
  refine ⟨found, ?_, ?_⟩
  · rw [group, Text.slice_eq_of_prefix _ index _ ⟨_, behind.symm⟩]
  · rw [Pattern.findAll_eq_occurrences,
      Pattern.occurrences_eq_of_outcomes_nil _ front.length (by simp) none, taken, later]
    rfl

def accessedBy? (found : Match) : Option (List Char) :=
  (found.group? 1).filter fun index => IsIdentifier index

private theorem filterMap_cons_toList {α β : Type} (f : α → Option β) (item : α) (rest : List α) :
    (item :: rest).filterMap f = (f item).toList ++ rest.filterMap f := by
  rw [List.filterMap_cons]
  cases f item <;> rfl

/-- One piece in front of any rest. -/
theorem accessed_closed {piece : List Char} (unclosed : ']' ∉ piece) (rest : List Char) :
    (arrayAccess.findAll (piece ++ ']' :: rest)).filterMap accessedBy? =
      (bareIndex? piece).toList ++ (arrayAccess.findAll rest).filterMap accessedBy? := by
  have moved (count : Nat) : ((arrayAccess.findAll rest).map (Match.shift count)).filterMap
      accessedBy? = (arrayAccess.findAll rest).filterMap accessedBy? := by
    rw [List.filterMap_map]
    rfl
  by_cases filled : ∃ index ∈ index? piece, index ≠ []
  · obtain ⟨index, there, filled⟩ := filled
    obtain ⟨front, absent, rfl⟩ := index?_eq_some_iff.mp there
    have inner : ']' ∉ index := by
      intro bracket
      exact unclosed (List.mem_append_right _ (List.mem_cons_of_mem _ bracket))
    obtain ⟨found, group, taken⟩ := findAll_of_some absent filled inner rest
    have same : accessedBy? found = bareIndex? (front ++ '[' :: index) := by
      rw [accessedBy?, group, bareIndex?, there]
    rw [taken, filterMap_cons_toList, moved, same]
  · have none : ∀ index ∈ index? piece, index = [] := by
      intro index there
      exact Decidable.byContradiction fun other => filled ⟨index, there, other⟩
    have silent : bareIndex? piece = .none := by
      apply Option.eq_none_iff_forall_ne_some.mpr
      intro index found
      obtain ⟨there, identifier⟩ := Option.filter_eq_some_iff.mp found
      rw [none index there] at identifier
      exact absurd identifier (by decide)
    rw [findAll_of_none none, moved, silent, Option.toList_none, List.nil_append]

/-- The indices of the accesses in a line are those of its closed pieces. -/
theorem accessed_eq (line : List Char) :
    (arrayAccess.findAll line).filterMap accessedBy? =
      (Text.closedPieces line).filterMap bareIndex? := by
  induction line using Text.separated_induction ']' with
  | last piece unclosed =>
      have none : arrayAccess.find? piece = none := by
        apply (Pattern.find?_eq_none_iff arrayAccess piece (by decide)).mpr
        intro start stop spelled
        obtain ⟨groups, found⟩ := (Pattern.exists_mem_outcomes_iff _ _ _ _).mpr spelled
        obtain ⟨close, -, -, -, closed, -, -⟩ := mem_outcomes_arrayAccess.mp found
        exact unclosed (List.mem_of_getElem? closed)
      rw [Pattern.find?_eq_head?, List.head?_eq_none_iff] at none
      rw [none, Text.closedPieces_open unclosed, List.filterMap_nil, List.filterMap_nil]
  | step piece rest unclosed ih =>
      rw [accessed_closed unclosed, Text.closedPieces_closed unclosed, ih,
        filterMap_cons_toList]

def accessFinding (number : Int) (index : List Char) : Finding :=
  ⟨accessSubject, number, accessDescription index, .medium, name⟩

theorem accessFinding?_eq_map (number : Int) (found : Match) :
    accessFinding? number found = (accessedBy? found).map (accessFinding number) := by
  unfold accessFinding? accessedBy?
  cases found.group? 1 with
  | none => rfl
  | some index =>
      simp only [identifier_matchWhole?_iff, Option.filter_some, decide_eq_true_eq]
      split <;> rfl

def accesses (number : Int) (line : List Char) : List Finding :=
  (lineFindings number line).filter fun finding => finding.subject = accessSubject

theorem accesses_eq (number : Int) (line : List Char) :
    accesses number line =
      ((Text.closedPieces line).filterMap bareIndex?).map (accessFinding number) := by
  have found : (arrayAccess.findAll line).filterMap (accessFinding? number) =
      ((Text.closedPieces line).filterMap bareIndex?).map (accessFinding number) := by
    rw [← accessed_eq, List.map_filterMap]
    rw [funext (accessFinding?_eq_map number)]
  have entries : (lineEntries.flatMap fun entry =>
      (entry.pattern.findAll line).map (entryFinding number line entry)).filter
        (fun finding => finding.subject = accessSubject) = [] := by
    apply List.filter_eq_nil_iff.mpr
    intro finding member
    obtain ⟨entry, listed, member⟩ := List.mem_flatMap.mp member
    obtain ⟨found, among, rfl⟩ := List.mem_map.mp member
    have other := subject_ne_accessSubject listed (entry_occurs listed among)
    exact fun same => other (of_decide_eq_true same)
  rw [accesses, lineFindings, List.filter_append, entries, found, List.nil_append]
  apply List.filter_eq_self.mpr
  intro finding member
  obtain ⟨index, -, rfl⟩ := List.mem_map.mp member
  exact decide_eq_true rfl

/-- The array accesses reported for a line are one for each of its closed pieces that has an
identifier between its first opening bracket and its end, in order. Empty brackets and a second
opening bracket yield nothing, and what stands up to a closing bracket has no influence on what is
reported behind it. -/
theorem accesses_by_closed_piece (number : Int) :
    (∀ line, (lineFindings number line).filter (fun finding => finding.subject = "Array access") =
      ((Text.closedPieces line).filterMap bareIndex?).map fun index =>
        { subject := "Array access"
          lineNumber := number
          description := "Unchecked array access with variable: " ++ String.ofList index
          severity := .medium
          rule := "line_scanner" }) ∧
    (∀ piece index, bareIndex? piece = some index ↔
      IsIdentifier index ∧ ∃ front, '[' ∉ front ∧ piece = front ++ '[' :: index) ∧
    (∀ front, bareIndex? (front ++ ['[']) = none) ∧
    (∀ front middle back, bareIndex? (front ++ '[' :: (middle ++ '[' :: back)) = none) ∧
    ∀ front rest, accesses number (front ++ ']' :: rest) =
      accesses number (front ++ [']']) ++ accesses number rest := by
  refine ⟨accesses_eq number, fun _ _ => bareIndex?_eq_some_iff, bareIndex?_of_empty,
    bareIndex?_of_two, ?_⟩
  intro front rest
  rw [accesses_eq, accesses_eq, accesses_eq, Text.closedPieces_seam, List.filterMap_append,
    List.map_append]

theorem two_of_five_pieces_reported :
    (lineFindings 3 "a[b[i]] c[] d[j]=e[n_2];".toList).filter
        (fun finding => finding.subject = "Array access") =
      [⟨"Array access", 3, "Unchecked array access with variable: j", .medium, "line_scanner"⟩,
        ⟨"Array access", 3, "Unchecked array access with variable: n_2", .medium,
          "line_scanner"⟩] := by
  have pieces : (Text.closedPieces "a[b[i]] c[] d[j]=e[n_2];".toList).filterMap bareIndex? =
      ["j".toList, "n_2".toList] := by
    decide +kernel
  rw [(accesses_by_closed_piece 3).1, pieces]
  rfl

end LinePass

end OverflowScan
