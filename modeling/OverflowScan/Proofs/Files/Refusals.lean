import OverflowScan.Files.Tree

set_option autoImplicit false

namespace OverflowScan

theorem Path.mem_pieces {c : Char} (noSlash : c ≠ '/') (text : List Char) :
    (∃ piece ∈ pieces text, c ∈ piece) ↔ c ∈ text := by
  induction text with
  | nil => simp [pieces]
  | cons first rest ih =>
    by_cases slash : first = '/'
    · simp [pieces, slash, ih, noSlash]
    · rw [pieces, if_neg slash, List.mem_cons, ← ih]
      cases pieces rest with
      | nil => simp
      | cons piece more => simp [or_assoc]

theorem FileTree.hasNull_ofString (text : String) :
    hasNull (Path.ofString text) = true ↔ '\x00' ∈ text.toList := by
  rw [← Path.mem_pieces (by decide) text.toList]
  simp only [hasNull, Path.ofString, List.any_map, List.any_filter, List.any_eq_true,
    Function.comp_apply, String.toList_ofList, List.contains_iff_mem, Bool.and_eq_true,
    decide_eq_true_eq]
  constructor
  · rintro ⟨piece, member, -, null⟩
    exact ⟨piece, member, null⟩
  · rintro ⟨piece, member, null⟩
    refine ⟨piece, member, ⟨?_, ?_⟩, null⟩
    · exact List.ne_nil_of_mem null
    · rintro rfl
      exact absurd null (by decide)

theorem FileTree.hasNull_ofString_eq_false {text : String} (plain : '\x00' ∉ text.toList) :
    hasNull (Path.ofString text) = false := by
  rw [Bool.eq_false_iff]
  intro null
  exact plain ((hasNull_ofString text).mp null)

theorem FileTree.hasNull_of_prefix {root : String} {above names : List String}
    (opening : above <+: names) (plain : hasNull ⟨root, names⟩ = false) :
    hasNull ⟨root, above⟩ = false := by
  simp only [hasNull, List.any_eq_false] at plain ⊢
  intro name member
  exact plain name (opening.subset member)

def Failure.IsRefusal (failure : Failure) : Prop :=
  ∃ cause path, failure = .refused cause path

namespace FileTree

/-- A source whose path holds no null character is either read or unopenable. -/
theorem read_cases (tree : FileTree) {path : Path} (plain : hasNull path = false) :
    (∃ bytes, tree.read path = .ok bytes) ∨
      ∃ cause, tree.read path = .error (.unopenable cause path) := by
  unfold read
  rw [plain, if_neg Bool.false_ne_true]
  split
  · exact Or.inr ⟨_, rfl⟩
  · exact Or.inr ⟨_, rfl⟩
  · exact Or.inl ⟨_, rfl⟩

theorem isRefusal_of_write {tree : FileTree} {path : Path} {content : List UInt8}
    {failure : Failure} (plain : hasNull path = false)
    (failed : tree.write path content = .error failure) : failure.IsRefusal := by
  unfold write at failed
  rw [plain, if_neg Bool.false_ne_true] at failed
  split at failed
  · cases failed
    exact ⟨_, _, rfl⟩
  · split at failed
    · cases failed
      exact ⟨_, _, rfl⟩
    · cases failed

theorem isRefusal_of_makeFolder {tree : FileTree} {path : Path} {failure : Failure}
    (plain : hasNull path = false) (failed : tree.makeFolder path = .error failure) :
    failure.IsRefusal := by
  unfold makeFolder at failed
  rw [plain, if_neg Bool.false_ne_true] at failed
  split at failed
  · cases failed
    exact ⟨_, _, rfl⟩
  · split at failed
    · cases failed
      exact ⟨_, _, rfl⟩
    · cases failed

theorem isRefusal_of_isFolder {tree : FileTree} {path : Path} {failure : Failure}
    (failed : tree.isFolder path = .error failure) : failure.IsRefusal := by
  unfold isFolder at failed
  split at failed <;> cases failed
  exact ⟨_, _, rfl⟩

/-- What remains of the refusal to make a folder is a refusal, or the one met when looking for a
folder in its place. -/
theorem isRefusal_of_fault {tree after : FileTree} {path : Path} {first failure : Failure}
    (plain : hasNull path = false) (stopped : tree.makeFolder path = .error first)
    (failed : (tree, tree.makeFolderFault path first) = (after, .error failure)) :
    failure.IsRefusal := by
  have refused := isRefusal_of_makeFolder plain stopped
  have fault := (Prod.mk.inj failed).2
  unfold makeFolderFault at fault
  split at fault
  · cases fault
    exact refused
  · split at fault
    · cases fault
    · cases fault
      exact refused
    · rename_i looked
      cases fault
      exact isRefusal_of_isFolder looked
  · cases fault
    exact refused

theorem isRefusal_of_ensureFolderRev {root : String} {names : List String}
    (plain : hasNull ⟨root, names.reverse⟩ = false) {tree after : FileTree} {failure : Failure}
    (failed : tree.ensureFolderRev root names = (after, .error failure)) :
    failure.IsRefusal := by
  induction names generalizing tree after with
  | nil =>
    unfold ensureFolderRev at failed
    split at failed
    · cases failed
    · rename_i stopped
      exact isRefusal_of_fault plain stopped failed
  | cons name above ih =>
    have shorter : above.reverse <+: (name :: above).reverse := by simp
    have plainAbove := hasNull_of_prefix shorter plain
    unfold ensureFolderRev at failed
    extract_lets path at failed
    split at failed
    · cases failed
    · split at failed
      · rename_i stopped
        cases failed
        exact ih plainAbove stopped
      · split at failed
        · cases failed
        · rename_i stopped
          exact isRefusal_of_fault plain stopped failed
    · rename_i stopped
      exact isRefusal_of_fault plain stopped failed

theorem isRefusal_of_store {tree after : FileTree} {path : Path} {content : List UInt8}
    {failure : Failure} (plain : hasNull path = false)
    (failed : tree.store path content = (after, .error failure)) : failure.IsRefusal := by
  unfold store at failed
  split at failed
  · rename_i stopped
    cases failed
    have plainAbove : hasNull path.parent = false :=
      hasNull_of_prefix (List.dropLast_prefix path.names) plain
    unfold ensureFolder at stopped
    apply isRefusal_of_ensureFolderRev _ stopped
    rwa [List.reverse_reverse]
  · split at failed
    · cases failed
    · rename_i refused
      cases failed
      exact isRefusal_of_write plain refused

end FileTree

end OverflowScan
