import OverflowScan.Files.Tree

set_option autoImplicit false

namespace OverflowScan.FileTree

theorem lookup_filter_of_ne {location other : Location} (apart : other ≠ location)
    (entries : List (Location × Entry)) :
    (entries.filter (·.1 ≠ location)).lookup other = entries.lookup other := by
  induction entries with
  | nil => rfl
  | cons first rest ih =>
    by_cases same : first.1 = location
    · have skipped : (other == first.1) = false := by
        rw [same]
        exact beq_false_of_ne apart
      rw [List.filter_cons_of_neg (by simp [same]), ih, List.lookup_cons, skipped]
    · rw [List.filter_cons_of_pos (by simp [same]), List.lookup_cons, List.lookup_cons, ih]

theorem entryAt?_put_of_ne (tree : FileTree) {location other : Location} (entry : Entry)
    (apart : other ≠ location) :
    (tree.put location entry).entryAt? other = tree.entryAt? other := by
  have skipped : (other == location) = false := beq_false_of_ne apart
  have behind : List.lookup other ((location, entry) :: tree.entries.filter (·.1 ≠ location)) =
      tree.entries.lookup other := by
    rw [List.lookup_cons, skipped, lookup_filter_of_ne apart]
  exact congrArg (fun found => if other.isPrefixOf tree.home then some .folder else found) behind

theorem entryAt?_put_self {tree : FileTree} {location : Location} (entry : Entry)
    (noFolder : tree.entryAt? location ≠ some .folder) :
    (tree.put location entry).entryAt? location = some entry := by
  have outside : ¬ location.isPrefixOf tree.home := by
    intro above
    exact noFolder (if_pos above)
  have there : List.lookup location ((location, entry) :: tree.entries.filter (·.1 ≠ location)) =
      some entry := List.lookup_cons_self
  exact (if_neg outside).trans there

/-- The working directory is the same, and every folder is still one. -/
structure KeepsFolders (tree after : FileTree) : Prop where
  home : after.home = tree.home
  folder : ∀ location, tree.entryAt? location = some .folder →
    after.entryAt? location = some .folder

/-- A path leads through folders only, so it leads on as long as the folders are kept. -/
theorem KeepsFolders.descend {tree after : FileTree} (kept : KeepsFolders tree after)
    (start : Location) (names : List String) {found : Location}
    (led : tree.descend start names = .ok found) : after.descend start names = .ok found := by
  induction names generalizing start with
  | nil => exact led
  | cons name rest ih =>
    unfold FileTree.descend at led ⊢
    split at led
    · rename_i folder
      rw [kept.folder start folder]
      simp only
      split at led
      · rename_i up
        rw [if_pos up]
        exact ih _ led
      · rename_i down
        rw [if_neg down]
        split at led
        · cases led
        · rename_i short
          rw [if_neg short]
          exact ih _ led
    · cases led
    · cases led

theorem KeepsFolders.locate {tree after : FileTree} (kept : KeepsFolders tree after) {path : Path}
    {found : Location} (led : tree.locate path = .ok found) : after.locate path = .ok found := by
  unfold FileTree.locate at led ⊢
  rw [kept.home]
  split at led
  · cases led
  · rename_i short
    rw [if_neg short]
    exact kept.descend _ _ led

theorem keepsFolders_put {tree : FileTree} {location : Location} (entry : Entry)
    (noFolder : tree.entryAt? location ≠ some .folder) :
    KeepsFolders tree (tree.put location entry) where
  home := rfl
  folder := by
    intro other folder
    have apart : other ≠ location := by
      intro same
      rw [same] at folder
      exact noFolder folder
    rw [entryAt?_put_of_ne tree entry apart, folder]

theorem write_cases {tree written : FileTree} {path : Path} {content : List UInt8}
    (wrote : tree.write path content = .ok written) :
    hasNull path = false ∧ ∃ location, tree.locate path = .ok location ∧
      tree.entryAt? location ≠ some .folder ∧ written = tree.put location (.file content) := by
  unfold write at wrote
  split at wrote
  · cases wrote
  · rename_i noNull
    refine ⟨Bool.eq_false_iff.mpr noNull, ?_⟩
    split at wrote
    · cases wrote
    · rename_i location led
      split at wrote
      · cases wrote
      · rename_i noFolder
        cases wrote
        exact ⟨location, led, noFolder, rfl⟩

theorem read_of_write {tree written : FileTree} {path : Path} {content : List UInt8}
    (wrote : tree.write path content = .ok written) : written.read path = .ok content := by
  obtain ⟨noNull, location, led, noFolder, same⟩ := write_cases wrote
  have ledStill := (keepsFolders_put (.file content) noFolder).locate led
  have there := entryAt?_put_self (.file content) noFolder
  rw [same]
  unfold read lookup
  rw [noNull, ledStill]
  simp only [there, Bool.false_eq_true, if_false]

/-- A file that was stored is read back. -/
theorem read_of_store {tree stored : FileTree} {path : Path} {content : List UInt8}
    (done : tree.store path content = (stored, .ok ())) : stored.read path = .ok content := by
  unfold store at done
  split at done
  · cases done
  · split at done
    · rename_i written wrote
      cases done
      exact read_of_write wrote
    · cases done

end OverflowScan.FileTree
