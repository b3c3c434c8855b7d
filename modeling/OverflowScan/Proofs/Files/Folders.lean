import OverflowScan.Proofs.Files.Store

set_option autoImplicit false

namespace OverflowScan.FileTree

/-- A folder made on the way of a path: nothing stood there before, and the first names of the path
lead to it. -/
structure MadeOnWay (path : Path) (before after : FileTree) (location : Location) : Prop where
  missing : before.entryAt? location = none
  made : after.entryAt? location = some .folder
  onWay : ∃ names, names <+: path.names ∧ after.locate ⟨path.root, names⟩ = .ok location

/-- Two trees that differ only in folders made on the way of a path. -/
structure GrownAlong (path : Path) (before after : FileTree) : Prop where
  home : after.home = before.home
  entry : ∀ location, after.entryAt? location = before.entryAt? location ∨
    MadeOnWay path before after location

namespace GrownAlong

theorem refl (path : Path) (tree : FileTree) : GrownAlong path tree tree where
  home := rfl
  entry := fun _ => Or.inl rfl

theorem keepsFolders {path : Path} {before after : FileTree}
    (grown : GrownAlong path before after) : KeepsFolders before after where
  home := grown.home
  folder := by
    intro location folder
    rcases grown.entry location with same | made
    · rw [same, folder]
    · exact made.made

theorem file_iff {path : Path} {before after : FileTree} (grown : GrownAlong path before after)
    (location : Location) (content : List UInt8) :
    after.entryAt? location = some (.file content) ↔
      before.entryAt? location = some (.file content) := by
  rcases grown.entry location with same | made
  · rw [same]
  · simp [made.missing, made.made]

theorem trans {root : String} {above names : List String} {before middle after : FileTree}
    (first : GrownAlong ⟨root, above⟩ before middle)
    (second : GrownAlong ⟨root, names⟩ middle after)
    (longer : above <+: names) : GrownAlong ⟨root, names⟩ before after where
  home := second.home.trans first.home
  entry := by
    intro location
    rcases second.entry location with same | made
    · rcases first.entry location with unchanged | ⟨missing, made, part, opening, led⟩
      · exact Or.inl (same.trans unchanged)
      · -- the folder was made in the first half, and its path leads there still
        exact Or.inr ⟨missing, same.trans made, part, opening.trans longer,
          second.keepsFolders.locate led⟩
    · rcases first.entry location with unchanged | earlier
      · exact Or.inr ⟨unchanged.symm.trans made.missing, made.made, made.onWay⟩
      · have missing := made.missing
        rw [earlier.made] at missing
        cases missing

end GrownAlong

theorem makeFolder_cases {tree made : FileTree} {path : Path}
    (done : tree.makeFolder path = .ok made) :
    ∃ location, tree.locate path = .ok location ∧ tree.entryAt? location = none ∧
      made = tree.put location .folder := by
  unfold makeFolder at done
  split at done
  · cases done
  · split at done
    · cases done
    · rename_i location led
      split at done
      · cases done
      · rename_i missing
        cases done
        exact ⟨location, led, missing, rfl⟩

theorem grownAlong_makeFolder {tree made : FileTree} {path : Path}
    (done : tree.makeFolder path = .ok made) : GrownAlong path tree made := by
  obtain ⟨location, led, missing, rfl⟩ := makeFolder_cases done
  have noFolder : tree.entryAt? location ≠ some .folder := by simp [missing]
  refine ⟨rfl, ?_⟩
  intro other
  by_cases same : other = location
  · rw [same]
    exact Or.inr ⟨missing, entryAt?_put_self .folder noFolder, path.names, List.prefix_rfl,
      (keepsFolders_put .folder noFolder).locate led⟩
  · exact Or.inl (entryAt?_put_of_ne tree .folder same)

/-- However far the making of folders gets, it only grows the tree along the path. -/
theorem grownAlong_ensureFolderRev (tree : FileTree) (root : String) (names : List String) :
    GrownAlong ⟨root, names.reverse⟩ tree (tree.ensureFolderRev root names).1 := by
  induction names generalizing tree with
  | nil =>
    unfold ensureFolderRev
    split
    · rename_i made
      exact grownAlong_makeFolder made
    · exact .refl _ _
  | cons name above ih =>
    have longer : above.reverse <+: (name :: above).reverse := by simp
    unfold ensureFolderRev
    extract_lets path
    split
    · rename_i made
      exact grownAlong_makeFolder made
    · -- the folder above is missing, so the tree first grows along the shorter path
      have grown := ih tree
      have wider := grown.trans (.refl ⟨root, (name :: above).reverse⟩ _) longer
      split
      · rename_i stopped
        rwa [stopped] at wider
      · rename_i reached
        rw [reached] at grown wider
        split
        · rename_i made
          exact grown.trans (grownAlong_makeFolder made) longer
        · exact wider
    · exact .refl _ _

theorem grownAlong_ensureFolder (tree : FileTree) (path : Path) :
    GrownAlong path tree (tree.ensureFolder path).1 := by
  have grown := grownAlong_ensureFolderRev tree path.root path.names.reverse
  rwa [List.reverse_reverse] at grown

/-- What a store does: it grows the tree along the folders of the path, and then it either fails or
puts the file where the path leads, in place of no folder. -/
theorem store_cases (tree : FileTree) (path : Path) (content : List UInt8) :
    ∃ grown, GrownAlong path.parent tree grown ∧
      ((∃ failure, tree.store path content = (grown, .error failure)) ∨
        ∃ location, grown.locate path = .ok location ∧ grown.entryAt? location ≠ some .folder ∧
          tree.store path content = (grown.put location (.file content), .ok ())) := by
  have along := grownAlong_ensureFolder tree path.parent
  unfold store
  split
  · rename_i grown failure stopped
    rw [stopped] at along
    exact ⟨grown, along, Or.inl ⟨failure, rfl⟩⟩
  · rename_i grown reached
    rw [reached] at along
    refine ⟨grown, along, ?_⟩
    split
    · rename_i written wrote
      obtain ⟨-, location, led, noFolder, rfl⟩ := write_cases wrote
      exact Or.inr ⟨location, led, noFolder, rfl⟩
    · rename_i failure refused
      exact Or.inl ⟨failure, rfl⟩

theorem grownAlong_of_store_error {tree after : FileTree} {path : Path} {content : List UInt8}
    {failure : Failure} (failed : tree.store path content = (after, .error failure)) :
    GrownAlong path.parent tree after := by
  obtain ⟨grown, along, ⟨_, stopped⟩ | ⟨_, _, _, stored⟩⟩ := store_cases tree path content
  · rw [failed] at stopped
    cases stopped
    exact along
  · rw [failed] at stored
    cases stored

/-- The file that a path names after it was stored, and what else has changed. -/
structure StoredAt (path : Path) (content : List UInt8) (before after : FileTree)
    (target : Location) : Prop where
  named : after.locate path = .ok target
  holds : after.entryAt? target = some (.file content)
  noFolder : before.entryAt? target ≠ some .folder
  entry : ∀ other, other ≠ target → after.entryAt? other = before.entryAt? other ∨
    MadeOnWay path.parent before after other

theorem storedAt_of_store_ok {tree after : FileTree} {path : Path} {content : List UInt8}
    (done : tree.store path content = (after, .ok ())) :
    ∃ target, StoredAt path content tree after target := by
  obtain ⟨grown, along, ⟨_, stopped⟩ | ⟨target, led, noFolder, stored⟩⟩ :=
    store_cases tree path content
  · rw [done] at stopped
    cases stopped
  · rw [done] at stored
    cases stored
    have kept := keepsFolders_put (.file content) noFolder
    refine ⟨target, kept.locate led, entryAt?_put_self (.file content) noFolder, ?_, ?_⟩
    · intro folder
      exact noFolder (along.keepsFolders.folder target folder)
    · intro other apart
      rw [entryAt?_put_of_ne grown (.file content) apart]
      rcases along.entry other with same | ⟨missing, made, names, opening, way⟩
      · exact Or.inl same
      · refine Or.inr ⟨missing, ?_, names, opening, kept.locate way⟩
        rw [entryAt?_put_of_ne grown (.file content) apart, made]

theorem StoredAt.file_iff {path : Path} {content : List UInt8} {before after : FileTree}
    {target other : Location} (stored : StoredAt path content before after target)
    (apart : other ≠ target) (held : List UInt8) :
    after.entryAt? other = some (.file held) ↔ before.entryAt? other = some (.file held) := by
  rcases stored.entry other apart with same | made
  · rw [same]
  · simp [made.missing, made.made]

end OverflowScan.FileTree
