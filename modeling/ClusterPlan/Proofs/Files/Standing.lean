import ClusterPlan.Proofs.Files.Frame

/-!
# What stays where it is

No step makes a directory into something else, so what a path leads to can be followed as long as it
could be once. A file that is read at a path stays as it is under changes at paths that lead
elsewhere. Where there is nothing behind an existing directory, there is still nothing after changes
at other paths, because the only directories that are made then are those on their way.
-/

namespace ClusterPlan.FileTree

/-! ### Directories -/

section Directories

variable {tree after : FileTree} {path text : String} {location : Location}

theorem KeepsDirectories.refl (tree : FileTree) : KeepsDirectories tree tree := ⟨rfl, fun _ h ↦ h⟩

theorem KeepsDirectories.trans {middle : FileTree} (h : KeepsDirectories tree middle)
    (h' : KeepsDirectories middle after) : KeepsDirectories tree after where
  workingDirectory := h'.workingDirectory.trans h.workingDirectory
  directories location hlocation := h'.directories location (h.directories location hlocation)

instance : IsPreorder FileTree KeepsDirectories where
  refl := .refl
  trans _ _ _ := .trans

theorem keepsDirectories_of_writeText (h : tree.writeText path text = .ok after) :
    KeepsDirectories tree after := by
  obtain ⟨location, mode, -, hdirectory, rfl⟩ := exists_of_writeText h
  exact keepsDirectories_put hdirectory _

theorem node?_erase_self (h : location ≠ []) : (tree.erase location).node? location = none := by
  have hlookup (nodes : List (Location × Node)) :
      (nodes.filter (·.1 != location)).lookup location = none := by
    rw [List.lookup_eq_none_iff]
    intro pair hpair
    have hne := (List.mem_filter.mp hpair).2
    rw [bne_iff_ne] at hne
    exact bne_iff_ne.mpr hne.symm
  have hempty : location.isEmpty = false := by simpa using h
  unfold node? erase
  rw [hempty, hlookup]
  rfl

theorem exists_of_removeFile (h : tree.removeFile path = .ok after) :
    ∃ location, tree.locate path = .ok location ∧ tree.isDirectory location = false ∧
      after = tree.erase location := by
  unfold removeFile at h
  split at h
  next => cases h
  next location hlocate =>
    split at h
    next => cases h
    next => cases h
    next content mode hnode =>
      refine ⟨location, hlocate, ?_, (Except.ok.inj h).symm⟩
      unfold isDirectory
      rw [hnode]

theorem keepsDirectories_of_removeFile (h : tree.removeFile path = .ok after) :
    KeepsDirectories tree after := by
  obtain ⟨location, -, hdirectory, rfl⟩ := exists_of_removeFile h
  refine ⟨rfl, fun other hother ↦ ?_⟩
  have hne : other ≠ location := by
    rintro rfl
    cases hdirectory.symm.trans hother
  rw [isDirectory_eq_true_iff] at hother ⊢
  rwa [node?_erase_of_ne hne]

end Directories

/-! ### Ways -/

section Ways

variable {tree : FileTree} {here location : Location} {names : List String} {base name : String}

/-- Whatever is passed on the way to a name is a directory. -/
theorem isDirectory_of_mem_passed (h : tree.follow here (names ++ [name]) = .ok location) :
    ∀ passed ∈ Location.passed here names, tree.isDirectory passed = true := by
  induction names generalizing here with
  | nil =>
    obtain ⟨next, hnext, -⟩ := follow_cons_eq_ok_iff.mp h
    intro passed hpassed
    rw [List.mem_singleton.mp hpassed]
    exact (enter_eq_ok_iff.mp hnext).1
  | cons first rest ih =>
    obtain ⟨next, hnext, hrest⟩ := follow_cons_eq_ok_iff.mp h
    obtain ⟨hdirectory, -, henter⟩ := enter_eq_ok_iff.mp hnext
    intro passed hpassed
    rcases List.mem_cons.mp hpassed with rfl | hpassed
    · exact hdirectory
    · exact ih hrest passed (henter ▸ hpassed)

theorem isDirectory_of_locate_join (hname : Path.IsFileName name)
    (h : tree.locate (Path.join base name) = .ok location) :
    ∀ passed ∈ tree.passes base, tree.isDirectory passed = true := by
  obtain ⟨-, -, hfollow, -⟩ := locate_eq_ok_iff.mp h
  rw [start_join hname.toIsName, Path.names_join base hname.toIsName] at hfollow
  exact isDirectory_of_mem_passed hfollow

/-- Where one file of a directory can be located, another one can. -/
theorem locate_join_of_locate_join {other : String} (hname : Path.IsFileName name)
    (hother : Path.IsFileName other) (hshort : other.utf8ByteSize ≤ 255)
    (hzero : '\x00' ∉ other.toList) (h : tree.locate (Path.join base name) = .ok location) :
    tree.locate (Path.join base other) = .ok (tree.target (Path.join base other)) := by
  obtain ⟨front, -, -, hjoin⟩ := Path.exists_front base
  obtain ⟨hzero', -, hfollow, -⟩ := locate_eq_ok_iff.mp h
  rw [hjoin name hname.toIsName] at hzero'
  rw [start_join hname.toIsName, Path.names_join base hname.toIsName, follow_append_eq_ok_iff]
    at hfollow
  obtain ⟨middle, hbase, hlast⟩ := hfollow
  obtain ⟨next, hnext, -⟩ := follow_cons_eq_ok_iff.mp hlast
  have hmiddle : middle = tree.target base := eq_follow_of_follow hbase
  have henter : tree.enter middle other = .ok (tree.target (Path.join base other)) := by
    refine enter_eq_ok_iff.mpr ⟨(enter_eq_ok_iff.mp hnext).1, hshort, ?_⟩
    rw [if_neg hother.ne_parent, target_join hother, hmiddle]
  refine locate_eq_ok_iff.mpr ⟨?_, ?_, ?_, ?_⟩
  · rw [hjoin other hother.toIsName]
    simp only [List.contains_eq_mem, decide_eq_false_iff_not, List.mem_append, not_or] at hzero' ⊢
    exact ⟨hzero'.1, hzero⟩
  · rw [← Bool.not_eq_true, String.isEmpty_iff, ← String.toList_inj, hjoin other hother.toIsName]
    intro hempty
    exact hother.ne_empty (String.toList_inj.mp (List.append_eq_nil_iff.mp hempty).2)
  · rw [start_join hother.toIsName, Path.names_join base hother.toIsName, follow_append_eq_ok_iff]
    exact ⟨middle, hbase, follow_cons_eq_ok_iff.mpr ⟨_, henter, rfl⟩⟩
  · rw [Path.endsOpen_join base hother.toIsName]
    exact nofun

end Ways

/-! ### Changes elsewhere -/

section Elsewhere

variable {tree after : FileTree} {paths : List String} {path text base name : String}
  {location : Location}

/-- What is read at a path stays under changes at paths that lead elsewhere. -/
theorem readText_of_changesOnlyAt (h : ChangesOnlyAt paths tree after)
    (hkeeps : KeepsDirectories tree after)
    (hne : ∀ other ∈ paths, tree.target path ≠ tree.target other)
    (hread : tree.readText path = .ok text) : after.readText path = .ok text := by
  obtain ⟨location, mode, hlocate, hnode⟩ := readText_eq_ok_iff.mp hread
  refine readText_eq_ok_iff.mpr ⟨location, mode, locate_of_keepsDirectories hkeeps hlocate, ?_⟩
  have hlocation : location = tree.target path := eq_target_of_locate hlocate
  rcases h.nodes location fun other hother ↦ hlocation ▸ hne other hother with hsame | ⟨hmade, -⟩
  · rw [hsame, hnode]
  · cases hmade.before.symm.trans hnode

/-- Where nothing is behind an existing directory, nothing comes to be under changes at other paths,
as far as these pass only what the directory does. -/
theorem absent_of_changesOnlyAt (h : ChangesOnlyAt paths tree after) (hname : Path.IsFileName name)
    (hlocate : tree.locate (Path.join base name) = .ok location)
    (hne : ∀ other ∈ paths, location ≠ tree.target other)
    (hpasses : ∀ other ∈ paths, location ∈ tree.passes other → location ∈ tree.passes base)
    (habsent : tree.node? location = none) : after.node? location = none := by
  rcases h.nodes location hne with hsame | ⟨-, other, hother, hpassed⟩
  · rw [hsame, habsent]
  · have hdirectory := isDirectory_of_locate_join hname hlocate location
      (hpasses other hother hpassed)
    obtain ⟨mode, hmode⟩ := isDirectory_eq_true_iff.mp hdirectory
    cases habsent.symm.trans hmode

end Elsewhere

end ClusterPlan.FileTree
