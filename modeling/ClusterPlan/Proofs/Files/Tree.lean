import ClusterPlan.Files.Tree
import ClusterPlan.Proofs.Files.Path
import ClusterPlan.Proofs.Sequence

/-!
# What steps on a file tree leave alone

A tree extends another when all that is in the first is still there in the second. Directories are
made only where nothing is, so the tree in which one is made extends the one before. A file is
written at one location that is no directory, and nothing else changes. As long as the directories
of a tree are kept, its paths lead where they did.
-/

namespace ClusterPlan.FileTree

section Nodes

variable {tree after : FileTree} {location other : Location} {node : Node}

theorem lookup_putNode (nodes : List (Location × Node)) :
    (putNode location node nodes).lookup other =
      if other = location then some node else nodes.lookup other := by
  induction nodes with
  | nil => exact lookup_cons_eq_ite []
  | cons first rest ih =>
    obtain ⟨l, n⟩ := first
    rw [putNode]
    split
    next hl => exact hl ▸ lookup_cons_replace n rest
    next hl => exact lookup_cons_of_ne hl ih n

theorem node?_put (hlocation : location ≠ []) (node : Node) (other : Location) :
    (tree.put location node).node? other =
      if other = location then some node else tree.node? other := by
  unfold node? put
  rw [lookup_putNode]
  by_cases hother : other = location
  · have hempty : other.isEmpty = false := by simpa [hother] using hlocation
    rw [hempty, if_pos hother, if_pos hother]
    rfl
  · rw [if_neg hother, if_neg hother]

theorem node?_put_of_ne (h : other ≠ location) (node : Node) :
    (tree.put location node).node? other = tree.node? other := by
  unfold node? put
  rw [lookup_putNode, if_neg h]

theorem isDirectory_eq_true_iff :
    tree.isDirectory location = true ↔ ∃ mode, tree.node? location = some (.directory mode) := by
  unfold isDirectory
  cases tree.node? location with
  | none => simp
  | some node =>
    cases node with
    | directory mode => simp
    | file content mode => simp

theorem isDirectory_nil : tree.isDirectory [] = true := rfl

end Nodes

/-! ### Trees that are kept -/

/-- Paths lead in the second tree where they lead in the first. -/
structure KeepsDirectories (tree after : FileTree) : Prop where
  workingDirectory : after.workingDirectory = tree.workingDirectory
  directories : ∀ location, tree.isDirectory location = true → after.isDirectory location = true

/-- All that is in the first tree is in the second. -/
structure Extends (tree after : FileTree) : Prop where
  workingDirectory : after.workingDirectory = tree.workingDirectory
  nodes : ∀ location node, tree.node? location = some node → after.node? location = some node

section Kept

variable {tree middle after : FileTree}

theorem Extends.refl (tree : FileTree) : Extends tree tree := ⟨rfl, fun _ _ h ↦ h⟩

theorem Extends.trans (h : Extends tree middle) (h' : Extends middle after) :
    Extends tree after where
  workingDirectory := h'.workingDirectory.trans h.workingDirectory
  nodes location node hnode := h'.nodes location node (h.nodes location node hnode)

theorem Extends.keepsDirectories (h : Extends tree after) : KeepsDirectories tree after where
  workingDirectory := h.workingDirectory
  directories location hdirectory := by
    rw [isDirectory_eq_true_iff] at hdirectory ⊢
    obtain ⟨mode, hmode⟩ := hdirectory
    exact ⟨mode, h.nodes location _ hmode⟩

end Kept

/-! ### Where paths lead -/

section Paths

variable {tree after : FileTree} {here location : Location} {path name : String}
  {names : List String}

theorem enter_eq_ok_iff :
    tree.enter here name = .ok location ↔
      tree.isDirectory here = true ∧ name.utf8ByteSize ≤ 255 ∧
        location = if name = ".." then here.dropLast else here ++ [name] := by
  unfold enter isDirectory
  cases tree.node? here with
  | none => simp
  | some node =>
    cases node with
    | file content mode => simp
    | directory mode =>
      dsimp only
      by_cases hlong : 255 < name.utf8ByteSize
      · rw [if_pos hlong]
        simp [Nat.not_le_of_lt hlong]
      · rw [if_neg hlong]
        have hshort : name.utf8ByteSize ≤ 255 := Nat.le_of_not_lt hlong
        split
        next => simp [hshort, eq_comm]
        next => simp [hshort, eq_comm]

theorem follow_cons_eq_ok_iff :
    tree.follow here (name :: names) = .ok location ↔
      ∃ next, tree.enter here name = .ok next ∧ tree.follow next names = .ok location := by
  rw [follow]
  cases tree.enter here name with
  | error fault => simp
  | ok next => simp

theorem follow_append_eq_ok_iff {more : List String} :
    tree.follow here (names ++ more) = .ok location ↔
      ∃ middle, tree.follow here names = .ok middle ∧ tree.follow middle more = .ok location := by
  induction names generalizing here with
  | nil => simp [follow]
  | cons name rest ih =>
    rw [List.cons_append, follow_cons_eq_ok_iff]
    simp only [ih, follow_cons_eq_ok_iff]
    constructor
    · rintro ⟨next, hnext, middle, hmiddle, hlocation⟩
      exact ⟨middle, ⟨next, hnext, hmiddle⟩, hlocation⟩
    · rintro ⟨middle, ⟨next, hnext, hmiddle⟩, hlocation⟩
      exact ⟨next, hnext, middle, hmiddle, hlocation⟩

theorem follow_of_keepsDirectories (h : KeepsDirectories tree after)
    (hfollow : tree.follow here names = .ok location) :
    after.follow here names = .ok location := by
  induction names generalizing here with
  | nil => exact hfollow
  | cons name rest ih =>
    rw [follow_cons_eq_ok_iff] at hfollow ⊢
    obtain ⟨next, hnext, hrest⟩ := hfollow
    rw [enter_eq_ok_iff] at hnext
    exact ⟨next, enter_eq_ok_iff.mpr ⟨h.directories here hnext.1, hnext.2⟩, ih hrest⟩

theorem locate_eq_ok_iff :
    tree.locate path = .ok location ↔
      path.toList.contains '\x00' = false ∧ path.isEmpty = false ∧
        tree.follow (tree.start path) (Path.names path) = .ok location ∧
        (Path.endsOpen path = true → tree.isDirectory location = true) := by
  unfold locate
  split
  next hzero =>
    rw [hzero]
    simp
  next hzero =>
    split
    next hempty => simp [hempty]
    next hempty =>
      cases hfollow : tree.follow (tree.start path) (Path.names path) with
      | error fault => simp
      | ok found =>
        dsimp only
        split
        next hopen =>
          rw [Bool.and_eq_true, Bool.not_eq_true'] at hopen
          simp only [reduceCtorEq, Except.ok.injEq, false_iff]
          rintro ⟨-, -, rfl, hdirectory⟩
          exact Bool.noConfusion (hopen.2.symm.trans (hdirectory hopen.1))
        next hopen =>
          rw [Bool.and_eq_true, Bool.not_eq_true', not_and] at hopen
          simp only [Except.ok.injEq]
          constructor
          · rintro rfl
            refine ⟨by simpa using hzero, by simpa using hempty, rfl, fun h ↦ ?_⟩
            simpa using hopen h
          · rintro ⟨-, -, hfound, -⟩
            exact hfound

theorem locate_of_keepsDirectories (h : KeepsDirectories tree after)
    (hlocate : tree.locate path = .ok location) : after.locate path = .ok location := by
  rw [locate_eq_ok_iff] at hlocate ⊢
  obtain ⟨hzero, hempty, hfollow, hopen⟩ := hlocate
  have hstart : after.start path = tree.start path := by
    unfold start
    rw [h.workingDirectory]
  refine ⟨hzero, hempty, ?_, fun hends ↦ h.directories location (hopen hends)⟩
  rw [hstart]
  exact follow_of_keepsDirectories h hfollow

theorem readText_eq_ok_iff {text : String} :
    tree.readText path = .ok text ↔
      ∃ location mode, tree.locate path = .ok location ∧
        tree.node? location = some (.file (.text text) mode) := by
  unfold readText readContent
  cases tree.locate path with
  | error fault => simp
  | ok location =>
    cases hnode : tree.node? location with
    | none => simp [hnode]
    | some node =>
      cases node with
      | directory mode => simp [hnode]
      | file content mode =>
        cases content with
        | text s => simp [hnode]
        | bytes bytes => simp [hnode]

end Paths

/-! ### Steps -/

section Steps

variable {tree after : FileTree} {here location : Location} {names : List String}
  {path other text old : String}

theorem extends_put (h : tree.node? location = none) (node : Node) :
    Extends tree (tree.put location node) where
  workingDirectory := rfl
  nodes l n hn := by
    have hne : l ≠ location := by
      intro heq
      rw [heq, h] at hn
      cases hn
    have hlocation : location ≠ [] := by
      intro hempty
      rw [hempty] at h
      cases h
    rw [node?_put hlocation, if_neg hne]
    exact hn

theorem extends_of_makeAlong (h : tree.makeAlong here names = .ok after) : Extends tree after := by
  induction names generalizing tree here with
  | nil =>
    rw [← Except.ok.inj h]
    exact Extends.refl tree
  | cons name rest ih =>
    rw [makeAlong] at h
    split at h
    next => cases h
    next next _ =>
      split at h
      next => exact ih h
      next => cases h
      next hnone => exact (extends_put hnone _).trans (ih h)

theorem extends_of_makeDirectory (h : tree.makeDirectory path = .ok after) :
    Extends tree after := by
  unfold makeDirectory at h
  split at h
  · cases h
  · exact extends_of_makeAlong h

theorem exists_of_writeText (h : tree.writeText path text = .ok after) :
    ∃ location mode, tree.locate path = .ok location ∧ tree.isDirectory location = false ∧
      after = tree.put location (.file (.text text) mode) := by
  unfold writeText at h
  split at h
  next => cases h
  next location hlocate =>
    have hdirectory (hnode : ∀ mode, tree.node? location ≠ some (.directory mode)) :
        tree.isDirectory location = false := by
      rw [← Bool.not_eq_true, isDirectory_eq_true_iff, not_exists]
      exact hnode
    split at h
    next => cases h
    next content mode hnode =>
      refine ⟨location, mode, hlocate, hdirectory fun mode ↦ ?_, (Except.ok.inj h).symm⟩
      rw [hnode]
      exact nofun
    next hnode =>
      split at h
      · refine ⟨location, none, hlocate, hdirectory fun mode ↦ ?_, (Except.ok.inj h).symm⟩
        rw [hnode]
        exact nofun
      · cases h

theorem ne_nil_of_isDirectory_eq_false (h : tree.isDirectory location = false) : location ≠ [] := by
  intro hempty
  rw [hempty, isDirectory_nil] at h
  cases h

theorem keepsDirectories_put (h : tree.isDirectory location = false) (node : Node) :
    KeepsDirectories tree (tree.put location node) where
  workingDirectory := rfl
  directories l hl := by
    have hne : l ≠ location := by
      intro heq
      rw [heq, h] at hl
      cases hl
    rw [isDirectory_eq_true_iff] at hl ⊢
    rwa [node?_put (ne_nil_of_isDirectory_eq_false h), if_neg hne]

theorem readText_of_extends (h : Extends tree after) (hread : tree.readText path = .ok text) :
    after.readText path = .ok text := by
  rw [readText_eq_ok_iff] at hread ⊢
  obtain ⟨location, mode, hlocate, hnode⟩ := hread
  exact ⟨location, mode, locate_of_keepsDirectories h.keepsDirectories hlocate,
    h.nodes location _ hnode⟩

/-- What is written is read at the same path. -/
theorem readText_of_writeText (h : tree.writeText path text = .ok after) :
    after.readText path = .ok text := by
  obtain ⟨location, mode, hlocate, hdirectory, rfl⟩ := exists_of_writeText h
  rw [readText_eq_ok_iff]
  refine ⟨location, mode, ?_, ?_⟩
  · exact locate_of_keepsDirectories (keepsDirectories_put hdirectory _) hlocate
  · rw [node?_put (ne_nil_of_isDirectory_eq_false hdirectory), if_pos rfl]

/-! ### Modes -/

/-- The node with another mode. -/
def withMode (mode : Nat) : Node → Node
  | .directory _ => .directory (some mode)
  | .file content _ => .file content (some mode)

theorem exists_of_setMode {mode : Nat} (h : tree.setMode path mode = .ok after) :
    ∃ location node, tree.locate path = .ok location ∧ tree.node? location = some node ∧
      after = tree.put location (withMode mode node) := by
  unfold setMode at h
  split at h
  next => cases h
  next location hlocate =>
    split at h
    next => cases h
    next hnode => exact ⟨location, _, hlocate, hnode, (Except.ok.inj h).symm⟩
    next hnode => exact ⟨location, _, hlocate, hnode, (Except.ok.inj h).symm⟩

theorem keepsDirectories_of_setMode {mode : Nat} (h : tree.setMode path mode = .ok after) :
    KeepsDirectories tree after := by
  obtain ⟨location, node, -, hnode, rfl⟩ := exists_of_setMode h
  refine ⟨rfl, fun other hother ↦ ?_⟩
  by_cases hroot : other = []
  · rw [hroot]
    exact isDirectory_nil
  · rw [isDirectory_eq_true_iff] at hother ⊢
    obtain ⟨old, hold⟩ := hother
    by_cases hsame : other = location
    · subst hsame
      rw [hold] at hnode
      rw [node?_put hroot, if_pos rfl, ← Option.some.inj hnode]
      exact ⟨mode, rfl⟩
    · rw [node?_put_of_ne hsame]
      exact ⟨old, hold⟩

/-- A mode is no matter of what is read, at whatever path. -/
theorem readText_of_setMode {mode : Nat} (h : tree.setMode path mode = .ok after)
    (hread : tree.readText other = .ok text) : after.readText other = .ok text := by
  have hkeeps := keepsDirectories_of_setMode h
  obtain ⟨location, node, -, hnode, rfl⟩ := exists_of_setMode h
  obtain ⟨found, old, hlocate, hfile⟩ := readText_eq_ok_iff.mp hread
  rw [readText_eq_ok_iff]
  by_cases hsame : found = location
  · subst hsame
    have hroot : found ≠ [] := by
      intro hempty
      rw [hempty] at hfile
      cases hfile
    rw [hfile] at hnode
    refine ⟨found, some mode, locate_of_keepsDirectories hkeeps hlocate, ?_⟩
    rw [node?_put hroot, if_pos rfl, ← Option.some.inj hnode]
    rfl
  · refine ⟨found, old, locate_of_keepsDirectories hkeeps hlocate, ?_⟩
    rw [node?_put_of_ne hsame, hfile]

end Steps

end ClusterPlan.FileTree
