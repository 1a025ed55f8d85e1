import ClusterPlan.Proofs.Files.Tree
import ClusterPlan.Proofs.Files.Path
import Mathlib.Order.Defs.Unbundled

/-!
# What steps on a file tree change

Where a path leads is a matter of its names alone, as long as it can be followed at all. A step at
a path changes the node that the path leads to and no other, but that missing directories are made
at locations that are passed on the way there. So what a run of steps can change is known from its
paths, whatever the tree is and whether the steps succeed or not.

A path stays below a directory when it leads to a location below that of the directory and passes
no other location on its way there, but for those that are passed on the way to the directory. What
changes at such paths only leaves everything outside of the directory as it is. A name that is put
behind such a path leads no further out.
-/

namespace ClusterPlan

/-! ### Names followed with nothing in the way -/

namespace Location

def enter (here : Location) (name : String) : Location :=
  if name = ".." then here.dropLast else here ++ [name]

def follow : Location → List String → Location := List.foldl enter

/-- The locations that are passed, the first and the last among them. -/
def passed (here : Location) : List String → List Location
  | [] => [here]
  | name :: rest => here :: passed (enter here name) rest

section Passed

variable {here : Location} {names more : List String}

theorem follow_append : follow here (names ++ more) = follow (follow here names) more :=
  List.foldl_append

theorem enter_of_ne {name : String} (h : name ≠ "..") : enter here name = here ++ [name] :=
  if_neg h

theorem follow_singleton {name : String} (h : name ≠ "..") : follow here [name] = here ++ [name] :=
  enter_of_ne h

theorem mem_passed_self : here ∈ passed here names := by
  cases names with
  | nil => exact List.mem_singleton_self here
  | cons name rest => exact List.mem_cons_self

theorem mem_passed_append {location : Location} :
    location ∈ passed here (names ++ more) ↔
      location ∈ passed here names ∨ location ∈ passed (follow here names) more := by
  induction names generalizing here with
  | nil =>
    have hnil : follow here [] = here := rfl
    rw [List.nil_append, hnil, passed, List.mem_singleton]
    constructor
    · exact .inr
    · intro h
      rcases h with h | h
      · rw [h]
        exact mem_passed_self
      · exact h
  | cons name rest ih =>
    have hcons : follow here (name :: rest) = follow (enter here name) rest := rfl
    rw [List.cons_append, passed, passed, List.mem_cons, List.mem_cons, ih, hcons, or_assoc]

theorem follow_mem_passed : follow here names ∈ passed here names := by
  have h : follow here names ∈ passed here (names ++ []) :=
    mem_passed_append.mpr (.inr mem_passed_self)
  rwa [List.append_nil] at h

end Passed

end Location

namespace FileTree

open Location (enter follow passed)

/-- Where a path leads when it can be followed. -/
def target (tree : FileTree) (path : String) : Location :=
  Location.follow (tree.start path) (Path.names path)

/-- The locations on the way of a path. -/
def passes (tree : FileTree) (path : String) : List Location :=
  Location.passed (tree.start path) (Path.names path)

section Paths

variable {tree after : FileTree} {here location : Location} {names : List String}
  {path parent : String}

theorem target_mem_passes : tree.target path ∈ tree.passes path := Location.follow_mem_passed

theorem eq_follow_of_follow (h : tree.follow here names = .ok location) :
    location = Location.follow here names := by
  induction names generalizing here with
  | nil => exact (Except.ok.inj h).symm
  | cons name rest ih =>
    obtain ⟨next, hnext, hrest⟩ := follow_cons_eq_ok_iff.mp h
    rw [ih hrest, (enter_eq_ok_iff.mp hnext).2.2]
    rfl

theorem eq_target_of_locate (h : tree.locate path = .ok location) :
    location = tree.target path :=
  eq_follow_of_follow (locate_eq_ok_iff.mp h).2.2.1

theorem start_congr (h : after.workingDirectory = tree.workingDirectory) (path : String) :
    after.start path = tree.start path := by
  unfold start
  rw [h]

theorem target_congr (h : after.workingDirectory = tree.workingDirectory) (path : String) :
    after.target path = tree.target path := by
  rw [target, start_congr h, target]

theorem passes_congr (h : after.workingDirectory = tree.workingDirectory) (path : String) :
    after.passes path = tree.passes path := by
  rw [passes, start_congr h, passes]

theorem mem_passes_of_parent? (h : Path.parent? path = some parent)
    (hlocation : location ∈ tree.passes parent) : location ∈ tree.passes path := by
  obtain ⟨more, hmore⟩ := Path.names_parent?_isPrefix h
  have hstart : tree.start parent = tree.start path := by
    unfold start
    rw [Path.isAbsolute_parent? h]
  rw [passes, hstart] at hlocation
  rw [passes, ← hmore, Location.mem_passed_append]
  exact .inl hlocation

end Paths

/-! ### Nodes that stay -/

section Nodes

variable {tree : FileTree} {location other : Location}

theorem lookup_erase_of_ne (h : other ≠ location) (nodes : List (Location × Node)) :
    (nodes.filter (·.1 != location)).lookup other = nodes.lookup other := by
  induction nodes with
  | nil => rfl
  | cons first rest ih =>
    obtain ⟨l, node⟩ := first
    rw [lookup_cons_eq_ite, List.filter_cons]
    by_cases hl : l = location
    · have hne : other ≠ l := fun heq ↦ h (heq.trans hl)
      have hdrop : (l != location) = false := by simpa using hl
      rw [if_neg hne, hdrop, if_neg Bool.false_ne_true, ih]
    · have hkeep : (l != location) = true := by simpa using hl
      rw [hkeep, if_pos rfl, lookup_cons_eq_ite, ih]

theorem node?_erase_of_ne (h : other ≠ location) :
    (tree.erase location).node? other = tree.node? other := by
  unfold node? erase
  rw [lookup_erase_of_ne h]

end Nodes

/-! ### Changes at paths -/

/-- A directory stands where nothing was. -/
structure Made (tree after : FileTree) (location : Location) : Prop where
  before : tree.node? location = none
  now : after.node? location = some (.directory none)

/-- Nodes have changed only where paths lead, but for directories made on their way. -/
structure ChangesOnlyAt (paths : List String) (tree after : FileTree) : Prop where
  workingDirectory : after.workingDirectory = tree.workingDirectory
  nodes : ∀ location, (∀ path ∈ paths, location ≠ tree.target path) →
    after.node? location = tree.node? location ∨
      Made tree after location ∧ ∃ path ∈ paths, location ∈ tree.passes path

section ChangesOnlyAt

variable {tree middle after : FileTree} {paths more : List String} {path : String}

theorem ChangesOnlyAt.refl (tree : FileTree) : ChangesOnlyAt paths tree tree :=
  ⟨rfl, fun _ _ ↦ .inl rfl⟩

theorem ChangesOnlyAt.trans (h : ChangesOnlyAt paths tree middle)
    (h' : ChangesOnlyAt paths middle after) : ChangesOnlyAt paths tree after where
  workingDirectory := h'.workingDirectory.trans h.workingDirectory
  nodes location hlocation := by
    have hlocation' : ∀ path ∈ paths, location ≠ middle.target path := by
      intro path hpath
      rw [target_congr h.workingDirectory]
      exact hlocation path hpath
    rcases h.nodes location hlocation with hsame | ⟨hmade, hpassed⟩
    · rcases h'.nodes location hlocation' with hsame' | ⟨hmade', path, hpath, hpassed⟩
      · exact .inl (hsame'.trans hsame)
      · rw [passes_congr h.workingDirectory] at hpassed
        exact .inr ⟨⟨hsame ▸ hmade'.before, hmade'.now⟩, path, hpath, hpassed⟩
    · rcases h'.nodes location hlocation' with hsame' | ⟨hmade', -⟩
      · exact .inr ⟨⟨hmade.before, hsame'.trans hmade.now⟩, hpassed⟩
      · exact absurd (hmade.now.symm.trans hmade'.before) (by simp)

instance : IsPreorder FileTree (ChangesOnlyAt paths) where
  refl := .refl
  trans _ _ _ := .trans

theorem ChangesOnlyAt.mono (h : ChangesOnlyAt paths tree after)
    (hmore : ∀ path ∈ paths, path ∈ more) : ChangesOnlyAt more tree after where
  workingDirectory := h.workingDirectory
  nodes location hlocation := by
    rcases h.nodes location fun path hpath ↦ hlocation path (hmore path hpath) with
      hsame | ⟨hmade, path, hpath, hpassed⟩
    · exact .inl hsame
    · exact .inr ⟨hmade, path, hmore path hpath, hpassed⟩

/-- A change of the one node that a path leads to. -/
theorem changesOnlyAt_of_locate {location : Location} (hlocate : tree.locate path = .ok location)
    (hdirectory : after.workingDirectory = tree.workingDirectory)
    (h : ∀ other, other ≠ location → after.node? other = tree.node? other) :
    ChangesOnlyAt [path] tree after where
  workingDirectory := hdirectory
  nodes other hother := by
    refine .inl (h other ?_)
    rw [eq_target_of_locate hlocate]
    exact hother path (List.mem_singleton_self path)

theorem workingDirectory_of_makeAlong {here : Location} {names : List String}
    (h : tree.makeAlong here names = .ok after) :
    after.workingDirectory = tree.workingDirectory :=
  (extends_of_makeAlong h).workingDirectory

theorem made_of_makeAlong {here : Location} {names : List String}
    (h : tree.makeAlong here names = .ok after) (location : Location) :
    after.node? location = tree.node? location ∨
      Made tree after location ∧ location ∈ Location.passed here names := by
  induction names generalizing tree here with
  | nil =>
    rw [← Except.ok.inj h]
    exact .inl rfl
  | cons name rest ih =>
    rw [makeAlong] at h
    split at h
    next => cases h
    next next hnext =>
      have henter : next = Location.enter here name := (enter_eq_ok_iff.mp hnext).2.2
      have hpassed {l : Location} (hl : l ∈ Location.passed next rest) :
          l ∈ Location.passed here (name :: rest) := by
        rw [Location.passed, ← henter]
        exact List.mem_cons_of_mem here hl
      split at h
      next =>
        exact (ih h).imp_right (And.imp_right hpassed)
      next => cases h
      next hnone =>
        have hne : next ≠ [] := by
          intro hempty
          rw [hempty] at hnone
          cases hnone
        by_cases hlocation : location = next
        · have hput : (tree.put next (.directory none)).node? location =
              some (.directory none) := by
            rw [node?_put hne, if_pos hlocation]
          refine .inr ⟨⟨hlocation ▸ hnone, ?_⟩, hpassed (hlocation ▸ Location.mem_passed_self)⟩
          exact (extends_of_makeAlong h).nodes location _ hput
        · have hput : (tree.put next (.directory none)).node? location = tree.node? location :=
            node?_put_of_ne hlocation _
          rcases ih h with hsame | ⟨hmade, hl⟩
          · exact .inl (hsame.trans hput)
          · exact .inr ⟨⟨hput ▸ hmade.before, hmade.now⟩, hpassed hl⟩

/-- Directories are only made on the way to what is written behind them. -/
theorem changesOnlyAt_of_makeDirectory {directory : String}
    (hpasses : ∀ location ∈ tree.passes directory, location ∈ tree.passes path)
    (h : tree.makeDirectory directory = .ok after) : ChangesOnlyAt [path] tree after := by
  unfold makeDirectory at h
  split at h
  · cases h
  · refine ⟨workingDirectory_of_makeAlong h, fun location _ ↦ ?_⟩
    exact (made_of_makeAlong h location).imp_right fun ⟨hmade, hpassed⟩ ↦
      ⟨hmade, path, List.mem_singleton_self path, hpasses location hpassed⟩

theorem changesOnlyAt_of_writeText {text : String} (h : tree.writeText path text = .ok after) :
    ChangesOnlyAt [path] tree after := by
  obtain ⟨location, mode, hlocate, -, rfl⟩ := exists_of_writeText h
  exact changesOnlyAt_of_locate hlocate rfl fun other hother ↦ node?_put_of_ne hother _

theorem changesOnlyAt_of_setMode {mode : Nat} (h : tree.setMode path mode = .ok after) :
    ChangesOnlyAt [path] tree after := by
  obtain ⟨location, node, hlocate, -, rfl⟩ := exists_of_setMode h
  exact changesOnlyAt_of_locate hlocate rfl fun other hother ↦ node?_put_of_ne hother _

theorem changesOnlyAt_of_removeFile (h : tree.removeFile path = .ok after) :
    ChangesOnlyAt [path] tree after := by
  unfold removeFile at h
  split at h
  next => cases h
  next location hlocate =>
    split at h
    next => cases h
    next => cases h
    next =>
      rw [← Except.ok.inj h]
      exact changesOnlyAt_of_locate hlocate rfl fun other hother ↦ node?_erase_of_ne hother

end ChangesOnlyAt

/-! ### Below a directory -/

/-- The path of a directory is not left by a path. -/
structure Below (tree : FileTree) (root path : String) : Prop where
  target : tree.target root <+: tree.target path
  passes : ∀ location ∈ tree.passes path,
    tree.target root <+: location ∨ location ∈ tree.passes root

/-- Nothing outside of a directory has changed, but for directories made on the way there. -/
structure ConfinedTo (root : String) (tree after : FileTree) : Prop where
  workingDirectory : after.workingDirectory = tree.workingDirectory
  nodes : ∀ location, ¬tree.target root <+: location →
    after.node? location = tree.node? location ∨
      Made tree after location ∧ location ∈ tree.passes root

section Below

variable {tree after : FileTree} {root path name : String} {paths : List String}

theorem below_self (tree : FileTree) (root : String) : tree.Below root root :=
  ⟨List.prefix_rfl, fun _ ↦ .inr⟩

theorem start_join (hname : Path.IsName name) :
    tree.start (Path.join path name) = tree.start path := by
  unfold start
  rw [Path.isAbsolute_join path hname]

theorem target_join (hname : Path.IsFileName name) :
    tree.target (Path.join path name) = tree.target path ++ [name] := by
  rw [target, start_join hname.toIsName, Path.names_join path hname.toIsName,
    Location.follow_append, Location.follow_singleton hname.ne_parent, target]

theorem mem_passes_join (hname : Path.IsFileName name) {location : Location} :
    location ∈ tree.passes (Path.join path name) ↔
      location ∈ tree.passes path ∨ location = tree.target path ++ [name] := by
  have hlast : Location.passed (tree.target path) [name] =
      [tree.target path, tree.target path ++ [name]] := by
    rw [Location.passed, Location.passed, Location.enter_of_ne hname.ne_parent]
  have hpasses : location ∈ tree.passes (Path.join path name) ↔
      location ∈ tree.passes path ∨ location ∈ Location.passed (tree.target path) [name] := by
    rw [passes, start_join hname.toIsName, Path.names_join path hname.toIsName,
      Location.mem_passed_append]
    rfl
  rw [hpasses, hlast, List.mem_cons, List.mem_singleton, ← or_assoc]
  constructor
  · rintro ((hpath | hpath) | hpath)
    · exact .inl hpath
    · exact .inl (hpath ▸ target_mem_passes)
    · exact .inr hpath
  · exact Or.imp_left .inl

/-- A name behind a path, unless it leads back, leads no further out. -/
theorem Below.join (h : tree.Below root path) (hname : Path.IsFileName name) :
    tree.Below root (Path.join path name) where
  target := by
    rw [target_join hname]
    exact h.target.trans (List.prefix_append _ _)
  passes location hlocation := by
    rcases (mem_passes_join hname).mp hlocation with hpath | hpath
    · exact h.passes location hpath
    · rw [hpath]
      exact .inl (h.target.trans (List.prefix_append _ _))

theorem confinedTo_of_changesOnlyAt (h : ChangesOnlyAt paths tree after)
    (hpaths : ∀ path ∈ paths, tree.Below root path) : ConfinedTo root tree after where
  workingDirectory := h.workingDirectory
  nodes location hlocation := by
    have hne : ∀ path ∈ paths, location ≠ tree.target path :=
      fun path hpath heq ↦ hlocation (heq ▸ (hpaths path hpath).target)
    rcases h.nodes location hne with hsame | ⟨hmade, path, hpath, hpassed⟩
    · exact .inl hsame
    · exact .inr ⟨hmade, ((hpaths path hpath).passes location hpassed).resolve_left hlocation⟩

end Below

end FileTree

end ClusterPlan
