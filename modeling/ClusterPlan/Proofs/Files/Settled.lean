import ClusterPlan.Proofs.Files.Change
import ClusterPlan.Proofs.Files.Standing

/-!
# Steps with nothing left to do

A step that has been made is settled: made again, it leaves the tree as it is. It stays settled
under all steps that agree with it, which leave the same behind where they lead to the same place.
So when a change has succeeded, each of its steps is settled that all others agree with, whatever
order the schedule has put them in, and a second run of it makes no difference.

That nothing is left of a file is not settled by its removal alone, because a directory can be made
in its place.
-/

namespace ClusterPlan

/-- The mode of a node, if it was set. -/
def Node.mode? : Node → Option Nat
  | directory mode => mode
  | file _ mode => mode

namespace FileTree

section Nodes

variable {tree after : FileTree} {location : Location} {node : Node} {path text : String}

theorem putNode_of_lookup {nodes : List (Location × Node)}
    (h : nodes.lookup location = some node) : putNode location node nodes = nodes := by
  induction nodes with
  | nil => cases h
  | cons first rest ih =>
    obtain ⟨l, n⟩ := first
    rw [lookup_cons_eq_ite] at h
    rw [putNode]
    split
    next hl =>
      rw [if_pos hl.symm] at h
      rw [hl, Option.some.inj h]
    next hl =>
      rw [if_neg fun heq ↦ hl heq.symm] at h
      rw [ih h]

theorem put_of_lookup (h : tree.nodes.lookup location = some node) :
    tree.put location node = tree := by
  rw [put, putNode_of_lookup h]

theorem lookup_put (node : Node) (other : Location) :
    (tree.put location node).nodes.lookup other =
      if other = location then some node else tree.nodes.lookup other :=
  lookup_putNode tree.nodes

theorem lookup_of_node? (hlocation : location ≠ []) (h : tree.node? location = some node) :
    tree.nodes.lookup location = some node := by
  have hempty : location.isEmpty = false := by simpa using hlocation
  unfold node? at h
  rwa [hempty] at h

end Nodes

/-! ### Directories -/

section Directories

variable {tree after again : FileTree} {here : Location} {names : List String}

/-- Where all directories are, none is made. -/
theorem makeAlong_eq_self (h : tree.makeAlong here names = .ok after)
    (hkept : ∀ location, after.isDirectory location = true → again.isDirectory location = true) :
    again.makeAlong here names = .ok again := by
  induction names generalizing tree here with
  | nil => rfl
  | cons name rest ih =>
    have hextends := (extends_of_makeAlong h).keepsDirectories
    rw [makeAlong] at h
    split at h
    next => cases h
    next next hnext =>
      have henter := enter_eq_ok_iff.mp hnext
      have hagain : again.enter here name = .ok next :=
        enter_eq_ok_iff.mpr ⟨hkept here (hextends.directories here henter.1), henter.2⟩
      have hstep (hdirectory : after.isDirectory next = true)
          (hrest : again.makeAlong next rest = .ok again) :
          again.makeAlong here (name :: rest) = .ok again := by
        obtain ⟨mode, hmode⟩ := isDirectory_eq_true_iff.mp (hkept next hdirectory)
        rw [makeAlong, hagain]
        dsimp only
        rw [hmode]
        exact hrest
      split at h
      next mode hnode =>
        have hdirectory : tree.isDirectory next = true := isDirectory_eq_true_iff.mpr ⟨mode, hnode⟩
        exact hstep (hextends.directories next hdirectory) (ih h)
      next => cases h
      next hnode =>
        have hroot : next ≠ [] := by
          rintro rfl
          cases hnode
        have hmade : (tree.put next (.directory none)).isDirectory next = true := by
          rw [isDirectory_eq_true_iff, node?_put hroot, if_pos rfl]
          exact ⟨none, rfl⟩
        exact hstep ((extends_of_makeAlong h).keepsDirectories.directories next hmade) (ih h)

theorem makeDirectory_eq_ok_iff {path : String} :
    tree.makeDirectory path = .ok after ↔ path.toList.contains '\x00' = false ∧
      tree.makeAlong (tree.start path) (Path.names path) = .ok after := by
  unfold makeDirectory
  cases path.toList.contains '\x00' with
  | true => simp
  | false => simp

/-- What has been made is not made again where all directories are kept. -/
theorem makeDirectory_eq_self {path : String} (h : tree.makeDirectory path = .ok after)
    (hkeeps : KeepsDirectories after again) : again.makeDirectory path = .ok again := by
  obtain ⟨hzero, halong⟩ := makeDirectory_eq_ok_iff.mp h
  have hstart : again.start path = tree.start path := by
    apply start_congr
    rw [hkeeps.workingDirectory, (extends_of_makeDirectory h).workingDirectory]
  rw [makeDirectory_eq_ok_iff, hstart]
  exact ⟨hzero, makeAlong_eq_self halong hkeeps.directories⟩

end Directories

/-! ### Texts -/

section Texts

variable {tree after : FileTree} {location : Location} {path other text : String}

theorem writeText_eq_ok_iff : tree.writeText path text = .ok after ↔
    ∃ location, tree.locate path = .ok location ∧ tree.isDirectory location = false ∧
      (tree.node? location = none → tree.isDirectory location.dropLast = true) ∧
      after = tree.put location (.file (.text text) ((tree.node? location).bind Node.mode?)) := by
  unfold writeText
  cases tree.locate path with
  | error fault => simp
  | ok location =>
    simp only [Except.ok.injEq, exists_eq_left']
    unfold isDirectory
    cases hnode : tree.node? location with
    | none =>
      dsimp only
      split
      next hparent => simpa using eq_comm
      next hparent => simp
    | some node =>
      cases node with
      | directory mode => simp
      | file content mode => simpa [Node.mode?] using eq_comm

/-- A text is written again where it is read. -/
theorem writeText_eq_self_iff :
    tree.writeText path text = .ok tree ↔ tree.readText path = .ok text := by
  constructor
  · exact readText_of_writeText
  · intro hread
    obtain ⟨location, mode, hlocate, hnode⟩ := readText_eq_ok_iff.mp hread
    have hfile : tree.isDirectory location = false := by
      rw [isDirectory, hnode]
    have hlookup := lookup_of_node? (ne_nil_of_isDirectory_eq_false hfile) hnode
    refine writeText_eq_ok_iff.mpr ⟨location, hlocate, hfile, ?_, ?_⟩
    · rw [hnode]
      exact nofun
    · rw [hnode]
      exact (put_of_lookup hlookup).symm

/-- What is written at a path is read at any path to the same place. -/
theorem readText_of_writeText_of_eq (h : tree.writeText other text = .ok after)
    (hlocate : after.locate path = .ok location) (heq : tree.target path = tree.target other) :
    after.readText path = .ok text := by
  obtain ⟨found, mode, hfound, hnode⟩ := readText_eq_ok_iff.mp (readText_of_writeText h)
  have hdirectory := (changesOnlyAt_of_writeText h).workingDirectory
  have hsame : location = found :=
    calc
      location = after.target path := eq_target_of_locate hlocate
      _ = tree.target path := target_congr hdirectory path
      _ = tree.target other := heq
      _ = after.target other := (target_congr hdirectory other).symm
      _ = found := (eq_target_of_locate hfound).symm
  exact readText_eq_ok_iff.mpr ⟨location, mode, hlocate, hsame ▸ hnode⟩

end Texts

/-! ### Modes -/

section Modes

variable {tree after : FileTree} {location other : Location} {path : String} {mode : Nat}
  {node : Node}

/-- Something at the location has the mode. -/
def HasMode (tree : FileTree) (location : Location) (mode : Nat) : Prop :=
  ∃ node, tree.node? location = some node ∧
    tree.nodes.lookup location = some (withMode mode node)

theorem withMode_withMode (mode old : Nat) (node : Node) :
    withMode mode (withMode old node) = withMode mode node := by
  cases node with
  | directory _ => rfl
  | file _ _ => rfl

theorem setMode_of_locate (hlocate : tree.locate path = .ok location)
    (hnode : tree.node? location = some node) :
    tree.setMode path mode = .ok (tree.put location (withMode mode node)) := by
  unfold setMode
  rw [hlocate]
  dsimp only
  rw [hnode]
  cases node with
  | directory _ => rfl
  | file _ _ => rfl

theorem hasMode_put (hnode : tree.node? location = some node) (mode : Nat) :
    (tree.put location (withMode mode node)).HasMode location mode := by
  by_cases hroot : location = []
  · subst hroot
    exact ⟨node, hnode, by rw [lookup_put, if_pos rfl]⟩
  · refine ⟨withMode mode node, by rw [node?_put hroot, if_pos rfl], ?_⟩
    rw [lookup_put, if_pos rfl, withMode_withMode]

/-- What is elsewhere keeps its mode. -/
theorem HasMode.put_of_ne (h : tree.HasMode location mode) (hne : location ≠ other)
    (node : Node) : (tree.put other node).HasMode location mode := by
  obtain ⟨old, hold, hlookup⟩ := h
  refine ⟨old, by rw [node?_put_of_ne hne, hold], ?_⟩
  rw [lookup_put, if_neg hne, hlookup]

theorem HasMode.erase_of_ne (h : tree.HasMode location mode) (hne : location ≠ other) :
    (tree.erase other).HasMode location mode := by
  obtain ⟨old, hold, hlookup⟩ := h
  refine ⟨old, by rw [node?_erase_of_ne hne, hold], ?_⟩
  rw [erase, lookup_erase_of_ne hne, hlookup]

/-- Directories are only made where nothing is. -/
theorem HasMode.makeAlong {here : Location} {names : List String}
    (hmode : tree.HasMode location mode) (h : tree.makeAlong here names = .ok after) :
    after.HasMode location mode := by
  induction names generalizing tree here with
  | nil =>
    rw [← Except.ok.inj h]
    exact hmode
  | cons name rest ih =>
    rw [FileTree.makeAlong] at h
    split at h
    next => cases h
    next next _ =>
      split at h
      next => exact ih hmode h
      next => cases h
      next hnone =>
        have hne : location ≠ next := by
          rintro rfl
          obtain ⟨node, hnode, -⟩ := hmode
          cases hnode.symm.trans hnone
        exact ih (hmode.put_of_ne hne _) h

/-- A file that is written keeps its mode. -/
theorem HasMode.writeText {text : String} (hmode : tree.HasMode location mode)
    (h : tree.writeText path text = .ok after) : after.HasMode location mode := by
  obtain ⟨found, -, hfile, -, rfl⟩ := writeText_eq_ok_iff.mp h
  by_cases hfound : location = found
  · subst hfound
    have hroot := ne_nil_of_isDirectory_eq_false hfile
    obtain ⟨node, hnode, hlookup⟩ := hmode
    rw [lookup_of_node? hroot hnode] at hlookup
    have hkept : node.mode? = some mode := by
      rw [Option.some.inj hlookup]
      cases node with
      | directory _ => rfl
      | file _ _ => rfl
    have hwritten : withMode mode (.file (.text text) none) =
        .file (.text text) ((tree.node? location).bind Node.mode?) := by
      rw [hnode, Option.bind_some, hkept]
      rfl
    refine ⟨.file (.text text) ((tree.node? location).bind Node.mode?), ?_, ?_⟩
    · rw [node?_put hroot, if_pos rfl]
    · rw [lookup_put, if_pos rfl, ← hwritten, withMode_withMode]
  · exact hmode.put_of_ne hfound _

/-- A mode is set again where something has it. -/
theorem setMode_eq_self (hlocate : tree.locate path = .ok location)
    (hmode : tree.HasMode location mode) : tree.setMode path mode = .ok tree := by
  obtain ⟨node, hnode, hlookup⟩ := hmode
  rw [setMode_of_locate hlocate hnode, put_of_lookup hlookup]

theorem exists_hasMode_of_setMode (h : tree.setMode path mode = .ok after) :
    ∃ location, tree.locate path = .ok location ∧ after.HasMode location mode := by
  obtain ⟨location, node, hlocate, hnode, rfl⟩ := exists_of_setMode h
  exact ⟨location, hlocate, hasMode_put hnode mode⟩

end Modes

/-! ### Nothing -/

/-- The path can be followed, and leads to nothing. -/
structure Vacant (tree : FileTree) (path : String) : Prop where
  located : tree.locate path = .ok (tree.target path)
  absent : tree.node? (tree.target path) = none

theorem removeFile_of_vacant {tree : FileTree} {path : String} (h : tree.Vacant path) :
    tree.removeFile path = .error .notFound := by
  rw [removeFile, h.located]
  dsimp only
  rw [h.absent]

end FileTree

/-! ### Steps -/

namespace FileStep

open FileTree (ChangesOnlyAt KeepsDirectories)

/-- Made again, the step leaves the tree as it is. -/
def Settled (tree : FileTree) (step : FileStep) : Prop := step.perform tree = .ok tree

/-- Where both steps lead to the same place, they leave the same behind. -/
def Agrees : FileStep → FileStep → Prop
  | writeText _ text, writeText _ other => text = other
  | setMode _ mode, setMode _ other => mode = other
  | writeText _ _, removeIfPresent _ | setMode _ _, removeIfPresent _ => False
  | removeIfPresent _, writeText _ _ | removeIfPresent _, setMode _ _ => False
  | _, _ => True

instance : DecidableRel Agrees
  | writeText _ text, writeText _ other => inferInstanceAs (Decidable (text = other))
  | setMode _ mode, setMode _ other => inferInstanceAs (Decidable (mode = other))
  | writeText _ _, removeIfPresent _ | setMode _ _, removeIfPresent _
  | removeIfPresent _, writeText _ _ | removeIfPresent _, setMode _ _ => .isFalse id
  | makeDirectory _, makeDirectory _ | makeDirectory _, writeText _ _
  | makeDirectory _, setMode _ _ | makeDirectory _, removeIfPresent _
  | writeText _ _, makeDirectory _ | setMode _ _, makeDirectory _
  | removeIfPresent _, makeDirectory _ | writeText _ _, setMode _ _
  | setMode _ _, writeText _ _ | removeIfPresent _, removeIfPresent _ => .isTrue trivial

theorem agrees_makeDirectory (path : String) (other : FileStep) :
    (makeDirectory path).Agrees other := by
  cases other <;> trivial

/-- The step takes nothing away. -/
def Adds : FileStep → Prop
  | removeIfPresent _ => False
  | _ => True

section Steps

variable {tree after : FileTree} {step other : FileStep} {path text : String}

/-- Either there is nothing to remove, or a file is removed. -/
theorem perform_removeIfPresent_eq_ok_iff :
    (removeIfPresent path).perform tree = .ok after ↔
      tree.removeFile path = .error .notFound ∧ after = tree ∨ tree.removeFile path = .ok after := by
  unfold perform
  dsimp only
  split
  next hfault => simp [hfault, eq_comm]
  next hfault =>
    constructor
    · exact .inr
    · rintro (⟨hnone, -⟩ | h)
      · exact absurd hnone hfault
      · exact h

theorem keepsDirectories_of_perform (h : step.perform tree = .ok after) :
    KeepsDirectories tree after := by
  cases step with
  | makeDirectory path => exact (FileTree.extends_of_makeDirectory h).keepsDirectories
  | writeText path text => exact FileTree.keepsDirectories_of_writeText h
  | setMode path mode => exact FileTree.keepsDirectories_of_setMode h
  | removeIfPresent path =>
    rcases perform_removeIfPresent_eq_ok_iff.mp h with ⟨-, rfl⟩ | hremoved
    · exact .refl after
    · exact FileTree.keepsDirectories_of_removeFile hremoved

theorem changesOnlyAt_of_perform (h : step.perform tree = .ok after) :
    ChangesOnlyAt [step.path] tree after := by
  cases step with
  | makeDirectory path =>
    exact FileTree.changesOnlyAt_of_makeDirectory (fun _ hlocation ↦ hlocation) h
  | writeText path text => exact FileTree.changesOnlyAt_of_writeText h
  | setMode path mode => exact FileTree.changesOnlyAt_of_setMode h
  | removeIfPresent path =>
    rcases perform_removeIfPresent_eq_ok_iff.mp h with ⟨-, rfl⟩ | hremoved
    · exact .refl after
    · exact FileTree.changesOnlyAt_of_removeFile hremoved

theorem keeps_keepsDirectories (step : FileStep) : step.Keeps KeepsDirectories :=
  fun _ _ ↦ keepsDirectories_of_perform

/-- A step that has been made is settled. -/
theorem settled_of_perform (h : step.perform tree = .ok after) : step.Settled after := by
  have hkeeps := keepsDirectories_of_perform h
  cases step with
  | makeDirectory path => exact FileTree.makeDirectory_eq_self h (.refl after)
  | writeText path text =>
    exact FileTree.writeText_eq_self_iff.mpr (FileTree.readText_of_writeText h)
  | setMode path mode =>
    obtain ⟨location, hlocate, hmode⟩ := FileTree.exists_hasMode_of_setMode h
    exact FileTree.setMode_eq_self (FileTree.locate_of_keepsDirectories hkeeps hlocate) hmode
  | removeIfPresent path =>
    rcases perform_removeIfPresent_eq_ok_iff.mp h with ⟨-, rfl⟩ | hremoved
    · exact h
    · obtain ⟨location, hlocate, hfile, rfl⟩ := FileTree.exists_of_removeFile hremoved
      have hgone : (tree.erase location).removeFile path = .error .notFound := by
        rw [FileTree.removeFile, FileTree.locate_of_keepsDirectories hkeeps hlocate]
        dsimp only
        rw [FileTree.node?_erase_self (FileTree.ne_nil_of_isDirectory_eq_false hfile)]
      rw [Settled, perform, hgone]

theorem perform_removeIfPresent_of_vacant (h : tree.Vacant path) :
    (removeIfPresent path).perform tree = .ok tree := by
  rw [perform, FileTree.removeFile_of_vacant h]

/-- Nothing is left at a path that can be followed, once it has been removed. -/
theorem vacant_of_perform (hlocate : tree.locate path = .ok (tree.target path))
    (h : (removeIfPresent path).perform tree = .ok after) : after.Vacant path := by
  have hkeeps := keepsDirectories_of_perform h
  have htarget : after.target path = tree.target path :=
    FileTree.target_congr hkeeps.workingDirectory path
  constructor
  · rw [htarget]
    exact FileTree.locate_of_keepsDirectories hkeeps hlocate
  · rw [htarget]
    rcases perform_removeIfPresent_eq_ok_iff.mp h with ⟨hfault, rfl⟩ | hremoved
    · unfold FileTree.removeFile at hfault
      rw [hlocate] at hfault
      dsimp only at hfault
      split at hfault
      next hnode => exact hnode
      next => cases hfault
      next => cases hfault
    · obtain ⟨found, hfound, hfile, rfl⟩ := FileTree.exists_of_removeFile hremoved
      obtain rfl := Except.ok.inj (hlocate.symm.trans hfound)
      exact FileTree.node?_erase_self (FileTree.ne_nil_of_isDirectory_eq_false hfile)

theorem settled_writeText_iff :
    (writeText path text).Settled tree ↔ tree.readText path = .ok text :=
  FileTree.writeText_eq_self_iff

/-- What is read at a path stays under steps that agree. -/
theorem readText_of_perform (h : other.perform tree = .ok after)
    (hagrees : tree.target path = tree.target other.path → (writeText path text).Agrees other)
    (hread : tree.readText path = .ok text) : after.readText path = .ok text := by
  have hkeeps := keepsDirectories_of_perform h
  by_cases htarget : tree.target path = tree.target other.path
  · have hsame := hagrees htarget
    cases other with
    | makeDirectory other =>
      exact FileTree.readText_of_extends (FileTree.extends_of_makeDirectory h) hread
    | writeText other text' =>
      obtain rfl : text = text' := hsame
      obtain ⟨location, -, hlocate, -⟩ := FileTree.readText_eq_ok_iff.mp hread
      have hlocate' := FileTree.locate_of_keepsDirectories hkeeps hlocate
      exact FileTree.readText_of_writeText_of_eq h hlocate' htarget
    | setMode other mode => exact FileTree.readText_of_setMode h hread
    | removeIfPresent other => exact absurd hsame id
  · apply FileTree.readText_of_changesOnlyAt (changesOnlyAt_of_perform h) hkeeps _ hread
    exact List.forall_mem_singleton.mpr htarget

/-- A mode stays under steps that agree. -/
theorem hasMode_of_perform {location : Location} {mode : Nat}
    (h : other.perform tree = .ok after)
    (hagrees : location = tree.target other.path → (setMode path mode).Agrees other)
    (hmode : tree.HasMode location mode) : after.HasMode location mode := by
  cases other with
  | makeDirectory other => exact hmode.makeAlong (FileTree.makeDirectory_eq_ok_iff.mp h).2
  | writeText other text => exact hmode.writeText h
  | setMode other mode' =>
    obtain ⟨found, node, hlocate, hnode, rfl⟩ := FileTree.exists_of_setMode h
    by_cases hfound : location = found
    · subst hfound
      obtain rfl : mode = mode' := hagrees (FileTree.eq_target_of_locate hlocate)
      exact FileTree.hasMode_put hnode mode
    · exact hmode.put_of_ne hfound _
  | removeIfPresent other =>
    rcases perform_removeIfPresent_eq_ok_iff.mp h with ⟨-, rfl⟩ | hremoved
    · exact hmode
    · obtain ⟨found, hlocate, -, rfl⟩ := FileTree.exists_of_removeFile hremoved
      refine hmode.erase_of_ne fun hfound ↦ ?_
      exact hagrees (hfound.trans (FileTree.eq_target_of_locate hlocate))

/-- A settled step stays settled under steps that agree with it. -/
theorem Settled.of_perform (hsettled : step.Settled tree) (hadds : step.Adds)
    (h : other.perform tree = .ok after)
    (hagrees : tree.target step.path = tree.target other.path → step.Agrees other) :
    step.Settled after := by
  have hkeeps := keepsDirectories_of_perform h
  cases step with
  | makeDirectory path => exact FileTree.makeDirectory_eq_self hsettled hkeeps
  | writeText path text =>
    exact settled_writeText_iff.mpr
      (readText_of_perform h hagrees (settled_writeText_iff.mp hsettled))
  | setMode path mode =>
    obtain ⟨location, hlocate, hmode⟩ := FileTree.exists_hasMode_of_setMode hsettled
    have htarget := FileTree.eq_target_of_locate hlocate
    have hmode' : after.HasMode location mode :=
      hasMode_of_perform h (fun heq ↦ hagrees (htarget.symm.trans heq)) hmode
    exact FileTree.setMode_eq_self (FileTree.locate_of_keepsDirectories hkeeps hlocate) hmode'
  | removeIfPresent path => exact absurd hadds id

/-- Paths lead where they led, and a settled step stays settled. -/
theorem keeps_settled (hadds : step.Adds) {start : FileTree}
    (hagrees : start.target step.path = start.target other.path → step.Agrees other) :
    other.Keeps fun tree after ↦
      tree.workingDirectory = start.workingDirectory ∧ step.Settled tree →
        after.workingDirectory = start.workingDirectory ∧ step.Settled after := by
  rintro tree after h ⟨hdirectory, hsettled⟩
  have hkeeps := keepsDirectories_of_perform h
  refine ⟨hkeeps.workingDirectory.trans hdirectory, hsettled.of_perform hadds h fun heq ↦ ?_⟩
  apply hagrees
  rwa [FileTree.target_congr hdirectory, FileTree.target_congr hdirectory] at heq

end Steps

/-! ### Last words -/

/-- The step has the last word at its place: all that comes after it there agrees with it. -/
def LastIn (tree : FileTree) (order : List FileStep) (step : FileStep) : Prop :=
  ∃ before after, order = before ++ step :: after ∧
    ∀ other ∈ after, tree.target step.path = tree.target other.path → step.Agrees other

section LastIn

variable {tree after : FileTree} {step : FileStep} {order : List FileStep}

theorem LastIn.mem (h : step.LastIn tree order) : step ∈ order := by
  obtain ⟨before, after, rfl, -⟩ := h
  exact List.mem_append_right _ List.mem_cons_self

theorem LastIn.append_left (h : step.LastIn tree order) (first : List FileStep) :
    step.LastIn tree (first ++ order) := by
  obtain ⟨before, after, rfl, hlast⟩ := h
  exact ⟨first ++ before, after, (List.append_assoc ..).symm, hlast⟩

theorem LastIn.cons (h : step.LastIn tree order) (first : FileStep) :
    step.LastIn tree (first :: order) :=
  h.append_left [first]

theorem lastIn_congr (h : after.workingDirectory = tree.workingDirectory) :
    step.LastIn after order ↔ step.LastIn tree order := by
  have htarget : after.target = tree.target := funext (FileTree.target_congr h)
  rw [LastIn, htarget, LastIn]

theorem lastIn_of_agrees (h : step ∈ order)
    (hagrees : ∀ other ∈ order,
      tree.target step.path = tree.target other.path → step.Agrees other) :
    step.LastIn tree order := by
  obtain ⟨before, after, rfl⟩ := List.append_of_mem h
  exact ⟨before, after, rfl, fun other hother ↦
    hagrees other (List.mem_append_right _ (List.mem_cons_of_mem _ hother))⟩

/-- A step with the last word is settled at the end. -/
theorem LastIn.settled (h : step.LastIn tree order) (hadds : step.Adds)
    (hperforms : Performs order tree after) : step.Settled after := by
  obtain ⟨before, later, rfl, hlast⟩ := h
  obtain ⟨middle, hbefore, made, hstep, hlater⟩ := performs_append.mp hperforms
  have hmiddle : middle.workingDirectory = tree.workingDirectory :=
    stays_of_performs hbefore (P := (·.workingDirectory = tree.workingDirectory))
      (fun s _ _ _ hs hdirectory ↦
        (keepsDirectories_of_perform hs).workingDirectory.trans hdirectory) rfl
  have hmade : made.workingDirectory = tree.workingDirectory :=
    (keepsDirectories_of_perform hstep).workingDirectory.trans hmiddle
  have hafter := stays_of_performs hlater
    (fun other hother ↦ keeps_settled hadds (hlast other hother)) ⟨hmade, settled_of_perform hstep⟩
  exact hafter.2

end LastIn

end FileStep

/-! ### Changes -/

namespace Change

open FileTree (KeepsDirectories)

variable {ε : Type} {change : Change ε} {step : FileStep} {tree after : FileTree}

theorem keeps_keepsDirectories (change : Change ε) : change.Keeps KeepsDirectories :=
  fun s _ ↦ s.keeps_keepsDirectories

/-- Each step of a change that has succeeded is settled, as far as the other steps agree with it. -/
theorem Makes.settled (h : change.Makes tree after) (hstep : step ∈ change.steps)
    (hadds : step.Adds)
    (hagrees : ∀ other ∈ change.steps,
      tree.target step.path = tree.target other.path → step.Agrees other) :
    step.Settled after := by
  obtain ⟨order, hadmits, hperforms⟩ := h.exists_order
  have hmem (s : FileStep) : s ∈ order ↔ s ∈ change.steps := hadmits.perm.mem_iff
  have hlast : step.LastIn tree order :=
    FileStep.lastIn_of_agrees ((hmem step).mpr hstep) fun other hother ↦
      hagrees other ((hmem other).mp hother)
  exact hlast.settled hadds hperforms

/-- What was settled before a change is settled after it, as far as its steps agree with it. -/
theorem Makes.stays_settled (h : change.Makes tree after) (hsettled : step.Settled tree)
    (hadds : step.Adds)
    (hagrees : ∀ other ∈ change.steps,
      tree.target step.path = tree.target other.path → step.Agrees other) :
    step.Settled after := by
  obtain ⟨order, hadmits, hperforms⟩ := h.exists_order
  have hkeeps := fun other hother ↦
    FileStep.keeps_settled hadds (hagrees other (hadmits.perm.mem_iff.mp hother))
  exact (FileStep.stays_of_performs hperforms hkeeps ⟨rfl, hsettled⟩).2

end Change

end ClusterPlan
