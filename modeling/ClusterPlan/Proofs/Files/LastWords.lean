import ClusterPlan.Proofs.Files.Settled

/-!
# Steps made once more

A step that is made where it has been made before, or one of its kind, makes and removes nothing: it
changes a text or a mode in place. Such changes come in any order to the same, but for those that
give one file different texts, or one node different modes. Of these the last one counts, and
whatever comes before it might be left out.

So a run on the tree of an earlier run comes to the last words of its order. Where every schedule
leaves the last word at each place to the same text and mode, a second run makes no difference, and
where two schedules leave it to different ones, one run after the other does.
-/

namespace ClusterPlan

namespace FileTree

/-! ### Changes in place -/

/-- Change the node at a location, if there is one. -/
def alterNodes (location : Location) (f : Node → Node) :
    List (Location × Node) → List (Location × Node)
  | [] => []
  | (l, node) :: rest =>
    if l = location then (l, f node) :: rest else (l, node) :: alterNodes location f rest

def alter (tree : FileTree) (location : Location) (f : Node → Node) : FileTree :=
  { tree with nodes := alterNodes location f tree.nodes }

section Alter

variable {tree : FileTree} {location other : Location} {f g : Node → Node} {node : Node}

theorem lookup_alterNodes (nodes : List (Location × Node)) :
    (alterNodes location f nodes).lookup other =
      if other = location then (nodes.lookup other).map f else nodes.lookup other := by
  induction nodes with
  | nil => simp [alterNodes]
  | cons first rest ih =>
    obtain ⟨l, n⟩ := first
    rw [alterNodes, lookup_cons_eq_ite]
    split
    next hl =>
      rw [lookup_cons_eq_ite, hl]
      split
      · rfl
      · rfl
    next hl =>
      rw [lookup_cons_eq_ite, ih]
      split
      next hother => rw [if_neg (hother ▸ hl)]
      next => rfl

theorem node?_alter (hlocation : other ≠ []) : (tree.alter location f).node? other =
    if other = location then (tree.node? other).map f else tree.node? other := by
  have hempty : other.isEmpty = false := by simpa using hlocation
  unfold node? alter
  rw [hempty]
  exact lookup_alterNodes tree.nodes

theorem node?_alter_eq_none_iff :
    (tree.alter location f).node? other = none ↔ tree.node? other = none := by
  by_cases hroot : other = []
  · subst hroot
    rfl
  · rw [node?_alter hroot]
    split
    · exact Option.map_eq_none_iff
    · rfl

theorem put_eq_alter (h : tree.nodes.lookup location = some node) :
    tree.put location (f node) = tree.alter location f := by
  have hnodes (nodes : List (Location × Node)) (hlookup : nodes.lookup location = some node) :
      putNode location (f node) nodes = alterNodes location f nodes := by
    induction nodes with
    | nil => cases hlookup
    | cons first rest ih =>
      obtain ⟨l, n⟩ := first
      rw [lookup_cons_eq_ite] at hlookup
      rw [putNode, alterNodes]
      split
      next hl =>
        rw [if_pos hl.symm] at hlookup
        rw [hl, Option.some.inj hlookup]
      next hl =>
        rw [if_neg fun heq ↦ hl heq.symm] at hlookup
        rw [ih hlookup]
  rw [put, alter, hnodes _ h]

theorem alter_alter (h : ∀ node, g (f node) = g node) :
    (tree.alter location f).alter location g = tree.alter location g := by
  have hnodes (nodes : List (Location × Node)) :
      alterNodes location g (alterNodes location f nodes) = alterNodes location g nodes := by
    induction nodes with
    | nil => rfl
    | cons first rest ih =>
      obtain ⟨l, n⟩ := first
      by_cases hl : l = location
      · simp [alterNodes, hl, h]
      · simp [alterNodes, hl, ih]
  exact congrArg (FileTree.mk · tree.workingDirectory) (hnodes tree.nodes)

theorem alter_id (tree : FileTree) (location : Location) : tree.alter location id = tree := by
  have hnodes (nodes : List (Location × Node)) : alterNodes location id nodes = nodes := by
    induction nodes with
    | nil => rfl
    | cons first rest ih =>
      rw [alterNodes, ih]
      split
      · rfl
      · rfl
  exact congrArg (FileTree.mk · tree.workingDirectory) (hnodes tree.nodes)

/-- Changes come in any order to the same, unless it matters to the node that both change. -/
theorem alter_comm (h : location = other → ∀ node, g (f node) = f (g node)) :
    (tree.alter location f).alter other g = (tree.alter other g).alter location f := by
  have hnodes (nodes : List (Location × Node)) :
      alterNodes other g (alterNodes location f nodes) =
        alterNodes location f (alterNodes other g nodes) := by
    induction nodes with
    | nil => rfl
    | cons first rest ih =>
      obtain ⟨l, n⟩ := first
      by_cases hl : l = location
      · subst hl
        by_cases hother : l = other
        · subst hother
          simp [alterNodes, h rfl]
        · simp [alterNodes, hother]
      · by_cases hother : l = other
        · subst hother
          simp [alterNodes, hl]
        · simp [alterNodes, hl, hother, ih]
  exact congrArg (FileTree.mk · tree.workingDirectory) (hnodes tree.nodes)

end Alter

end FileTree

/-- The node with a text, if it is a file. -/
def Node.withText (text : String) : Node → Node
  | directory mode => directory mode
  | file _ mode => file (.text text) mode

namespace FileStep

open FileTree (withMode KeepsDirectories)

/-- What a step makes of a node that is there. -/
def effect : FileStep → Node → Node
  | writeText _ text => Node.withText text
  | setMode _ mode => withMode mode
  | makeDirectory _ | removeIfPresent _ => id

def touch (tree : FileTree) (step : FileStep) : FileTree :=
  tree.alter (tree.target step.path) step.effect

/-- All is there for the step to be made in place. -/
def Fits (tree : FileTree) : FileStep → Prop
  | makeDirectory path => (makeDirectory path).Settled tree
  | writeText path _ => ∃ text, (writeText path text).Settled tree
  | setMode path _ => ∃ mode, (setMode path mode).Settled tree
  | removeIfPresent path => tree.Vacant path

/-- Both steps give a text, or both give a mode. -/
def Like : FileStep → FileStep → Prop
  | writeText _ _, writeText _ _ | setMode _ _, setMode _ _ => True
  | _, _ => False

/-- The steps give a text to the same file, or a mode to the same node. -/
structure Rivals (tree : FileTree) (step other : FileStep) : Prop where
  like : step.Like other
  target : tree.target step.path = tree.target other.path

section Touch

variable {tree after : FileTree} {step other third : FileStep}

@[simp] theorem target_touch (path : String) :
    (step.touch tree).target path = tree.target path :=
  FileTree.target_congr rfl path

/-- What is there is changed in place. -/
theorem perform_of_fits (h : step.Fits tree) : step.perform tree = .ok (step.touch tree) := by
  cases step with
  | makeDirectory path => exact h.trans (congrArg Except.ok (tree.alter_id _).symm)
  | removeIfPresent path =>
    exact (perform_removeIfPresent_of_vacant h).trans (congrArg Except.ok (tree.alter_id _).symm)
  | writeText path text =>
    obtain ⟨old, hsettled⟩ := h
    obtain ⟨location, mode, hlocate, hnode⟩ :=
      FileTree.readText_eq_ok_iff.mp (settled_writeText_iff.mp hsettled)
    have hfile : tree.isDirectory location = false := by
      rw [FileTree.isDirectory, hnode]
    have hlookup :=
      FileTree.lookup_of_node? (FileTree.ne_nil_of_isDirectory_eq_false hfile) hnode
    refine FileTree.writeText_eq_ok_iff.mpr ⟨location, hlocate, hfile, ?_, ?_⟩
    · rw [hnode]
      exact fun hnone ↦ absurd hnone (by simp)
    · rw [touch, FileStep.path, ← FileTree.eq_target_of_locate hlocate, hnode]
      exact (FileTree.put_eq_alter hlookup).symm
  | setMode path mode =>
    obtain ⟨old, hsettled⟩ := h
    obtain ⟨location, hlocate, node, hnode, hlookup⟩ :=
      FileTree.exists_hasMode_of_setMode hsettled
    rw [perform, FileTree.setMode_of_locate hlocate hnode, touch, FileStep.path,
      ← FileTree.eq_target_of_locate hlocate, ← FileTree.withMode_withMode mode old node,
      FileTree.put_eq_alter hlookup, effect]

theorem settled_of_not_adds (h : step.Fits tree) (hadds : ¬step.Adds) : step.Settled tree := by
  cases step with
  | removeIfPresent path => exact perform_removeIfPresent_of_vacant h
  | makeDirectory _ | writeText _ _ | setMode _ _ => exact absurd trivial hadds

theorem settled_iff_of_fits (h : step.Fits tree) : step.Settled tree ↔ step.touch tree = tree := by
  rw [Settled, perform_of_fits h, Except.ok.injEq]

/-- Where a step has been made it can be made in place. -/
theorem fits_of_settled (h : step.Settled tree) (hadds : step.Adds) : step.Fits tree := by
  cases step with
  | makeDirectory path => exact h
  | writeText path text => exact ⟨text, h⟩
  | setMode path mode => exact ⟨mode, h⟩
  | removeIfPresent path => exact absurd hadds id

/-! ### Steps that are rivals -/

theorem Like.symm (h : step.Like other) : other.Like step := by
  cases step <;> cases other <;> trivial

theorem Like.trans (h : step.Like other) (h' : other.Like third) : step.Like third := by
  cases step <;> cases other <;> cases third <;> trivial

theorem Like.effect_effect (h : step.Like other) (node : Node) :
    other.effect (step.effect node) = other.effect node := by
  cases step <;> cases other <;> cases node <;> trivial

theorem effect_comm (h : ¬step.Like other) (node : Node) :
    other.effect (step.effect node) = step.effect (other.effect node) := by
  cases step <;> cases other <;> cases node <;> first | rfl | exact absurd trivial h

theorem Agrees.symm (h : step.Agrees other) : other.Agrees step := by
  cases step <;> cases other <;> first | exact Eq.symm h | exact h

theorem agrees_of_not_like (hadds : step.Adds) (hother : other.Adds) (h : ¬step.Like other) :
    step.Agrees other := by
  cases step <;> cases other <;> trivial

theorem Rivals.symm (h : Rivals tree step other) : Rivals tree other step :=
  ⟨h.like.symm, h.target.symm⟩

theorem Rivals.trans (h : Rivals tree step other) (h' : Rivals tree other third) :
    Rivals tree step third :=
  ⟨h.like.trans h'.like, h.target.trans h'.target⟩

/-- The later one of two rivals counts. -/
theorem Rivals.touch_touch (h : Rivals tree step other) :
    other.touch (step.touch tree) = other.touch tree := by
  rw [touch, target_touch, touch, h.target, FileTree.alter_alter h.like.effect_effect, touch]

/-- Other steps may be made in any order. -/
theorem touch_comm (h : ¬Rivals tree step other) :
    other.touch (step.touch tree) = step.touch (other.touch tree) := by
  rw [touch, target_touch, touch, touch, target_touch, touch]
  exact FileTree.alter_comm fun htarget ↦ effect_comm fun hlike ↦ h ⟨hlike, htarget⟩

/-- A step is settled where another one of the same kind and effect is. -/
theorem Settled.of_rival (h : step.Settled tree) (hadds : step.Adds) (hother : other.Fits tree)
    (hrivals : Rivals tree step other) (hagrees : step.Agrees other) : other.Settled tree := by
  have heffect : other.effect = step.effect := by
    have hlike := hrivals.like
    cases step with
    | writeText path text => cases other with
      | writeText path' text' => exact congrArg Node.withText (Eq.symm hagrees)
      | _ => exact absurd hlike id
    | setMode path mode => cases other with
      | setMode path' mode' => exact congrArg withMode (Eq.symm hagrees)
      | _ => exact absurd hlike id
    | _ => exact absurd hlike id
  rw [settled_iff_of_fits hother, touch, ← hrivals.target, heffect]
  exact (settled_iff_of_fits (fits_of_settled h hadds)).mp h

/-- Steps that are settled in one tree agree. -/
theorem agrees_of_settled (hadds : step.Adds) (hother : other.Adds) (h : step.Settled tree)
    (h' : other.Settled tree) (htarget : tree.target step.path = tree.target other.path) :
    step.Agrees other := by
  by_cases hlike : step.Like other
  · cases step with
    | writeText path text => cases other with
      | writeText path' text' =>
        change tree.target path = tree.target path' at htarget
        obtain ⟨_, _, hlocate, hnode⟩ :=
          FileTree.readText_eq_ok_iff.mp (settled_writeText_iff.mp h)
        obtain ⟨_, _, hlocate', hnode'⟩ :=
          FileTree.readText_eq_ok_iff.mp (settled_writeText_iff.mp h')
        rw [FileTree.eq_target_of_locate hlocate] at hnode
        rw [FileTree.eq_target_of_locate hlocate', ← htarget] at hnode'
        cases hnode.symm.trans hnode'
        rfl
      | _ => exact absurd hlike id
    | setMode path mode => cases other with
      | setMode path' mode' =>
        change tree.target path = tree.target path' at htarget
        obtain ⟨_, hlocate, node, hnode, hlookup⟩ := FileTree.exists_hasMode_of_setMode h
        obtain ⟨_, hlocate', node', hnode', hlookup'⟩ := FileTree.exists_hasMode_of_setMode h'
        rw [FileTree.eq_target_of_locate hlocate] at hnode hlookup
        rw [FileTree.eq_target_of_locate hlocate', ← htarget] at hnode' hlookup'
        obtain rfl := Option.some.inj (hnode.symm.trans hnode')
        have hmodes := Option.some.inj (hlookup.symm.trans hlookup')
        cases node <;> cases hmodes <;> rfl
      | _ => exact absurd hlike id
    | _ => exact absurd hlike id
  · exact agrees_of_not_like hadds hother hlike

/-! ### Steps that stay possible -/

theorem Fits.of_perform (h : step.Fits tree) (hadds : step.Adds)
    (hother : tree.target step.path = tree.target other.path → other.Adds ∨ step.Agrees other)
    (hperform : other.perform tree = .ok after) : step.Fits after := by
  have hkeeps := keepsDirectories_of_perform hperform
  cases step with
  | makeDirectory path => exact FileTree.makeDirectory_eq_self h hkeeps
  | removeIfPresent path => exact absurd hadds id
  | writeText path text =>
    obtain ⟨old, hsettled⟩ := h
    by_cases hrivals : Rivals tree (.writeText path old) other
    · cases other with
      | writeText path' new =>
        obtain ⟨location, mode, hlocate, -⟩ :=
          FileTree.readText_eq_ok_iff.mp (settled_writeText_iff.mp hsettled)
        have hlocate' := FileTree.locate_of_keepsDirectories hkeeps hlocate
        exact ⟨new, settled_writeText_iff.mpr
          (FileTree.readText_of_writeText_of_eq hperform hlocate' hrivals.target)⟩
      | _ => exact absurd hrivals.like id
    · refine ⟨old, hsettled.of_perform trivial hperform fun htarget ↦ ?_⟩
      cases other with
      | writeText path' new => exact absurd ⟨trivial, htarget⟩ hrivals
      | removeIfPresent path' => exact ((hother htarget).elim id id).elim
      | makeDirectory _ | setMode _ _ => trivial
  | setMode path mode =>
    obtain ⟨old, hsettled⟩ := h
    by_cases hrivals : Rivals tree (.setMode path old) other
    · cases other with
      | setMode path' new =>
        obtain ⟨location, hlocate, -⟩ := FileTree.exists_hasMode_of_setMode hsettled
        obtain ⟨found, hfound, hmode⟩ := FileTree.exists_hasMode_of_setMode hperform
        have hsame : found = location :=
          calc
            found = tree.target path' := FileTree.eq_target_of_locate hfound
            _ = tree.target path := hrivals.target.symm
            _ = location := (FileTree.eq_target_of_locate hlocate).symm
        have hlocate' := FileTree.locate_of_keepsDirectories hkeeps hlocate
        exact ⟨new, FileTree.setMode_eq_self hlocate' (hsame ▸ hmode)⟩
      | _ => exact absurd hrivals.like id
    · refine ⟨old, hsettled.of_perform trivial hperform fun htarget ↦ ?_⟩
      cases other with
      | setMode path' new => exact absurd ⟨trivial, htarget⟩ hrivals
      | removeIfPresent path' => exact ((hother htarget).elim id id).elim
      | makeDirectory _ | writeText _ _ => trivial

theorem touch_of_not_adds (h : ¬step.Adds) : step.touch tree = tree := by
  cases step with
  | removeIfPresent path => exact tree.alter_id _
  | makeDirectory _ | writeText _ _ | setMode _ _ => exact absurd trivial h

theorem Fits.touch (h : step.Fits tree) (hother : other.Fits tree) :
    step.Fits (other.touch tree) := by
  have hperform := perform_of_fits hother
  by_cases hadds : step.Adds
  · by_cases hotherAdds : other.Adds
    · exact h.of_perform hadds (fun _ ↦ .inl hotherAdds) hperform
    · rwa [touch_of_not_adds hotherAdds]
  · cases step with
    | removeIfPresent path =>
      refine ⟨?_, FileTree.node?_alter_eq_none_iff.mpr ?_⟩
      · rw [target_touch]
        exact FileTree.locate_of_keepsDirectories (keepsDirectories_of_perform hperform) h.located
      · rw [target_touch]
        exact h.absent
    | makeDirectory _ | writeText _ _ | setMode _ _ => exact absurd trivial hadds

end Touch

/-! ### Orders -/

section Orders

variable {tree after : FileTree} {step other : FileStep} {order rest : List FileStep}

theorem lastIn_cons (hadds : ∀ s ∈ step :: rest, s.Adds)
    (h : ¬∃ other ∈ rest, Rivals tree step other) : step.LastIn tree (step :: rest) := by
  rw [List.forall_mem_cons] at hadds
  refine ⟨[], rest, rfl, fun other hother htarget ↦ ?_⟩
  exact agrees_of_not_like hadds.1 (hadds.2 other hother) fun hlike ↦
    h ⟨other, hother, hlike, htarget⟩

/-- A step that has not the last word has a rival that has it. -/
theorem exists_lastIn (hadds : ∀ s ∈ order, s.Adds) (h : step ∈ order) :
    step.LastIn tree order ∨ ∃ last, last.LastIn tree order ∧ Rivals tree last step := by
  induction order generalizing step with
  | nil => cases h
  | cons first rest ih =>
    have hrest {s : FileStep} (hs : s ∈ rest) : s.LastIn tree (first :: rest) ∨
        ∃ last, last.LastIn tree (first :: rest) ∧ Rivals tree last s := by
      rcases ih (List.forall_mem_cons.mp hadds).2 hs with hlast | ⟨last, hlast, hrivals⟩
      · exact .inl (hlast.cons first)
      · exact .inr ⟨last, hlast.cons first, hrivals⟩
    rcases List.mem_cons.mp h with rfl | h
    · by_cases hlater : ∃ other ∈ rest, Rivals tree step other
      · obtain ⟨other, hother, hrivals⟩ := hlater
        rcases hrest hother with hlast | ⟨last, hlast, hrivals'⟩
        · exact .inr ⟨other, hlast, hrivals.symm⟩
        · exact .inr ⟨last, hlast, hrivals'.trans hrivals.symm⟩
      · exact .inl (lastIn_cons hadds hlater)
    · exact hrest h

theorem Fits.foldl_touch (h : step.Fits tree) (horder : ∀ s ∈ order, s.Fits tree) :
    step.Fits (order.foldl FileStep.touch tree) := by
  induction order generalizing tree with
  | nil => exact h
  | cons first rest ih =>
    rw [List.forall_mem_cons] at horder
    exact ih (h.touch horder.1) fun s hs ↦ (horder.2 s hs).touch horder.1

/-- What is overwritten later might be left out. -/
theorem foldl_touch_of_rivals (h : ∃ other ∈ rest, Rivals tree step other) :
    rest.foldl touch (step.touch tree) = rest.foldl touch tree := by
  induction rest generalizing tree with
  | nil =>
    obtain ⟨other, hother, -⟩ := h
    cases hother
  | cons first rest ih =>
    rw [List.foldl_cons, List.foldl_cons]
    by_cases hfirst : Rivals tree step first
    · rw [hfirst.touch_touch]
    · rw [touch_comm hfirst]
      obtain ⟨other, hother, hrivals⟩ := h
      rcases List.mem_cons.mp hother with rfl | hother
      · exact absurd hrivals hfirst
      · exact ih ⟨other, hother, hrivals.like, by simpa using hrivals.target⟩

/-- Where the last words make no difference, an order makes none. -/
theorem foldl_touch_eq_self (hadds : ∀ s ∈ order, s.Adds)
    (h : ∀ s : FileStep, s.LastIn tree order → s.touch tree = tree) :
    order.foldl touch tree = tree := by
  induction order with
  | nil => rfl
  | cons first rest ih =>
    have hrest : rest.foldl touch tree = tree :=
      ih (List.forall_mem_cons.mp hadds).2 fun s hs ↦ h s (hs.cons first)
    rw [List.foldl_cons]
    by_cases hlater : ∃ other ∈ rest, Rivals tree first other
    · rw [foldl_touch_of_rivals hlater, hrest]
    · rw [h first (lastIn_cons hadds hlater), hrest]

/-- Steps for which all is there are made in place. -/
theorem performs_iff_of_fits (h : ∀ s ∈ order, s.Fits tree) :
    Performs order tree after ↔ order.foldl touch tree = after := by
  induction order generalizing tree with
  | nil => rfl
  | cons first rest ih =>
    rw [List.forall_mem_cons] at h
    have hrest : ∀ s ∈ rest, s.Fits (first.touch tree) := fun s hs ↦ (h.2 s hs).touch h.1
    rw [Performs, perform_of_fits h.1, List.foldl_cons, ← ih hrest]
    simp

/-- Once it has been made a step can be made again in place, however others follow. -/
theorem fits_of_performs (hadds : ∀ s ∈ order, s.Adds) (hstep : step ∈ order)
    (hperforms : Performs order tree after) : step.Fits after := by
  obtain ⟨before, later, rfl⟩ := List.append_of_mem hstep
  obtain ⟨middle, -, made, hmade, hlater⟩ := performs_append.mp hperforms
  have hown := hadds step hstep
  have hkeeps : ∀ s ∈ later, s.Keeps fun tree after ↦ step.Fits tree → step.Fits after :=
    fun s hs _ _ hperform hfits ↦ hfits.of_perform hown
      (fun _ ↦ .inl (hadds s (List.mem_append_right _ (List.mem_cons_of_mem _ hs)))) hperform
  exact stays_of_performs hlater hkeeps (fits_of_settled (settled_of_perform hmade) hown)

end Orders

end FileStep

/-! ### Changes -/

namespace Change

variable {ε : Type}

/-- Whatever the schedules, what has the last word at a place in one order agrees with what has it
there in another. -/
def Definite (tree : FileTree) (change : Change ε) : Prop :=
  ∀ one other, change.Admits one → change.Admits other → ∀ s t : FileStep,
    s.LastIn tree one → t.LastIn tree other → tree.target s.path = tree.target t.path → s.Agrees t

/-- What the change leaves is there: its steps can be made in place, and those with the last word
change nothing. -/
structure Rests (change : Change ε) (tree : FileTree) : Prop where
  sound : change.Sound
  adds : ∀ s ∈ change.steps, s.Adds
  fits : ∀ s ∈ change.steps, s.Fits tree
  settled : ∀ order, change.Admits order → ∀ s : FileStep, s.LastIn tree order → s.Settled tree

section Definite

variable {change : Change ε} {tree after : FileTree} {order : List FileStep}

theorem exists_run_of_fits (hsound : change.Sound) (hfits : ∀ s ∈ change.steps, s.Fits tree)
    (schedule : Schedule) : ∃ after, change.run schedule tree = (after, .ok ()) := by
  obtain ⟨after, hrun, -⟩ := exists_run_of_keeps hsound
    (P := fun tree ↦ ∀ s ∈ change.steps, s.Fits tree)
    (fun s hs _ hfits ↦ ⟨_, FileStep.perform_of_fits (hfits s hs),
      fun other hother ↦ (hfits other hother).touch (hfits s hs)⟩) schedule hfits
  exact ⟨after, hrun⟩

theorem Rests.run (h : change.Rests tree) (schedule : Schedule) :
    change.run schedule tree = (tree, .ok ()) := by
  obtain ⟨after, hrun⟩ := exists_run_of_fits h.sound h.fits schedule
  obtain ⟨order, hadmits, hperforms⟩ := Makes.exists_order ⟨schedule, hrun⟩
  have hmem (s : FileStep) (hs : s ∈ order) : s ∈ change.steps := hadmits.perm.mem_iff.mp hs
  have hfits : ∀ s ∈ order, s.Fits tree := fun s hs ↦ h.fits s (hmem s hs)
  have hself : order.foldl FileStep.touch tree = tree := by
    apply FileStep.foldl_touch_eq_self fun s hs ↦ h.adds s (hmem s hs)
    intro s hs
    exact (FileStep.settled_iff_of_fits (hfits s hs.mem)).mp (h.settled order hadmits s hs)
  rw [hrun, ← (FileStep.performs_iff_of_fits hfits).mp hperforms, hself]

theorem definite_congr (h : after.workingDirectory = tree.workingDirectory) :
    change.Definite after ↔ change.Definite tree := by
  simp only [Definite, FileStep.lastIn_congr h, FileTree.target_congr h]

theorem Makes.fits (h : change.Makes tree after) (hadds : ∀ s ∈ change.steps, s.Adds) :
    ∀ s ∈ change.steps, s.Fits after := by
  obtain ⟨order, hadmits, hperforms⟩ := h.exists_order
  have hmem (s : FileStep) : s ∈ order ↔ s ∈ change.steps := hadmits.perm.mem_iff
  exact fun s hs ↦ FileStep.fits_of_performs (fun t ht ↦ hadds t ((hmem t).mp ht))
    ((hmem s).mpr hs) hperforms

/-- A change with definite last words has left what it leaves under any schedule. -/
theorem Makes.rests (h : change.Makes tree after) (hadds : ∀ s ∈ change.steps, s.Adds)
    (hdefinite : change.Definite tree) : change.Rests after := by
  have hdirectory := ((keeps_keepsDirectories change).of_makes h).workingDirectory
  rw [← definite_congr hdirectory] at hdefinite
  obtain ⟨order, hadmits, hperforms⟩ := h.exists_order
  have hmem (s : FileStep) : s ∈ order ↔ s ∈ change.steps := hadmits.perm.mem_iff
  have hall : ∀ s ∈ order, s.Adds := fun s hs ↦ hadds s ((hmem s).mp hs)
  have hfits := h.fits hadds
  have hsettled : ∀ s : FileStep, s.LastIn after order → s.Settled after :=
    fun s hs ↦
      ((FileStep.lastIn_congr hdirectory).mp hs).settled (hall s hs.mem) hperforms
  refine ⟨h.sound, hadds, hfits, fun other hother s hs ↦ ?_⟩
  have hsteps : s ∈ change.steps := hother.perm.mem_iff.mp hs.mem
  rcases FileStep.exists_lastIn hall ((hmem s).mpr hsteps) with hlast | ⟨last, hlast, hrivals⟩
  · exact hsettled s hlast
  · have hagrees := hdefinite order other hadmits hother last s hlast hs hrivals.target
    exact (hsettled last hlast).of_rival (hall last hlast.mem) (hfits s hsteps) hrivals hagrees

/-- Where a second run never makes a difference, the last words are definite. -/
theorem definite_of_run_run (hadds : ∀ s ∈ change.steps, s.Adds)
    (hfits : ∀ s ∈ change.steps, s.Fits tree)
    (h : ∀ first again after, change.run first tree = (after, .ok ()) →
      change.run again after = (after, .ok ())) : change.Definite tree := by
  intro one other hone hother s t hs ht htarget
  have hmade {order : List FileStep} {start : FileTree} (hadmits : change.Admits order)
      (hstart : ∀ s ∈ change.steps, s.Fits start) :
      FileStep.Performs order start (order.foldl FileStep.touch start) :=
    (FileStep.performs_iff_of_fits fun s hs ↦ hstart s (hadmits.perm.mem_iff.mp hs)).mpr rfl
  have hfirst := hmade hone hfits
  obtain ⟨first, hfirstRun⟩ := makes_iff.mpr ⟨one, hone, hfirst⟩
  generalize one.foldl FileStep.touch tree = after at hfirst hfirstRun
  have hfirstMakes : change.Makes tree after := ⟨first, hfirstRun⟩
  have hdirectory := ((keeps_keepsDirectories change).of_makes hfirstMakes).workingDirectory
  have hagain := hmade hother (hfirstMakes.fits hadds)
  obtain ⟨again, hagainRun⟩ := makes_iff.mpr ⟨other, hother, hagain⟩
  have hsame : other.foldl FileStep.touch after = after := by
    rw [h first again after hfirstRun] at hagainRun
    exact (congrArg Prod.fst hagainRun).symm
  rw [hsame] at hagain
  have hsteps {order : List FileStep} (hadmits : change.Admits order) :
      ∀ s ∈ order, s.Adds := fun s hs ↦ hadds s (hadmits.perm.mem_iff.mp hs)
  have hsettled : s.Settled after := hs.settled (hsteps hone s hs.mem) hfirst
  have hsettled' : t.Settled after :=
    ((FileStep.lastIn_congr hdirectory).mpr ht).settled (hsteps hother t ht.mem) hagain
  refine FileStep.agrees_of_settled (hsteps hone s hs.mem) (hsteps hother t ht.mem) hsettled
    hsettled' ?_
  rwa [FileTree.target_congr hdirectory, FileTree.target_congr hdirectory]

/-- What can be made in place before a change can be so after it, where its steps agree. -/
theorem Makes.stays_fits {step : FileStep} (h : change.Makes tree after) (hfits : step.Fits tree)
    (hadds : step.Adds)
    (hagrees : ∀ other ∈ change.steps,
      tree.target step.path = tree.target other.path → step.Agrees other) : step.Fits after := by
  obtain ⟨order, hadmits, hperforms⟩ := h.exists_order
  have hkeeps : ∀ other ∈ order, other.Keeps fun before after ↦
      before.workingDirectory = tree.workingDirectory ∧ step.Fits before →
        after.workingDirectory = tree.workingDirectory ∧ step.Fits after := by
    rintro other hother before after hperform ⟨hbefore, hfits⟩
    have hsame := (FileStep.keepsDirectories_of_perform hperform).workingDirectory
    refine ⟨hsame.trans hbefore, hfits.of_perform hadds (fun htarget ↦ .inr ?_) hperform⟩
    rw [FileTree.target_congr hbefore, FileTree.target_congr hbefore] at htarget
    exact hagrees other (hadmits.perm.mem_iff.mp hother) htarget
  exact (FileStep.stays_of_performs hperforms hkeeps ⟨rfl, hfits⟩).2

/-- What a change leaves stays under steps that agree with its own. -/
theorem Rests.of_makes {other : Change ε} (h : change.Rests tree) (hother : other.Makes tree after)
    (hagrees : ∀ a ∈ change.steps, ∀ b ∈ other.steps,
      tree.target a.path = tree.target b.path → a.Agrees b) : change.Rests after := by
  have hdirectory := ((keeps_keepsDirectories other).of_makes hother).workingDirectory
  refine ⟨h.sound, h.adds, fun s hs ↦ ?_, fun own hown s hs ↦ ?_⟩
  · exact hother.stays_fits (h.fits s hs) (h.adds s hs) (hagrees s hs)
  · have hsteps := hown.perm.mem_iff.mp hs.mem
    have hsettled := h.settled own hown s ((FileStep.lastIn_congr hdirectory).mp hs)
    exact hother.stays_settled hsettled (h.adds s hsteps) (hagrees s hsteps)

/-! ### Changes that are made of others -/

/-- A change side by side with others may end last. -/
theorem exists_lastIn_besideAll {changes : List (Change ε)} {inOrder : Bool} {s : FileStep}
    (hsound : ∀ change ∈ changes, change.Sound) (hchange : change ∈ changes)
    (horder : change.Admits order) (hs : s.LastIn tree order) :
    ∃ whole, (besideAll inOrder changes).Admits whole ∧ s.LastIn tree whole := by
  induction changes with
  | nil => cases hchange
  | cons first rest ih =>
    rw [List.forall_mem_cons] at hsound
    rcases List.mem_cons.mp hchange with rfl | hchange
    · have hrest : (besideAll inOrder rest).Sound := sound_besideAll_iff.mpr hsound.2
      obtain ⟨other, hother⟩ := hrest.exists_admits
      exact ⟨other ++ order, ⟨order, other, horder, hother, (Shuffles.append other order).swap⟩,
        hs.append_left other⟩
    · obtain ⟨one, hone⟩ := hsound.1.exists_admits
      obtain ⟨other, hother, hlast⟩ := ih hsound.2 hchange
      exact ⟨one ++ other, ⟨one, other, hone, hother, .append one other⟩, hlast.append_left one⟩

/-- Where the last words of a join are definite, those of its members agree. -/
theorem Definite.agrees_of_join {changes : List (Change ε)} {first second : Change ε}
    {one other : List FileStep} {s t : FileStep} (h : (join changes).Definite tree)
    (hsound : (join changes).Sound) (hfirst : first ∈ changes) (hsecond : second ∈ changes)
    (hone : first.Admits one) (hother : second.Admits other) (hs : s.LastIn tree one)
    (ht : t.LastIn tree other) (htarget : tree.target s.path = tree.target t.path) :
    s.Agrees t := by
  have hmembers := sound_join_iff.mp hsound
  obtain ⟨wholeOne, hwholeOne, hlast⟩ := exists_lastIn_besideAll hmembers hfirst hone hs
  obtain ⟨wholeOther, hwholeOther, hlast'⟩ := exists_lastIn_besideAll hmembers hsecond hother ht
  exact h wholeOne wholeOther hwholeOne hwholeOther s t hlast hlast' htarget

theorem Definite.of_mem_join {changes : List (Change ε)} (h : (join changes).Definite tree)
    (hsound : (join changes).Sound) (hchange : change ∈ changes) : change.Definite tree :=
  fun _ _ hone hother _ _ hs ht ↦ h.agrees_of_join hsound hchange hchange hone hother hs ht

/-- What comes second has the last words of a chain. -/
theorem Definite.second {first second : Change ε} (h : (first.andThen second).Definite tree)
    (hfirst : first.Sound) : second.Definite tree := by
  intro one other hone hother s t hs ht
  obtain ⟨before, hbefore⟩ := hfirst.exists_admits
  exact h (before ++ one) (before ++ other) ⟨before, one, hbefore, hone, rfl⟩
    ⟨before, other, hbefore, hother, rfl⟩ s t (hs.append_left before) (ht.append_left before)

/-! ### Changes with nothing left to do -/

/-- No step of the change would make a difference. -/
structure Idle (change : Change ε) (tree : FileTree) : Prop where
  sound : change.Sound
  fits : ∀ s ∈ change.steps, s.Fits tree
  settled : ∀ s ∈ change.steps, s.Settled tree

theorem Idle.run (h : change.Idle tree) (schedule : Schedule) :
    change.run schedule tree = (tree, .ok ()) :=
  run_of_settled h.sound h.settled schedule

/-- It stays so under steps in place that agree with its own. -/
theorem Idle.of_makes {other : Change ε} (h : change.Idle tree) (hother : other.Makes tree after)
    (hfits : ∀ b ∈ other.steps, b.Fits tree)
    (hagrees : ∀ a ∈ change.steps, ∀ b ∈ other.steps,
      tree.target a.path = tree.target b.path → a.Agrees b) : change.Idle after := by
  obtain ⟨order, hadmits, hperforms⟩ := hother.exists_order
  have horder : ∀ b ∈ order, b.Fits tree := fun b hb ↦ hfits b (hadmits.perm.mem_iff.mp hb)
  have hafter : ∀ a ∈ change.steps, a.Fits after := by
    rw [← (FileStep.performs_iff_of_fits horder).mp hperforms]
    exact fun a ha ↦ (h.fits a ha).foldl_touch horder
  refine ⟨h.sound, hafter, fun a ha ↦ ?_⟩
  by_cases hadds : a.Adds
  · exact hother.stays_settled (h.settled a ha) hadds (hagrees a ha)
  · exact FileStep.settled_of_not_adds (hafter a ha) hadds

end Definite

end Change

end ClusterPlan
