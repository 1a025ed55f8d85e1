import ClusterPlan.Files.Change
import ClusterPlan.Proofs.Except
import Mathlib.Order.Defs.Unbundled

/-!
# What changes leave behind

A change leaves a tree behind whether it succeeds or fails. What every step of a change keeps of the
tree, the change keeps under every schedule and wherever it stops, also where steps come to their
end after it has failed. A change that has failed before its first step leaves the tree as it was.
-/

namespace ClusterPlan

namespace FileStep

/-- The tree after the step is related to the tree before. -/
def Keeps (R : FileTree → FileTree → Prop) (step : FileStep) : Prop :=
  ∀ tree after, step.perform tree = .ok after → R tree after

section Attempt

variable {step : FileStep} {tree after : FileTree} {fault : FileFault}

theorem attempt_of_perform (h : step.perform tree = .ok after) :
    step.attempt tree = (after, .ok ()) := by
  rw [attempt, h]

theorem attempt_of_perform_eq_error (h : step.perform tree = .error fault) :
    step.attempt tree = (tree, .error fault) := by
  rw [attempt, h]

theorem Keeps.attempt {R : FileTree → FileTree → Prop} [IsPreorder FileTree R]
    (h : step.Keeps R) (tree : FileTree) : R tree (step.attempt tree).1 := by
  cases hstep : step.perform tree with
  | ok after =>
    rw [attempt_of_perform hstep]
    exact h tree after hstep
  | error fault =>
    rw [attempt_of_perform_eq_error hstep]
    exact refl_of R tree

end Attempt

end FileStep

namespace Change

variable {ε : Type}

/-- What each step of the change keeps. -/
def Keeps (R : FileTree → FileTree → Prop) (change : Change ε) : Prop :=
  ∀ step ∈ change.steps, step.Keeps R

/-- Whatever error the change ends in has a property. -/
def FailsBy (p : ε → Prop) : Change ε → Prop
  | ended result => ∀ e, result = .error e → p e
  | step wrap _ => ∀ fault, p (wrap fault)
  | andThen first second => first.FailsBy p ∧ second.FailsBy p
  | beside _ first second => first.FailsBy p ∧ second.FailsBy p

/-! ### Steps of changes -/

section Steps

variable {change : Change ε} {changes : List (Change ε)} {u : Underway ε} {s : FileStep}

theorem mem_steps_besideAll {inOrder : Bool} :
    s ∈ (besideAll inOrder changes).steps ↔ ∃ change ∈ changes, s ∈ change.steps := by
  induction changes with
  | nil => simp [besideAll, done, steps]
  | cons change rest ih => simp [besideAll, steps, ih]

theorem mem_steps_join : s ∈ (join changes).steps ↔ ∃ change ∈ changes, s ∈ change.steps :=
  mem_steps_besideAll

theorem IsUnderway.mem_steps (h : change.IsUnderway u) : u.step ∈ change.steps := by
  induction h with
  | step wrap s => exact List.mem_singleton_self s
  | second hfirst h ih => exact List.mem_append_right _ ih
  | first h ih => exact List.mem_append_left _ ih
  | left h ih => exact List.mem_append_left _ ih
  | right h ih => exact List.mem_append_right _ ih

/-- What is left when a step has ended adds no step. -/
theorem IsUnderway.steps_subset (h : change.IsUnderway u) (result : Except FileFault Unit) :
    (u.next result).steps ⊆ change.steps := by
  induction h with
  | step wrap s => exact List.nil_subset _
  | second hfirst h ih => exact List.subset_append_of_subset_right _ ih
  | first h ih | left h ih =>
    exact List.append_subset.mpr
      ⟨List.subset_append_of_subset_left _ ih, List.subset_append_right _ _⟩
  | right h ih =>
    exact List.append_subset.mpr
      ⟨List.subset_append_left _ _, List.subset_append_of_subset_right _ ih⟩

theorem mem_steps_of_mem_underway (h : u ∈ change.underway) : u.step ∈ change.steps :=
  (isUnderway_of_mem h).mem_steps

end Steps

/-! ### What is kept -/

section Keeps

variable {R : FileTree → FileTree → Prop} {change first second : Change ε}
  {changes : List (Change ε)}

theorem Keeps.mono {S : FileTree → FileTree → Prop} (h : first.Keeps R)
    (hRS : ∀ tree after, R tree after → S tree after) : first.Keeps S :=
  fun s hs tree after hafter ↦ hRS tree after (h s hs tree after hafter)

theorem keeps_done : (done : Change ε).Keeps R := List.forall_mem_nil _

theorem keeps_fail (e : ε) : (fail e).Keeps R := List.forall_mem_nil _

theorem keeps_step {s : FileStep} (h : s.Keeps R) (wrap : FileFault → ε) :
    (step wrap s).Keeps R :=
  List.forall_mem_singleton.mpr h

theorem Keeps.andThen (hfirst : first.Keeps R) (hsecond : second.Keeps R) :
    (first.andThen second).Keeps R :=
  List.forall_mem_append.mpr ⟨hfirst, hsecond⟩

theorem keeps_join (h : ∀ change ∈ changes, change.Keeps R) : (join changes).Keeps R := by
  intro s hs
  obtain ⟨change, hchange, hs⟩ := mem_steps_join.mp hs
  exact h change hchange s hs

variable [IsPreorder FileTree R]

theorem keeps_finish (schedule : Schedule) (count : Nat) {steps : List FileStep}
    (h : ∀ s ∈ steps, s.Keeps R) (tree : FileTree) :
    R tree (finish schedule count steps tree) := by
  fun_induction finish schedule count steps tree with
  | case1 count steps tree place hplace ih =>
    have hfirst := (h _ (List.getElem_mem hplace)).attempt tree
    exact trans_of R hfirst (ih fun s hs ↦ h s (List.mem_of_mem_eraseIdx hs))
  | case2 => exact refl_of R _

theorem keeps_settle (h : change.Keeps R) (schedule : Schedule) (count turn : Nat)
    {others : List FileStep} (hothers : ∀ s ∈ others, s.Keeps R) (tree : FileTree) :
    R tree (settle schedule count turn others change tree).1 := by
  fun_induction settle schedule count turn others change tree with
  | case1 => exact refl_of R _
  | case2 => exact keeps_finish schedule _ hothers _
  | case3 count turn others change tree hopen underway place hplace made next left ih =>
    have hunder := isUnderway_of_mem (List.getElem_mem hplace)
    have hstep : R tree made.1 := (h _ hunder.mem_steps).attempt tree
    refine trans_of R hstep (ih (fun s hs ↦ h s (hunder.steps_subset _ hs)) ?_)
    rw [List.forall_mem_map]
    exact fun u hu ↦ h _ (mem_steps_of_mem_underway (List.mem_of_mem_eraseIdx hu))

theorem Keeps.run (h : change.Keeps R) (schedule : Schedule) (tree : FileTree) :
    R tree (change.run schedule tree).1 :=
  keeps_settle h schedule 0 0 (List.forall_mem_nil _) tree

end Keeps

/-! ### What changes fail by -/

section FailsBy

variable {p : ε → Prop} {change first second : Change ε} {changes : List (Change ε)}
  {u : Underway ε}

theorem failsBy_done : (done : Change ε).FailsBy p := fun _ he ↦ by cases he

theorem failsBy_fail {e : ε} (h : p e) : (fail e).FailsBy p := by
  intro e' he'
  obtain rfl := Except.error.inj he'
  exact h

theorem failsBy_step {wrap : FileFault → ε} (h : ∀ fault, p (wrap fault)) (s : FileStep) :
    (step wrap s).FailsBy p :=
  h

theorem FailsBy.andThen (hfirst : first.FailsBy p) (hsecond : second.FailsBy p) :
    (first.andThen second).FailsBy p :=
  ⟨hfirst, hsecond⟩

theorem failsBy_besideAll (inOrder : Bool) (h : ∀ change ∈ changes, change.FailsBy p) :
    (besideAll inOrder changes).FailsBy p := by
  induction changes with
  | nil => exact failsBy_done
  | cons change rest ih =>
    rw [List.forall_mem_cons] at h
    exact ⟨h.1, ih h.2⟩

theorem failsBy_join (h : ∀ change ∈ changes, change.FailsBy p) : (join changes).FailsBy p :=
  failsBy_besideAll _ h

theorem IsUnderway.failsBy (h : change.IsUnderway u) (hchange : change.FailsBy p)
    (result : Except FileFault Unit) : (u.next result).FailsBy p := by
  induction h with
  | step wrap s =>
    intro e he
    obtain ⟨fault, -, rfl⟩ := Except.mapError_eq_error_iff.mp he
    exact hchange fault
  | second hfirst h ih => exact ih hchange.2
  | first h ih => exact ⟨ih hchange.1, hchange.2⟩
  | left h ih => exact ⟨ih hchange.1, hchange.2⟩
  | right h ih => exact ⟨hchange.1, ih hchange.2⟩

theorem FailsBy.of_verdict? {e : ε} (h : change.FailsBy p)
    (hverdict : change.verdict? = some (.error e)) : p e := by
  induction change with
  | ended result => exact h e (Option.some.inj hverdict)
  | step wrap s => cases hverdict
  | andThen first second ihFirst ihSecond =>
    unfold verdict? at hverdict
    split at hverdict
    · exact ihSecond h.2 hverdict
    · exact ihFirst h.1 hverdict
  | beside inOrder first second ihFirst ihSecond =>
    unfold verdict? at hverdict
    split at hverdict
    next => exact ihSecond h.2 hverdict
    next hfirst => exact ihFirst h.1 (hfirst.trans hverdict)
    next hsecond =>
      split at hverdict
      · cases hverdict
      · exact ihSecond h.2 (hsecond.trans hverdict)
    next => cases hverdict

theorem failsBy_settle (h : change.FailsBy p) {schedule : Schedule} {count turn : Nat}
    {others : List FileStep} {tree : FileTree} {e : ε}
    (he : (settle schedule count turn others change tree).2 = .error e) : p e := by
  fun_induction settle schedule count turn others change tree with
  | case1 => cases he
  | case2 count turn others change tree e' hverdict =>
    obtain rfl := Except.error.inj he
    exact h.of_verdict? hverdict
  | case3 count turn others change tree hopen underway place hplace made next left ih =>
    exact ih ((isUnderway_of_mem (List.getElem_mem hplace)).failsBy h _) he

theorem FailsBy.run (h : change.FailsBy p) {schedule : Schedule} {tree : FileTree} {e : ε}
    (he : (change.run schedule tree).2 = .error e) : p e :=
  failsBy_settle h he

end FailsBy

/-! ### Failures that come first -/

section First

variable {change : Change ε} {e : ε}

/-- Nothing is under way yet when a change has failed from the start. -/
theorem run_of_verdict?_eq_error (h : change.verdict? = some (.error e)) (schedule : Schedule)
    (tree : FileTree) : change.run schedule tree = (tree, .error e) := by
  have hfinish : finish schedule 0 [] tree = tree := by
    rw [finish]
    simp
  rw [run, settle]
  split
  next hok => cases h.symm.trans hok
  next e' he' =>
    obtain rfl := Except.error.inj (Option.some.inj (h.symm.trans he'))
    rw [hfinish]
  next hopen => cases h.symm.trans hopen

theorem run_fail (e : ε) (schedule : Schedule) (tree : FileTree) :
    (fail e).run schedule tree = (tree, .error e) :=
  run_of_verdict?_eq_error rfl schedule tree

/-- A change that has failed already ends a join before anything is changed. -/
theorem run_join_fail_cons (e : ε) (rest : List (Change ε)) (schedule : Schedule)
    (tree : FileTree) : (join (fail e :: rest)).run schedule tree = (tree, .error e) := by
  apply run_of_verdict?_eq_error
  rw [join, besideAll, verdict?, fail, verdict?]

end First

end Change

end ClusterPlan
