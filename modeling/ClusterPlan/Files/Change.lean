import ClusterPlan.Activity
import ClusterPlan.Files.Tree

/-!
# Changes of a file tree

A change is made of steps on a file tree, one after the other or side by side. Of changes that are
made side by side each has a step under way, and which of these steps ends next is decided by a
schedule. As in a join of activities, the first failure ends at most `Activity.joinLimit` changes
side by side, and among more of them a failure waits for the changes that stand before it.

What has been dropped by a failure is not begun any more. A step that is under way then is not taken
back, so it may still come to its end.
-/

namespace ClusterPlan

inductive FileStep where
  | makeDirectory (path : String)
  | writeText (path text : String)
  | setMode (path : String) (mode : Nat)
  | removeIfPresent (path : String)
  deriving Repr, DecidableEq

namespace FileStep

def path : FileStep → String
  | makeDirectory path | writeText path _ | setMode path _ | removeIfPresent path => path

/-- The tree after a step. That there is nothing to remove is no fault. -/
def perform (tree : FileTree) : FileStep → Except FileFault FileTree
  | makeDirectory path => tree.makeDirectory path
  | writeText path text => tree.writeText path text
  | setMode path mode => tree.setMode path mode
  | removeIfPresent path =>
    match tree.removeFile path with
    | .error .notFound => .ok tree
    | result => result

/-- The tree that a step leaves behind; where it fails, this is the tree as it was. -/
def attempt (tree : FileTree) (step : FileStep) : FileTree × Except FileFault Unit :=
  match step.perform tree with
  | .ok after => (after, .ok ())
  | .error fault => (tree, .error fault)

end FileStep

/-- What is left to be done of a change. With `inOrder` a failure of the second of two changes side
by side waits for the first. -/
inductive Change (ε : Type) where
  | ended (result : Except ε Unit)
  | step (wrap : FileFault → ε) (step : FileStep)
  | andThen (first second : Change ε)
  | beside (inOrder : Bool) (first second : Change ε)

namespace Change

variable {ε : Type}

def done : Change ε := ended (.ok ())

def fail (e : ε) : Change ε := ended (.error e)

def besideAll (inOrder : Bool) : List (Change ε) → Change ε
  | [] => done
  | change :: rest => change.beside inOrder (besideAll inOrder rest)

/-- Make changes side by side. -/
def join (changes : List (Change ε)) : Change ε :=
  besideAll (Activity.joinLimit < changes.length) changes

/-- All steps of a change. -/
def steps : Change ε → List FileStep
  | ended _ => []
  | step _ s => [s]
  | andThen first second => first.steps ++ second.steps
  | beside _ first second => first.steps ++ second.steps

/-- What a change has ended in, if it has ended. -/
def verdict? : Change ε → Option (Except ε Unit)
  | ended result => some result
  | step .. => none
  | andThen first second =>
    match first.verdict? with
    | some (.ok ()) => second.verdict?
    | verdict => verdict
  | beside inOrder first second =>
    match first.verdict?, second.verdict? with
    | some (.ok ()), verdict => verdict
    | some (.error e), _ => some (.error e)
    | none, some (.error e) => if inOrder then none else some (.error e)
    | none, _ => none

/-! ### Steps under way -/

/-- A step that is under way, and what is left of the whole change when it has ended. -/
structure Underway (ε : Type) where
  step : FileStep
  next : Except FileFault Unit → Change ε

def Underway.within (outer : Change ε → Change ε) (u : Underway ε) : Underway ε :=
  ⟨u.step, fun result ↦ outer (u.next result)⟩

def underway : Change ε → List (Underway ε)
  | ended _ => []
  | step wrap s => [⟨s, fun result ↦ ended (result.mapError wrap)⟩]
  | andThen first second =>
    match first.verdict? with
    | some (.ok ()) => second.underway
    | _ => first.underway.map (·.within (·.andThen second))
  | beside inOrder first second =>
    match (beside inOrder first second).verdict? with
    | some _ => []
    | none =>
      first.underway.map (·.within (beside inOrder · second)) ++
        second.underway.map (·.within (beside inOrder first))

/-- How a change comes to have a step under way. -/
inductive IsUnderway : Change ε → Underway ε → Prop where
  | step (wrap : FileFault → ε) (s : FileStep) :
    IsUnderway (.step wrap s) ⟨s, fun result ↦ ended (result.mapError wrap)⟩
  | second {first second : Change ε} {u : Underway ε} (hfirst : first.verdict? = some (.ok ()))
    (h : IsUnderway second u) : IsUnderway (first.andThen second) u
  | first {first second : Change ε} {u : Underway ε} (h : IsUnderway first u) :
    IsUnderway (first.andThen second) (u.within (·.andThen second))
  | left {inOrder : Bool} {first second : Change ε} {u : Underway ε} (h : IsUnderway first u) :
    IsUnderway (first.beside inOrder second) (u.within (beside inOrder · second))
  | right {inOrder : Bool} {first second : Change ε} {u : Underway ε} (h : IsUnderway second u) :
    IsUnderway (first.beside inOrder second) (u.within (beside inOrder first))

section Underway

variable {change : Change ε} {u : Underway ε}

theorem isUnderway_of_mem (h : u ∈ change.underway) : change.IsUnderway u := by
  induction change generalizing u with
  | ended result => cases h
  | step wrap s =>
    obtain rfl := List.mem_singleton.mp h
    exact .step wrap s
  | andThen first second ihFirst ihSecond =>
    unfold underway at h
    split at h
    next hfirst => exact .second hfirst (ihSecond h)
    next =>
      obtain ⟨v, hv, rfl⟩ := List.mem_map.mp h
      exact .first (ihFirst hv)
  | beside inOrder first second ihFirst ihSecond =>
    unfold underway at h
    split at h
    next => cases h
    next =>
      rcases List.mem_append.mp h with h | h
      · obtain ⟨v, hv, rfl⟩ := List.mem_map.mp h
        exact .left (ihFirst hv)
      · obtain ⟨v, hv, rfl⟩ := List.mem_map.mp h
        exact .right (ihSecond hv)

/-- What has not ended has a step under way. -/
theorem underway_ne_nil (h : change.verdict? = none) : change.underway ≠ [] := by
  induction change with
  | ended result => cases h
  | step wrap s => exact List.cons_ne_nil _ _
  | andThen first second ihFirst ihSecond =>
    unfold verdict? at h
    unfold underway
    split at h
    next => exact ihSecond h
    next => simpa using ihFirst h
  | beside inOrder first second ihFirst ihSecond =>
    have hboth : first.verdict? = none ∨ second.verdict? = none := by
      unfold verdict? at h
      split at h
      next => exact .inr h
      next => cases h
      next hfirst _ => exact .inl hfirst
      next hfirst _ => exact .inl hfirst
    unfold underway
    rw [h]
    rcases hboth with hfirst | hsecond
    · simp [ihFirst hfirst]
    · simp [ihSecond hsecond]

/-- When a step has ended there are fewer steps left. -/
theorem IsUnderway.length_steps_lt (h : change.IsUnderway u) (result : Except FileFault Unit) :
    (u.next result).steps.length < change.steps.length := by
  induction h with
  | step wrap s => exact Nat.zero_lt_one
  | second hfirst h ih =>
    rw [steps, List.length_append]
    exact Nat.lt_add_left _ ih
  | first h ih => simpa [Underway.within, steps] using ih
  | left h ih => simpa [Underway.within, steps] using ih
  | right h ih => simpa [Underway.within, steps] using ih

end Underway

/-! ### Running -/

/-- How many steps under way are passed over for the one that ends next, after so many have ended. -/
abbrev Schedule := Nat → Nat

/-- All that is under way ends in turn, from the first change to the last. -/
def inTurn : Schedule := fun _ ↦ 0

/-- Let steps that are under way still come to their end, as many as the schedule lets. -/
def finish (schedule : Schedule) (count : Nat) (steps : List FileStep) (tree : FileTree) :
    FileTree :=
  let place := schedule count % (steps.length + 1)
  if _found : place < steps.length then
    finish schedule (count + 1) (steps.eraseIdx place) (steps[place].attempt tree).1
  else tree
  termination_by steps.length
  decreasing_by
    rw [List.length_eraseIdx_of_lt _found]
    omega

/-- Let steps end until the change has ended. After the step whose turn it was, the turn goes past
what is begun in its place. -/
def settle (schedule : Schedule) (count turn : Nat) (others : List FileStep) (change : Change ε)
    (tree : FileTree) : FileTree × Except ε Unit :=
  match _open : change.verdict? with
  | some (.ok ()) => (tree, .ok ())
  | some (.error e) => (finish schedule count others tree, .error e)
  | none =>
    let underway := change.underway
    let place := (turn + schedule count) % underway.length
    have _found : place < underway.length :=
      Nat.mod_lt _ (List.length_pos_iff.mpr (underway_ne_nil _open))
    let made := underway[place].step.attempt tree
    let next := underway[place].next made.2
    let others := underway.eraseIdx place
    settle schedule (count + 1) (place + (next.underway.length - others.length))
      (others.map (·.step)) next made.1
  termination_by change.steps.length
  decreasing_by exact (isUnderway_of_mem (List.getElem_mem _found)).length_steps_lt _

/-- The tree that a change leaves behind, and what it ends in. -/
def run (schedule : Schedule) (change : Change ε) (tree : FileTree) : FileTree × Except ε Unit :=
  settle schedule 0 0 [] change tree

end Change

end ClusterPlan
