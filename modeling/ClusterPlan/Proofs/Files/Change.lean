import ClusterPlan.Proofs.Files.Outcomes

/-!
# Changes that succeed

A change that succeeds has made all of its steps, in an order that its schedule has decided: what
comes first in a chain is made first, and what is made side by side is shuffled. So whatever one of
its steps brings about and every step keeps holds at the end, under every schedule.
-/

namespace ClusterPlan

/-- The third list is made of the first two, both in their order. -/
inductive Shuffles {α : Type} : List α → List α → List α → Prop where
  | nil : Shuffles [] [] []
  | left {x : α} {xs ys zs : List α} (h : Shuffles xs ys zs) : Shuffles (x :: xs) ys (x :: zs)
  | right {y : α} {xs ys zs : List α} (h : Shuffles xs ys zs) : Shuffles xs (y :: ys) (y :: zs)

namespace Shuffles

variable {α : Type} {xs ys zs : List α}

theorem swap (h : Shuffles xs ys zs) : Shuffles ys xs zs := by
  induction h with
  | nil => exact .nil
  | left h ih => exact .right ih
  | right h ih => exact .left ih

/-- One list may come as a whole before the other. -/
theorem append (xs ys : List α) : Shuffles xs ys (xs ++ ys) := by
  induction xs with
  | nil =>
    induction ys with
    | nil => exact .nil
    | cons y ys ih => exact .right ih
  | cons x xs ih => exact .left ih

theorem perm (h : Shuffles xs ys zs) : zs.Perm (xs ++ ys) := by
  induction h with
  | nil => exact .refl _
  | left h ih => exact ih.cons _
  | right h ih => exact (ih.cons _).trans List.perm_middle.symm

theorem sublist_left (h : Shuffles xs ys zs) : xs.Sublist zs := by
  induction h with
  | nil => exact .slnil
  | left h ih => exact ih.cons_cons _
  | right h ih => exact ih.cons _

theorem sublist_right (h : Shuffles xs ys zs) : ys.Sublist zs := by
  induction h with
  | nil => exact .slnil
  | left h ih => exact ih.cons _
  | right h ih => exact ih.cons_cons _

end Shuffles

namespace FileStep

/-- The steps succeed one after the other. -/
def Performs : List FileStep → FileTree → FileTree → Prop
  | [], tree, after => tree = after
  | step :: rest, tree, after =>
    ∃ middle, step.perform tree = .ok middle ∧ Performs rest middle after

section Performs

variable {steps more : List FileStep} {step : FileStep} {tree after : FileTree}
  {P Q : FileTree → Prop}

theorem performs_append : Performs (steps ++ more) tree after ↔
    ∃ middle, Performs steps tree middle ∧ Performs more middle after := by
  induction steps generalizing tree with
  | nil => simp [Performs]
  | cons first rest ih =>
    simp only [List.cons_append, Performs, ih]
    constructor
    · rintro ⟨next, hfirst, middle, hrest, hmore⟩
      exact ⟨middle, ⟨next, hfirst, hrest⟩, hmore⟩
    · rintro ⟨middle, ⟨next, hfirst, hrest⟩, hmore⟩
      exact ⟨next, hfirst, middle, hrest, hmore⟩

/-- What every step keeps is there at the end. -/
theorem stays_of_performs (h : Performs steps tree after)
    (hkeeps : ∀ step ∈ steps, step.Keeps fun tree after ↦ P tree → P after) (hP : P tree) :
    P after := by
  induction steps generalizing tree with
  | nil =>
    obtain rfl : tree = after := h
    exact hP
  | cons first rest ih =>
    obtain ⟨middle, hfirst, hrest⟩ := h
    rw [List.forall_mem_cons] at hkeeps
    exact ih hrest hkeeps.2 (hkeeps.1 tree middle hfirst hP)

/-- What one step brings about and every step keeps is there at the end. -/
theorem holds_of_performs (h : Performs steps tree after) (hstep : step ∈ steps)
    (hQ : Q tree) (hkeepsQ : ∀ step ∈ steps, step.Keeps fun tree after ↦ Q tree → Q after)
    (hmakes : ∀ tree after, Q tree → step.perform tree = .ok after → P after)
    (hkeeps : ∀ step ∈ steps, step.Keeps fun tree after ↦ P tree → P after) : P after := by
  induction steps generalizing tree with
  | nil => cases hstep
  | cons first rest ih =>
    obtain ⟨middle, hfirst, hrest⟩ := h
    rw [List.forall_mem_cons] at hkeeps hkeepsQ
    rcases List.mem_cons.mp hstep with rfl | hstep
    · exact stays_of_performs hrest hkeeps.2 (hmakes tree middle hQ hfirst)
    · exact ih hrest hstep (hkeepsQ.1 tree middle hfirst hQ) hkeepsQ.2 hkeeps.2

/-- The same where an earlier step has to come before it. -/
theorem holds_of_performs_pair {first second : FileStep} (h : Performs steps tree after)
    (hsteps : [first, second].Sublist steps)
    (hfirst : ∀ tree after, first.perform tree = .ok after → Q after)
    (hkeepsQ : ∀ step ∈ steps, step.Keeps fun tree after ↦ Q tree → Q after)
    (hsecond : ∀ tree after, Q tree → second.perform tree = .ok after → P after)
    (hkeeps : ∀ step ∈ steps, step.Keeps fun tree after ↦ P tree → P after) : P after := by
  induction steps generalizing tree with
  | nil => cases hsteps
  | cons step rest ih =>
    obtain ⟨middle, hstep, hrest⟩ := h
    rw [List.forall_mem_cons] at hkeeps hkeepsQ
    cases hsteps with
    | cons _ hlater => exact ih hrest hlater hkeepsQ.2 hkeeps.2
    | cons_cons _ hlater =>
      have hmem : second ∈ rest := List.singleton_sublist.mp hlater
      exact holds_of_performs hrest hmem (hfirst tree middle hstep) hkeepsQ.2 hsecond hkeeps.2

end Performs

end FileStep

namespace Change

variable {ε : Type}

/-- The change succeeds on the first tree and leaves the second, under some schedule. -/
def Makes (change : Change ε) (tree after : FileTree) : Prop :=
  ∃ schedule, change.run schedule tree = (after, .ok ())

/-- The steps of the change in an order in which they can end when none of them fails. -/
def Admits : Change ε → List FileStep → Prop
  | ended result, order => result = .ok () ∧ order = []
  | step _ s, order => order = [s]
  | andThen first second, order =>
    ∃ before after, first.Admits before ∧ second.Admits after ∧ order = before ++ after
  | beside _ first second, order =>
    ∃ one other, first.Admits one ∧ second.Admits other ∧ Shuffles one other order

/-- No failure is written into the change. -/
def Sound : Change ε → Prop
  | ended result => result = .ok ()
  | step .. => True
  | andThen first second => first.Sound ∧ second.Sound
  | beside _ first second => first.Sound ∧ second.Sound

section Orders

variable {change first second : Change ε} {changes : List (Change ε)} {u : Underway ε}
  {order : List FileStep} {s : FileStep} {tree after : FileTree}

/-! ### Orders of steps -/

theorem Admits.sound (h : change.Admits order) : change.Sound := by
  induction change generalizing order with
  | ended result => exact h.1
  | step wrap s => trivial
  | andThen first second ihFirst ihSecond =>
    obtain ⟨before, after, hbefore, hafter, -⟩ := h
    exact ⟨ihFirst hbefore, ihSecond hafter⟩
  | beside inOrder first second ihFirst ihSecond =>
    obtain ⟨one, other, hone, hother, -⟩ := h
    exact ⟨ihFirst hone, ihSecond hother⟩

/-- Without failures the steps end in some order. -/
theorem Sound.exists_admits (h : change.Sound) : ∃ order, change.Admits order := by
  induction change with
  | ended result => exact ⟨[], h, rfl⟩
  | step wrap s => exact ⟨[s], rfl⟩
  | andThen first second ihFirst ihSecond =>
    obtain ⟨before, hbefore⟩ := ihFirst h.1
    obtain ⟨after, hafter⟩ := ihSecond h.2
    exact ⟨before ++ after, before, after, hbefore, hafter, rfl⟩
  | beside inOrder first second ihFirst ihSecond =>
    obtain ⟨one, hone⟩ := ihFirst h.1
    obtain ⟨other, hother⟩ := ihSecond h.2
    exact ⟨one ++ other, one, other, hone, hother, .append one other⟩

theorem Admits.perm (h : change.Admits order) : order.Perm change.steps := by
  induction change generalizing order with
  | ended result => rw [h.2, steps]
  | step wrap s => rw [h, steps]
  | andThen first second ihFirst ihSecond =>
    obtain ⟨before, after, hbefore, hafter, rfl⟩ := h
    exact (ihFirst hbefore).append (ihSecond hafter)
  | beside inOrder first second ihFirst ihSecond =>
    obtain ⟨one, other, hone, hother, hshuffle⟩ := h
    exact hshuffle.perm.trans ((ihFirst hone).append (ihSecond hother))

/-- Each of the changes side by side has its steps in an order of its own. -/
theorem exists_sublist_of_admits_besideAll {inOrder : Bool} (hchange : change ∈ changes)
    (h : (besideAll inOrder changes).Admits order) :
    ∃ own, change.Admits own ∧ own.Sublist order := by
  induction changes generalizing order with
  | nil => cases hchange
  | cons first rest ih =>
    obtain ⟨one, other, hone, hother, hshuffle⟩ := h
    rcases List.mem_cons.mp hchange with rfl | hchange
    · exact ⟨one, hone, hshuffle.sublist_left⟩
    · obtain ⟨own, hown, hsublist⟩ := ih hchange hother
      exact ⟨own, hown, hsublist.trans hshuffle.sublist_right⟩

theorem exists_sublist_of_admits_join (hchange : change ∈ changes)
    (h : (join changes).Admits order) : ∃ own, change.Admits own ∧ own.Sublist order :=
  exists_sublist_of_admits_besideAll hchange h

/-! ### Changes without failures -/

theorem not_sound_fail (e : ε) : ¬(fail e).Sound := nofun

theorem sound_besideAll_iff {inOrder : Bool} :
    (besideAll inOrder changes).Sound ↔ ∀ change ∈ changes, change.Sound := by
  induction changes with
  | nil => simp [besideAll, done, Sound]
  | cons change rest ih => simp [besideAll, Sound, ih]

theorem sound_join_iff : (join changes).Sound ↔ ∀ change ∈ changes, change.Sound :=
  sound_besideAll_iff

theorem Sound.verdict?_ne_error (h : change.Sound) (e : ε) :
    change.verdict? ≠ some (.error e) := by
  induction change with
  | ended result =>
    obtain rfl : result = .ok () := h
    intro hend
    cases hend
  | step wrap s =>
    intro hend
    cases hend
  | andThen first second ihFirst ihSecond =>
    unfold verdict?
    split
    · exact ihSecond h.2
    · exact ihFirst h.1
  | beside inOrder first second ihFirst ihSecond =>
    unfold verdict?
    split
    next => exact ihSecond h.2
    next hfirst => exact hfirst ▸ ihFirst h.1
    next hsecond =>
      split
      · intro hend
        cases hend
      · exact hsecond ▸ ihSecond h.2
    next =>
      intro hend
      cases hend

/-- What is left of a change without failures has none when a step has succeeded. -/
theorem IsUnderway.sound (h : change.IsUnderway u) (hchange : change.Sound) :
    (u.next (.ok ())).Sound := by
  induction h with
  | step wrap s => rfl
  | second hfirst h ih => exact ih hchange.2
  | first h ih => exact ⟨ih hchange.1, hchange.2⟩
  | left h ih => exact ⟨ih hchange.1, hchange.2⟩
  | right h ih => exact ⟨hchange.1, ih hchange.2⟩

/-! ### Runs that succeed -/

theorem admits_nil_of_verdict? (h : change.verdict? = some (.ok ())) : change.Admits [] := by
  induction change with
  | ended result => exact ⟨Option.some.inj h, rfl⟩
  | step wrap s => cases h
  | andThen first second ihFirst ihSecond =>
    unfold verdict? at h
    split at h
    next hfirst => exact ⟨[], [], ihFirst hfirst, ihSecond h, rfl⟩
    next hfirst => exact absurd h hfirst
  | beside inOrder first second ihFirst ihSecond =>
    unfold verdict? at h
    split at h
    next hfirst => exact ⟨[], [], ihFirst hfirst, ihSecond h, .nil⟩
    next => cases h
    next =>
      split at h
      · cases h
      · cases h
    next => cases h

/-- A step that succeeds comes before what is left. -/
theorem IsUnderway.admits (h : change.IsUnderway u) (hrest : (u.next (.ok ())).Admits order) :
    change.Admits (u.step :: order) := by
  induction h generalizing order with
  | step wrap s =>
    obtain ⟨-, rfl⟩ := hrest
    rfl
  | second hfirst h ih => exact ⟨[], _, admits_nil_of_verdict? hfirst, ih hrest, rfl⟩
  | first h ih =>
    obtain ⟨before, after, hbefore, hafter, rfl⟩ := hrest
    exact ⟨_, after, ih hbefore, hafter, rfl⟩
  | left h ih =>
    obtain ⟨one, other, hone, hother, hshuffle⟩ := hrest
    exact ⟨_, other, ih hone, hother, hshuffle.left⟩
  | right h ih =>
    obtain ⟨one, other, hone, hother, hshuffle⟩ := hrest
    exact ⟨one, _, hone, ih hother, hshuffle.right⟩

/-- After a step that has failed nothing succeeds. -/
theorem IsUnderway.not_sound_error (h : change.IsUnderway u) (fault : FileFault) :
    ¬(u.next (.error fault)).Sound := by
  induction h with
  | step wrap s => exact nofun
  | second hfirst h ih => exact ih
  | first h ih => exact fun hsound ↦ ih hsound.1
  | left h ih => exact fun hsound ↦ ih hsound.1
  | right h ih => exact fun hsound ↦ ih hsound.2

theorem exists_order_of_settle {schedule : Schedule} {count turn : Nat} {others : List FileStep}
    (h : settle schedule count turn others change tree = (after, .ok ())) :
    ∃ order, change.Admits order ∧ FileStep.Performs order tree after := by
  fun_induction settle schedule count turn others change tree with
  | case1 count turn others change tree hverdict =>
    obtain rfl := congrArg Prod.fst h
    exact ⟨[], admits_nil_of_verdict? hverdict, rfl⟩
  | case2 => cases congrArg Prod.snd h
  | case3 count turn others change tree hopen underway place hplace made next left ih =>
    have hunder := isUnderway_of_mem (List.getElem_mem hplace)
    obtain ⟨order, hadmits, hperforms⟩ := ih h
    change (underway[place].next made.2).Admits order at hadmits
    cases hstep : underway[place].step.perform tree with
    | ok middle =>
      have hmade : made = (middle, .ok ()) := FileStep.attempt_of_perform hstep
      rw [hmade] at hadmits hperforms
      exact ⟨_, hunder.admits hadmits, middle, hstep, hperforms⟩
    | error fault =>
      have hmade : made = (tree, .error fault) := FileStep.attempt_of_perform_eq_error hstep
      rw [hmade] at hadmits
      exact absurd hadmits.sound (hunder.not_sound_error fault)

/-- A change that succeeds has made all of its steps in an order that it admits. -/
theorem Makes.exists_order (h : change.Makes tree after) :
    ∃ order, change.Admits order ∧ FileStep.Performs order tree after := by
  obtain ⟨schedule, hrun⟩ := h
  exact exists_order_of_settle hrun

theorem Makes.sound (h : change.Makes tree after) : change.Sound := by
  obtain ⟨order, hadmits, -⟩ := h.exists_order
  exact hadmits.sound

theorem Keeps.of_makes {R : FileTree → FileTree → Prop} [IsPreorder FileTree R]
    (hkeeps : change.Keeps R) (h : change.Makes tree after) : R tree after := by
  obtain ⟨schedule, hrun⟩ := h
  have hafter := hkeeps.run schedule tree
  rwa [hrun] at hafter

/-! ### Orders that schedules lead to -/

theorem steps_eq_nil_of_verdict? (h : change.verdict? = some (.ok ())) : change.steps = [] := by
  induction change with
  | ended result => rfl
  | step wrap s => cases h
  | andThen first second ihFirst ihSecond =>
    unfold verdict? at h
    split at h
    next hfirst => rw [steps, ihFirst hfirst, ihSecond h, List.append_nil]
    next hfirst => exact absurd h hfirst
  | beside inOrder first second ihFirst ihSecond =>
    unfold verdict? at h
    split at h
    next hfirst => rw [steps, ihFirst hfirst, ihSecond h, List.append_nil]
    next => cases h
    next =>
      split at h
      · cases h
      · cases h
    next => cases h

/-- What has no steps left has ended. -/
theorem Admits.verdict?_eq_ok (h : change.Admits []) : change.verdict? = some (.ok ()) := by
  induction change with
  | ended result => rw [verdict?, h.1]
  | step wrap s => cases h
  | andThen first second ihFirst ihSecond =>
    obtain ⟨before, after, hbefore, hafter, happend⟩ := h
    obtain ⟨rfl, rfl⟩ := List.nil_eq_append_iff.mp happend
    rw [verdict?, ihFirst hbefore]
    exact ihSecond hafter
  | beside inOrder first second ihFirst ihSecond =>
    obtain ⟨one, other, hone, hother, hshuffle⟩ := h
    cases hshuffle
    rw [verdict?, ihFirst hone]
    exact ihSecond hother

theorem Admits.verdict?_eq_none (h : change.Admits (s :: order)) : change.verdict? = none := by
  cases hverdict : change.verdict? with
  | none => rfl
  | some result =>
    cases result with
    | error e => exact absurd hverdict (h.sound.verdict?_ne_error e)
    | ok _ =>
      have hperm := h.perm
      rw [steps_eq_nil_of_verdict? hverdict] at hperm
      exact absurd hperm.eq_nil (List.cons_ne_nil _ _)

/-- The first step of an order is under way. -/
theorem Admits.exists_underway (h : change.Admits (s :: order)) :
    ∃ u ∈ change.underway, u.step = s ∧ (u.next (.ok ())).Admits order := by
  induction change generalizing order with
  | ended result => cases h.2
  | step wrap t =>
    obtain ⟨rfl, rfl⟩ := List.cons.inj h
    exact ⟨_, .head _, rfl, rfl, rfl⟩
  | andThen first second ihFirst ihSecond =>
    obtain ⟨before, after, hbefore, hafter, happend⟩ := h
    cases before with
    | nil =>
      obtain rfl : s :: order = after := happend
      rw [underway, hbefore.verdict?_eq_ok]
      exact ihSecond hafter
    | cons t before =>
      obtain ⟨rfl, rfl⟩ := List.cons.inj happend
      obtain ⟨u, hu, hstep, hnext⟩ := ihFirst hbefore
      rw [underway, hbefore.verdict?_eq_none]
      exact ⟨_, List.mem_map_of_mem hu, hstep, before, after, hnext, hafter, rfl⟩
  | beside inOrder first second ihFirst ihSecond =>
    have hopen := h.verdict?_eq_none
    obtain ⟨one, other, hone, hother, hshuffle⟩ := h
    rw [underway, hopen]
    cases hshuffle with
    | left hshuffle =>
      obtain ⟨u, hu, hstep, hnext⟩ := ihFirst hone
      exact ⟨_, List.mem_append_left _ (List.mem_map_of_mem hu), hstep, _, other, hnext, hother,
        hshuffle⟩
    | right hshuffle =>
      obtain ⟨u, hu, hstep, hnext⟩ := ihSecond hother
      exact ⟨_, List.mem_append_right _ (List.mem_map_of_mem hu), hstep, one, _, hone, hnext,
        hshuffle⟩

/-- A schedule can have any step that is under way end next. -/
theorem exists_turn (turn : Nat) {place count : Nat} (h : place < count) :
    ∃ passed, (turn + passed) % count = place := by
  refine ⟨place + (count - turn % count), ?_⟩
  have hlt := Nat.mod_lt turn (Nat.zero_lt_of_lt h)
  calc
    (turn + (place + (count - turn % count))) % count
      = (turn % count + (place + (count - turn % count))) % count := by
        rw [Nat.mod_add_mod]
    _ = (place + count) % count := by
        congr 1
        omega
    _ = place := by
        rw [Nat.add_mod_right, Nat.mod_eq_of_lt h]

theorem settle_of_perform {schedule : Schedule} {count turn place : Nat} {others : List FileStep}
    {middle : FileTree} (hopen : change.verdict? = none) (hplace : place < change.underway.length)
    (hturn : (turn + schedule count) % change.underway.length = place)
    (h : change.underway[place].step.perform tree = .ok middle) :
    settle schedule count turn others change tree =
      settle schedule (count + 1)
        (place + ((change.underway[place].next (.ok ())).underway.length -
          (change.underway.eraseIdx place).length))
        ((change.underway.eraseIdx place).map (·.step))
        (change.underway[place].next (.ok ())) middle := by
  subst hturn
  rw [settle]
  split
  next hverdict => cases hopen.symm.trans hverdict
  next hverdict => cases hopen.symm.trans hverdict
  next => simp only [FileStep.attempt_of_perform h]

theorem settle_of_verdict? {schedule : Schedule} {count turn : Nat} {others : List FileStep}
    (h : change.verdict? = some (.ok ())) :
    settle schedule count turn others change tree = (tree, .ok ()) := by
  rw [settle]
  split
  next => rfl
  next hverdict => cases h.symm.trans hverdict
  next hverdict => cases h.symm.trans hverdict

/-- An order of all steps is made by some schedule. -/
theorem Admits.exists_picks (hadmits : change.Admits order)
    (hperforms : FileStep.Performs order tree after) (count turn : Nat) (others : List FileStep) :
    ∃ picks : List Nat, ∀ schedule : Schedule,
      (∀ i (h : i < picks.length), schedule (count + i) = picks[i]) →
        settle schedule count turn others change tree = (after, .ok ()) := by
  induction order generalizing change tree count turn others with
  | nil =>
    obtain rfl : tree = after := hperforms
    refine ⟨[], fun schedule _ ↦ ?_⟩
    exact settle_of_verdict? hadmits.verdict?_eq_ok
  | cons s order ih =>
    obtain ⟨middle, hfirst, hrest⟩ := hperforms
    obtain ⟨u, hu, rfl, hnext⟩ := hadmits.exists_underway
    obtain ⟨place, hplace, rfl⟩ := List.mem_iff_getElem.mp hu
    obtain ⟨passed, hpassed⟩ := exists_turn turn hplace
    obtain ⟨picks, hpicks⟩ := ih hnext hrest (count + 1) _ _
    refine ⟨passed :: picks, fun schedule hschedule ↦ ?_⟩
    have hturn : (turn + schedule count) % change.underway.length = place := by
      rw [← hpassed]
      exact congrArg (fun n ↦ (turn + n) % _) (hschedule 0 (Nat.zero_lt_succ _))
    rw [settle_of_perform hadmits.verdict?_eq_none hplace hturn hfirst]
    apply hpicks
    intro i hi
    have hlater := hschedule (i + 1) (Nat.succ_lt_succ hi)
    rwa [List.getElem_cons_succ, ← Nat.add_assoc, Nat.add_right_comm] at hlater

/-- The runs that succeed are those of the orders that the change admits. -/
theorem makes_iff : change.Makes tree after ↔
    ∃ order, change.Admits order ∧ FileStep.Performs order tree after := by
  constructor
  · exact Makes.exists_order
  · rintro ⟨order, hadmits, hperforms⟩
    obtain ⟨picks, hpicks⟩ := hadmits.exists_picks hperforms 0 0 []
    refine ⟨fun n ↦ picks[n]?.getD 0, hpicks _ fun i hi ↦ ?_⟩
    rw [Nat.zero_add, List.getElem?_eq_getElem hi, Option.getD_some]

/-! ### Changes that cannot fail -/

theorem exists_settle_of_keeps {P : FileTree → Prop} (hsound : change.Sound)
    (hsteps : ∀ s ∈ change.steps, ∀ tree, P tree → ∃ after, s.perform tree = .ok after ∧ P after)
    (schedule : Schedule) (count turn : Nat) (others : List FileStep) (hP : P tree) :
    ∃ after, settle schedule count turn others change tree = (after, .ok ()) ∧ P after := by
  fun_induction settle schedule count turn others change tree with
  | case1 count turn others change tree => exact ⟨tree, rfl, hP⟩
  | case2 count turn others change tree e hverdict =>
    exact absurd hverdict (hsound.verdict?_ne_error e)
  | case3 count turn others change tree hopen underway place hplace made next left ih =>
    have hunder := isUnderway_of_mem (List.getElem_mem hplace)
    obtain ⟨after, hafter, hPafter⟩ := hsteps _ hunder.mem_steps tree hP
    have hmade : made = (after, .ok ()) := FileStep.attempt_of_perform hafter
    have hnext : next.Sound := by
      change (underway[place].next made.2).Sound
      rw [hmade]
      exact hunder.sound hsound
    rw [hmade] at ih ⊢
    exact ih hnext (fun s hs ↦ hsteps s (hunder.steps_subset _ hs)) hPafter

/-- Where each step succeeds and leaves a tree from which all succeed, the change succeeds. -/
theorem exists_run_of_keeps {P : FileTree → Prop} (hsound : change.Sound)
    (hsteps : ∀ s ∈ change.steps, ∀ tree, P tree → ∃ after, s.perform tree = .ok after ∧ P after)
    (schedule : Schedule) (hP : P tree) :
    ∃ after, change.run schedule tree = (after, .ok ()) ∧ P after :=
  exists_settle_of_keeps hsound hsteps schedule 0 0 [] hP

/-- Where every step would leave the tree as it is, the change succeeds and leaves it. -/
theorem run_of_settled (hsound : change.Sound)
    (hsteps : ∀ s ∈ change.steps, s.perform tree = .ok tree) (schedule : Schedule) :
    change.run schedule tree = (tree, .ok ()) := by
  obtain ⟨after, hrun, rfl⟩ := exists_run_of_keeps hsound (P := (· = tree))
    (fun s hs _ htree ↦ ⟨tree, htree ▸ hsteps s hs, rfl⟩) schedule rfl
  exact hrun

end Orders

end Change

end ClusterPlan
