import ClusterPlan.Program.Session
import Mathlib.Order.Defs.Unbundled

/-!
# Sessions that go on

A session only ever gets longer: what is done next adds its calls behind those made before. A
program that cannot be found adds none.
-/

namespace ClusterPlan.Session

/-- The second session has the calls of the first, and then only calls of a kind. -/
def Continues (q : Program.Call → Prop) (s after : Session) : Prop :=
  ∃ more, after.calls = s.calls ++ more ∧ ∀ call ∈ more, q call

section Continues

variable {q : Program.Call → Prop} {s middle after : Session} {programs : Programs}
  {call : Program.Call}

theorem continues_of_calls_eq (h : after.calls = s.calls) : Continues q s after :=
  ⟨[], by rw [h, List.append_nil], nofun⟩

theorem Continues.refl (s : Session) : Continues q s s := continues_of_calls_eq rfl

theorem Continues.trans (h : Continues q s middle) (h' : Continues q middle after) :
    Continues q s after := by
  obtain ⟨more, hmiddle, hmore⟩ := h
  obtain ⟨others, hafter, hothers⟩ := h'
  refine ⟨more ++ others, ?_, ?_⟩
  · rw [hafter, hmiddle, List.append_assoc]
  · intro call hcall
    exact (List.mem_append.mp hcall).elim (hmore call) (hothers call)

theorem Continues.mono {r : Program.Call → Prop} (h : Continues q s after)
    (hqr : ∀ call, q call → r call) : Continues r s after := by
  obtain ⟨more, hafter, hmore⟩ := h
  exact ⟨more, hafter, fun call hcall ↦ hqr call (hmore call hcall)⟩

/-- A kind that all calls of a session are of. -/
theorem Continues.forall_calls (h : Continues q s after) (hs : ∀ call ∈ s.calls, q call) :
    ∀ call ∈ after.calls, q call := by
  obtain ⟨more, hafter, hmore⟩ := h
  intro call hcall
  rw [hafter] at hcall
  exact (List.mem_append.mp hcall).elim (hs call) (hmore call)

theorem start_of_missing (h : programs.ending s.calls call = .missing) :
    s.start programs call = (s, .missing) := by
  unfold start
  rw [h]

theorem calls_start_of_ne_missing (h : programs.ending s.calls call ≠ .missing) :
    (s.start programs call).1.calls = s.calls ++ [call] := by
  unfold start
  split
  next hmissing => exact absurd hmissing h
  next => rfl

theorem continues_start (h : q call) : Continues q s (s.start programs call).1 := by
  by_cases hmissing : programs.ending s.calls call = .missing
  · rw [start_of_missing hmissing]
    exact Continues.refl s
  · exact ⟨[call], calls_start_of_ne_missing hmissing, by simpa using h⟩

theorem continues_run (h : q call) : Continues q s (s.run programs call).1 := continues_start h

end Continues

end ClusterPlan.Session
