import ClusterPlan.Proofs.Activity
import ClusterPlan.Template.Eval

/-!
# Calls that a context allows

What is bound in a context is not all that can be called there: a function may be the field of an
object or the answer to another call. A call is reached in a context when some expression makes it.
If no call that is reached is answered after a wait, then nothing that is evaluated there waits.
-/

namespace ClusterPlan.Template

open Activity

/-- Some expression makes the call when it is evaluated in the context. -/
def Reaches (functions : Functions) (context : Context) (call : Call) : Prop :=
  ∃ e : Expr, call ∈ (e.evaluate functions context).log

/-- All that can be called in the context is answered without waiting. -/
def IsPrompt (functions : Functions) (context : Context) : Prop :=
  ∀ call, Reaches functions context call → (functions call.name call.arguments).waits = 0

section Evaluation

variable {functions : Functions} {context : Context}

theorem reaches_of_call {callee : Expr} {arguments : List Expr} {name : String}
    {values : List Value}
    (hcallee : (callee.evaluate functions context).result = .ok (.function name))
    (hvalues : (join (Expr.evaluateAll functions context arguments)).result = .ok values) :
    Reaches functions context ⟨name, values⟩ := by
  refine ⟨.call callee arguments, ?_⟩
  rw [Expr.evaluate, log_andThen hcallee]
  dsimp only
  rw [log_andThen hvalues]
  simp [Functions.call, call, log]

mutual

theorem Expr.waits_evaluate (h : IsPrompt functions context) :
    ∀ e : Expr, (e.evaluate functions context).waits = 0
  | .literal l => by
    rw [evaluate]
    rfl
  | .ident name => by
    rw [evaluate]
    rfl
  | .array items => by
    rw [evaluate]
    exact waits_andThen_eq_zero (waits_join_eq_zero (waits_evaluateAll h items)) fun _ _ ↦ rfl
  | .object fields => by
    rw [evaluate]
    exact waits_andThen_eq_zero (waits_join_eq_zero (waits_evaluateFields h fields)) fun _ _ ↦ rfl
  | .member target name => by
    rw [evaluate]
    exact waits_andThen_eq_zero (waits_evaluate h target) fun _ _ ↦ rfl
  | .index target key => by
    rw [evaluate]
    exact waits_andThen_eq_zero (waits_evaluate h target) fun _ _ ↦
      waits_andThen_eq_zero (waits_evaluate h key) fun _ _ ↦ rfl
  | .call callee arguments => by
    rw [evaluate]
    refine waits_andThen_eq_zero (waits_evaluate h callee) fun value hcallee ↦ ?_
    cases value with
    | function name =>
      refine waits_andThen_eq_zero (waits_join_eq_zero (waits_evaluateAll h arguments)) ?_
      intro values hvalues
      -- The call is made only now, with a function and arguments that have come to values.
      exact h ⟨name, values⟩ (reaches_of_call hcallee hvalues)
    | _ => rfl
  | .unary op operand => by
    rw [evaluate]
    exact waits_andThen_eq_zero (waits_evaluate h operand) fun _ _ ↦ rfl
  | .binary op left right => by
    rw [evaluate]
    refine waits_andThen_eq_zero (waits_evaluate h left) fun a _ ↦ ?_
    split
    · rfl
    · exact waits_andThen_eq_zero (waits_evaluate h right) fun _ _ ↦ rfl
  | .conditional condition yes no => by
    rw [evaluate]
    refine waits_andThen_eq_zero (waits_evaluate h condition) fun value _ ↦ ?_
    split
    · exact waits_evaluate h yes
    · exact waits_evaluate h no

theorem Expr.waits_evaluateAll (h : IsPrompt functions context) : ∀ items : List Expr,
    ∀ x ∈ evaluateAll functions context items, x.waits = 0
  | [] => by simp [evaluateAll]
  | e :: rest => by
    rw [evaluateAll, List.forall_mem_cons]
    exact ⟨waits_evaluate h e, waits_evaluateAll h rest⟩

theorem Expr.waits_evaluateFields (h : IsPrompt functions context) :
    ∀ fields : List (String × Expr), ∀ x ∈ evaluateFields functions context fields, x.waits = 0
  | [] => by simp [evaluateFields]
  | (_, e) :: rest => by
    rw [evaluateFields, List.forall_mem_cons]
    exact ⟨waits_evaluate h e, waits_evaluateFields h rest⟩

end

end Evaluation

end ClusterPlan.Template
