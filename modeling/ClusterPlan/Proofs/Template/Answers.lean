import ClusterPlan.Proofs.Determined
import ClusterPlan.Template.Render

/-!
# Answers that a rendering depends on

A template that has been rendered is rendered in the same way by all functions that answer the calls
which were made as they were answered. Calls that were not made are of no account: they may be to
functions that depend on files, or to functions that are not there.
-/

namespace ClusterPlan.Template

open Activity

/-- The call is answered alike by both. -/
def AnsweredAlike (functions other : Functions) (call : Call) : Prop :=
  other call.name call.arguments = functions call.name call.arguments

section Answers

variable (functions other : Functions) (context : Context)

theorem Functions.determines_call (name : String) (values : List Value) :
    (functions.call (.function name) values).Determines (AnsweredAlike functions other)
      (other.call (.function name) values) := by
  rintro - hcalls
  have hanswer : other name values = functions name values :=
    hcalls (0, ⟨name, values⟩) (List.mem_singleton_self _)
  rw [call, call, hanswer]

mutual

theorem Expr.determines_evaluate : ∀ e : Expr,
    (e.evaluate functions context).Determines (AnsweredAlike functions other)
      (e.evaluate other context)
  | .literal l => by
    rw [evaluate, evaluate]
    exact determines_refl _
  | .ident name => by
    rw [evaluate, evaluate]
    exact determines_refl _
  | .array items => by
    rw [evaluate, evaluate]
    exact (determines_join (determines_evaluateAll items)).andThen fun _ _ ↦ determines_refl _
  | .object fields => by
    rw [evaluate, evaluate]
    exact (determines_join (determines_evaluateFields fields)).andThen fun _ _ ↦ determines_refl _
  | .member target name => by
    rw [evaluate, evaluate]
    exact (determines_evaluate target).andThen fun _ _ ↦ determines_refl _
  | .index target key => by
    rw [evaluate, evaluate]
    exact (determines_evaluate target).andThen fun _ _ ↦
      (determines_evaluate key).andThen fun _ _ ↦ determines_refl _
  | .call callee arguments => by
    rw [evaluate, evaluate]
    refine (determines_evaluate callee).andThen fun value _ ↦ ?_
    cases value with
    | function name =>
      exact (determines_join (determines_evaluateAll arguments)).andThen fun values _ ↦
        Functions.determines_call functions other name values
    | _ => exact determines_refl _
  | .unary op operand => by
    rw [evaluate, evaluate]
    exact (determines_evaluate operand).andThen fun _ _ ↦ determines_refl _
  | .binary op left right => by
    rw [evaluate, evaluate]
    refine (determines_evaluate left).andThen fun a _ ↦ ?_
    split
    · exact determines_refl _
    · exact (determines_evaluate right).andThen fun _ _ ↦ determines_refl _
  | .conditional condition yes no => by
    rw [evaluate, evaluate]
    refine (determines_evaluate condition).andThen fun value _ ↦ ?_
    split
    · exact determines_evaluate yes
    · exact determines_evaluate no

theorem Expr.determines_evaluateAll : ∀ items : List Expr,
    List.Forall₂ (Determines (AnsweredAlike functions other))
      (evaluateAll functions context items) (evaluateAll other context items)
  | [] => by
    rw [evaluateAll, evaluateAll]
    exact .nil
  | e :: rest => by
    rw [evaluateAll, evaluateAll]
    exact .cons (determines_evaluate e) (determines_evaluateAll rest)

theorem Expr.determines_evaluateFields : ∀ fields : List (String × Expr),
    List.Forall₂ (Determines (AnsweredAlike functions other))
      (evaluateFields functions context fields) (evaluateFields other context fields)
  | [] => by
    rw [evaluateFields, evaluateFields]
    exact .nil
  | (_, e) :: rest => by
    rw [evaluateFields, evaluateFields]
    exact .cons (determines_evaluate e) (determines_evaluateFields rest)

end

theorem determines_render (template : String) :
    (render functions context template).Determines (AnsweredAlike functions other)
      (render other context template) := by
  unfold render renderWith
  split
  · unfold renderPieces
    split
    · exact determines_refl _
    · refine (determines_join_map fun piece _ ↦ ?_).andThen fun _ _ ↦ determines_refl _
      cases piece with
      | text s => exact determines_refl _
      | expr source tree =>
        exact (tree.determines_evaluate functions other context).andThen fun _ _ ↦
          determines_refl _
  · exact determines_refl _

/-- The calls of a rendering are those of its expressions. -/
theorem callsOnly_render {q : Call → Prop} {template : String} {pieces : List Piece}
    (hpieces : (lex template).bind Piece.ofSegments = .ok pieces)
    (h : ∀ source tree, Piece.expr source tree ∈ pieces →
      (tree.evaluate functions context).CallsOnly q) :
    (render functions context template).CallsOnly q := by
  have hpiece : ∀ piece ∈ pieces, (piece.render .strict functions context).CallsOnly q := by
    intro piece hmem
    cases piece with
    | text s => exact callsOnly_pure _
    | expr source tree =>
      apply (h source tree hmem).andThen
      intro value
      dsimp only
      split
      · exact callsOnly_fail _
      · exact callsOnly_pure _
  unfold render renderWith
  split
  · unfold renderPieces
    rw [hpieces]
    exact (callsOnly_join (List.forall_mem_map.mpr hpiece)).andThen fun _ ↦ callsOnly_pure _
  · exact callsOnly_pure _

end Answers

end ClusterPlan.Template
