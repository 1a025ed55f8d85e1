import ClusterPlan.Proofs.Activity
import ClusterPlan.Proofs.Except
import ClusterPlan.Template.Render

/-!
# Templates of one expression

Evaluations are timed, whatever the functions answer and however long they take. So a template
that is one expression and nothing else is rendered by this expression alone: with the same calls
at the same times, and with the same end.
-/

namespace ClusterPlan.Template

open Activity

section Evaluation

variable (functions : Functions) (context : Context)

theorem timed_functionCall (callee : Value) (arguments : List Value) :
    (functions.call callee arguments).Timed := by
  unfold Functions.call
  cases callee with
  | function name => exact timed_call _ _ _
  | _ => exact timed_fail _

mutual

theorem Expr.timed_evaluate : ∀ e : Expr, (e.evaluate functions context).Timed
  | .literal l => by
    rw [evaluate]
    exact timed_pure _
  | .ident name => by
    rw [evaluate]
    exact timed_ofExcept _
  | .array items => by
    rw [evaluate]
    exact (timed_join (timed_evaluateAll items)).andThen fun _ ↦ timed_pure _
  | .object fields => by
    rw [evaluate]
    exact (timed_join (timed_evaluateFields fields)).andThen fun _ ↦ timed_pure _
  | .member target name => by
    rw [evaluate]
    exact (timed_evaluate target).andThen fun _ ↦ timed_ofExcept _
  | .index target key => by
    rw [evaluate]
    exact (timed_evaluate target).andThen fun _ ↦
      (timed_evaluate key).andThen fun _ ↦ timed_ofExcept _
  | .call callee arguments => by
    rw [evaluate]
    refine (timed_evaluate callee).andThen fun value ↦ ?_
    cases value with
    | function name =>
      exact (timed_join (timed_evaluateAll arguments)).andThen fun values ↦
        timed_functionCall functions _ values
    | _ => exact timed_fail _
  | .unary op operand => by
    rw [evaluate]
    exact (timed_evaluate operand).andThen fun _ ↦ timed_ofExcept _
  | .binary op left right => by
    rw [evaluate]
    refine (timed_evaluate left).andThen fun a ↦ ?_
    split
    · exact timed_pure a
    · exact (timed_evaluate right).andThen fun _ ↦ timed_ofExcept _
  | .conditional condition yes no => by
    rw [evaluate]
    refine (timed_evaluate condition).andThen fun value ↦ ?_
    split
    · exact timed_evaluate yes
    · exact timed_evaluate no

theorem Expr.timed_evaluateAll : ∀ items : List Expr,
    ∀ x ∈ evaluateAll functions context items, x.Timed
  | [] => by simp [evaluateAll]
  | e :: rest => by
    rw [evaluateAll, List.forall_mem_cons]
    exact ⟨timed_evaluate e, timed_evaluateAll rest⟩

theorem Expr.timed_evaluateFields : ∀ fields : List (String × Expr),
    ∀ x ∈ evaluateFields functions context fields, x.Timed
  | [] => by simp [evaluateFields]
  | (_, e) :: rest => by
    rw [evaluateFields, List.forall_mem_cons]
    exact ⟨timed_evaluate e, timed_evaluateFields rest⟩

end

theorem Piece.timed_render (options : Options) (piece : Piece) :
    (piece.render options functions context).Timed := by
  cases piece with
  | text s => exact timed_pure s
  | expr source tree =>
    refine (tree.timed_evaluate functions context).andThen fun value ↦ ?_
    dsimp only
    split
    · exact timed_fail _
    · exact timed_pure _

end Evaluation

section Single

variable {source template : String} {e : Expr}

theorem ofSegments_of_lex_eq_dynamic (hparse : Expr.parse source = .ok e)
    (hlex : Segment.lex template = .ok [.dynamic source]) :
    (lex template).bind Piece.ofSegments = .ok [.expr source e] := by
  have hpiece : Piece.ofSegment (.dynamic source) = .ok (.expr source e) := by
    simp [Piece.ofSegment, parseSource, hparse, Except.map]
  have hlexed : lex template = .ok [.dynamic source] := Except.mapError_eq_ok_iff.mpr hlex
  simp [hlexed, Except.bind, Piece.ofSegments, hpiece, Except.map]

theorem renderPieces_of_lex_eq_dynamic (hparse : Expr.parse source = .ok e)
    (hlex : Segment.lex template = .ok [.dynamic source]) (options : Options)
    (functions : Functions) (context : Context) :
    renderPieces options functions context template =
      (Piece.expr source e).render options functions context := by
  have htimed := Piece.timed_render functions context options (.expr source e)
  rw [renderPieces, ofSegments_of_lex_eq_dynamic hparse hlex]
  simp only [List.map_cons, List.map_nil]
  -- The join is the piece alone, and joining the one text gives this text back.
  rw [htimed.join_singleton, andThen_assoc]
  simp only [pure_andThen, String.join_cons, String.join_nil, String.append_empty]
  exact andThen_pure _

end Single

end ClusterPlan.Template
