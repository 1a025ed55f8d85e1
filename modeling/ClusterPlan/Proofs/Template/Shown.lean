import ClusterPlan.Proofs.Sequence
import ClusterPlan.Proofs.Template.Calls
import ClusterPlan.Proofs.Template.Rendering
import ClusterPlan.Proofs.Template.Segments

/-!
# What segments show

By itself, a segment comes to a text or fails. A template is rendered when all its segments come to
texts, and then as these in order. If nothing waits, it fails otherwise as the first segment does
that fails.

This holds of all templates alike. The rendering of a text without `${`, which is left as it is,
does not differ from the one by segments.
-/

namespace ClusterPlan.Template

open Activity

section Shown

variable (options : Options) (functions : Functions) (context : Context)

/-- The value of an expression by its source. -/
def sourceValue (source : String) : Except Error Value := do
  let tree ← parseSource source
  (tree.evaluate functions context).result

/-- What a value shows in the place of its source. -/
def Value.shown (source : String) (value : Value) : Except Error String :=
  if value.text = "undefined" ∧ options.allowUndefined = false then
    .error (.undefined (Text.trim source))
  else .ok value.text

/-- The text that a segment comes to by itself. -/
def Segment.shown : Segment → Except Error String
  | .static text => .ok text
  | .dynamic source => sourceValue functions context source >>= Value.shown options source

/-- The text that segments come to one after the other. -/
def Segment.shownAll (segments : List Segment) : Except Error String :=
  (segments.mapM (shown options functions context)).map String.join

theorem Piece.result_render_expr (source : String) (tree : Expr) :
    ((Piece.expr source tree).render options functions context).result =
      (tree.evaluate functions context).result >>= Value.shown options source := by
  rw [render, result_andThen]
  congr 1
  funext value
  unfold Value.shown
  dsimp only
  split
  · rfl
  · rfl

/-- A segment is read first, and then it comes to what is read. -/
theorem Segment.shown_eq (segment : Segment) :
    segment.shown options functions context =
      Piece.ofSegment segment >>= fun piece ↦ (piece.render options functions context).result := by
  cases segment with
  | static text => rfl
  | dynamic source =>
    rw [shown, sourceValue, Piece.ofSegment]
    cases parseSource source with
    | error e => rfl
    | ok tree => exact (Piece.result_render_expr options functions context source tree).symm

end Shown

theorem Piece.ofSegments_eq_mapM (segments : List Segment) :
    ofSegments segments = segments.mapM ofSegment := by
  induction segments with
  | nil => rfl
  | cons segment rest ih =>
    rw [ofSegments, List.mapM_cons, ih]
    cases ofSegment segment with
    | error e => rfl
    | ok piece =>
      cases rest.mapM ofSegment with
      | error e => rfl
      | ok pieces => rfl

/-! ### Texts without expressions -/

theorem hasOpener_iff {cs : List Char} : hasOpener cs = true ↔ ['$', '\x7b'] <:+: cs := by
  fun_induction hasOpener cs with
  | case1 rest => simpa using (List.prefix_append ['$', '\x7b'] rest).isInfix
  | case2 c rest hopen ih =>
    have hfront : ¬['$', '\x7b'] <+: c :: rest := by
      rintro ⟨tail, htail⟩
      obtain ⟨rfl, rfl⟩ := List.cons.inj htail
      exact hopen tail rfl rfl
    rw [ih, List.infix_cons_iff, or_iff_right hfront]
  | case3 => simp

theorem isPlain_of_not_opener {c : Char} {rest : List Char} (h : ¬['$', '\x7b'] <:+: c :: rest) :
    Segment.IsPlain c rest where
  not_escape := by
    rintro cs - rfl
    exact h (List.infix_cons (List.prefix_append ['$', '\x7b'] cs).isInfix)
  not_open := by
    rintro cs rfl rfl
    exact h (List.prefix_append ['$', '\x7b'] cs).isInfix

theorem scan_of_not_opener {cs : List Char} (h : ¬['$', '\x7b'] <:+: cs) (held : List Char) :
    Segment.scan 0 held cs = .ok (Segment.flush (cs.reverse ++ held) []) := by
  induction cs generalizing held with
  | nil => rw [Segment.scan, List.reverse_nil, List.nil_append]
  | cons c rest ih =>
    have hrest : ¬['$', '\x7b'] <:+: rest := fun hinfix ↦ h (List.infix_cons hinfix)
    rw [Segment.scan_plain (isPlain_of_not_opener h), ih hrest, List.reverse_cons,
      List.append_assoc]
    rfl

section RenderPieces

variable {options : Options} {functions : Functions} {context : Context} {template : String}
  {segments : List Segment} {pieces : List Piece} {e : Error}

theorem renderPieces_of_read_eq_ok (hlex : lex template = .ok segments)
    (hread : segments.mapM Piece.ofSegment = .ok pieces) :
    renderPieces options functions context template =
      (join (pieces.map (·.render options functions context))).andThen
        fun texts ↦ pure (String.join texts) := by
  have hpieces : (lex template).bind Piece.ofSegments = .ok pieces := by
    rw [hlex, ← hread, ← Piece.ofSegments_eq_mapM]
    rfl
  rw [renderPieces, hpieces]

theorem renderPieces_of_not_opener (h : ¬['$', '\x7b'] <:+: template.toList) :
    renderPieces options functions context template = pure template := by
  have hlex : lex template = .ok (Segment.flush template.toList.reverse []) := by
    rw [lex, Segment.lex, scan_of_not_opener h, List.append_nil]
    rfl
  unfold Segment.flush at hlex
  split at hlex
  next hempty =>
    have htemplate : template = "" := by simpa using hempty
    have hread : ([] : List Segment).mapM Piece.ofSegment = .ok [] := rfl
    rw [renderPieces_of_read_eq_ok hlex hread, htemplate, List.map_nil, join_nil, pure_andThen,
      String.join_nil]
  next =>
    rw [List.reverse_reverse, String.ofList_toList] at hlex
    have hread : [Segment.static template].mapM Piece.ofSegment = .ok [.text template] := rfl
    have htimed := Piece.timed_render functions context options (.text template)
    calc renderPieces options functions context template
        = (join [(Piece.text template).render options functions context]).andThen
            fun texts ↦ pure (String.join texts) := renderPieces_of_read_eq_ok hlex hread
      _ = ((Piece.text template).render options functions context).andThen
            fun text ↦ pure (String.join [text]) := by
          rw [htimed.join_singleton, andThen_assoc]
          simp only [pure_andThen]
      _ = pure template := by
          simp only [String.join_cons, String.join_nil, String.append_empty]
          exact andThen_pure _

/-- Leaving texts without `${` as they are changes no rendering. -/
theorem renderWith_eq_renderPieces :
    renderWith options functions context template =
      renderPieces options functions context template := by
  unfold renderWith
  split
  next => rfl
  next hopener =>
    rw [hasOpener_iff] at hopener
    rw [renderPieces_of_not_opener hopener]

end RenderPieces

/-! ### Rendering by segments -/

section RenderWith

variable {options : Options} {functions : Functions} {context : Context} {template : String}
  {segments : List Segment} {pieces : List Piece} {e : Error}

theorem renderWith_of_lex_eq_error (hlex : lex template = .error e) :
    renderWith options functions context template = .fail e := by
  rw [renderWith_eq_renderPieces, renderPieces, hlex]
  rfl

theorem renderWith_of_read_eq_error (hlex : lex template = .ok segments)
    (hread : segments.mapM Piece.ofSegment = .error e) :
    renderWith options functions context template = .fail e := by
  have hpieces : (lex template).bind Piece.ofSegments = .error e := by
    rw [hlex, ← hread, ← Piece.ofSegments_eq_mapM]
    rfl
  rw [renderWith_eq_renderPieces, renderPieces, hpieces]

theorem result_renderWith (hlex : lex template = .ok segments)
    (hread : segments.mapM Piece.ofSegment = .ok pieces) :
    (renderWith options functions context template).result =
      (join (pieces.map (·.render options functions context))).result.map String.join := by
  rw [renderWith_eq_renderPieces, renderPieces_of_read_eq_ok hlex hread, result_andThen]
  cases (join (pieces.map (·.render options functions context))).result with
  | error e => rfl
  | ok texts => rfl

theorem shown_eq_of_read (hread : segments.mapM Piece.ofSegment = .ok pieces) :
    segments.mapM (Segment.shown options functions context) =
      (pieces.map (·.render options functions context)).mapM (·.result) := by
  rw [List.mapM_map, ← mapM_bind_of_mapM_eq_ok hread]
  congr 1
  funext segment
  exact segment.shown_eq options functions context

/-- However long anything takes, a template is rendered exactly when all its segments are. -/
theorem result_renderWith_eq_ok_iff {text : String} :
    (renderWith options functions context template).result = .ok text ↔
      ∃ segments, lex template = .ok segments ∧
        Segment.shownAll options functions context segments = .ok text := by
  cases hlex : lex template with
  | error e => simp [renderWith_of_lex_eq_error hlex, fail]
  | ok segments =>
    simp only [Except.ok.injEq, exists_eq_left', Segment.shownAll, Except.map_eq_ok_iff]
    cases hread : segments.mapM Piece.ofSegment with
    | error e =>
      rw [renderWith_of_read_eq_error hlex hread]
      constructor
      · intro h
        cases h
      · rintro ⟨texts, htexts, -⟩
        -- Segments that show texts have been read, which `hread` denies.
        have hshown := funext (Segment.shown_eq options functions context)
        rw [hshown, mapM_bind_eq_ok_iff, hread] at htexts
        obtain ⟨pieces, hpieces, -⟩ := htexts
        cases hpieces
    | ok pieces =>
      rw [result_renderWith hlex hread, Except.map_eq_ok_iff, shown_eq_of_read hread]
      simp only [result_join_eq_ok_iff]

theorem Piece.waits_render (h : IsPrompt functions context) (piece : Piece) :
    (piece.render options functions context).waits = 0 := by
  cases piece with
  | text s => rfl
  | expr source tree =>
    refine waits_andThen_eq_zero (tree.waits_evaluate h) fun value _ ↦ ?_
    dsimp only
    split
    · rfl
    · rfl

theorem waits_renderWith (h : IsPrompt functions context) (template : String) :
    (renderWith options functions context template).waits = 0 := by
  rw [renderWith_eq_renderPieces]
  unfold renderPieces
  split
  · rfl
  · apply waits_andThen_eq_zero
    · apply waits_join_eq_zero
      intro x hx
      obtain ⟨piece, -, rfl⟩ := List.mem_map.mp hx
      exact piece.waits_render h
    · exact fun _ _ ↦ rfl

/-- Where nothing waits, a template that can be read ends as its segments do one after the other. -/
theorem result_renderWith_of_isPrompt (h : IsPrompt functions context)
    (hlex : lex template = .ok segments) (hread : ∀ s ∈ segments, ¬FailsAt Piece.ofSegment s) :
    (renderWith options functions context template).result =
      Segment.shownAll options functions context segments := by
  obtain ⟨pieces, hpieces⟩ := exists_mapM_eq_ok_iff.mpr hread
  have hwaits : ∀ x ∈ pieces.map (·.render options functions context), x.waits = 0 := by
    intro x hx
    obtain ⟨piece, -, rfl⟩ := List.mem_map.mp hx
    exact piece.waits_render h
  calc (renderWith options functions context template).result
      = (join (pieces.map (·.render options functions context))).result.map String.join :=
        result_renderWith hlex hpieces
    _ = Except.map String.join
          ((pieces.map (·.render options functions context)).mapM (·.result)) := by
        rw [result_join_of_waits_eq_zero hwaits]
    _ = Segment.shownAll options functions context segments := by
        rw [Segment.shownAll, shown_eq_of_read hpieces]

theorem Segment.shownAll_eq_error_iff :
    shownAll options functions context segments = .error e ↔
      ∃ s, IsFirst (FailsAt (shown options functions context)) segments s ∧
        s.shown options functions context = .error e := by
  rw [shownAll, Except.map_eq_error_iff, mapM_eq_error_iff]

end RenderWith

end ClusterPlan.Template
