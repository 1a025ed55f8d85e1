import ClusterPlan.Bindings.Global
import ClusterPlan.Proofs.Template.Failures
import ClusterPlan.Proofs.Template.Tokens
import ClusterPlan.Proofs.Template.ValueText

/-!
# The policy on undefined values

Under the strict policy a template is to fail where an expression is undefined, and otherwise to
come to what it comes to under the lenient policy. Rendering looks at the text of a value instead.
The policy is kept exactly when the segment that strict rendering stops at, if it stops at any, is
neither the string `undefined` nor a call that is answered by the very error. A template that is
such a string breaks it.
-/

namespace ClusterPlan.Template

def Options.lenient : Options := ⟨true⟩

section Policy

variable (functions : Functions) (context : Context)

/-- An expression that fails or is undefined. -/
def Segment.IsUnsettled : Segment → Prop
  | .static _ => False
  | .dynamic source => (∃ e, sourceValue functions context source = .error e) ∨
      sourceValue functions context source = .ok .undefined

/-- The template can be read, and of its expressions the first that fails or is undefined is
undefined. -/
def MeetsUndefined (template : String) : Prop :=
  ∃ segments source, lex template = .ok segments ∧
    (∀ s ∈ segments, ¬FailsAt Piece.ofSegment s) ∧
      IsFirst (Segment.IsUnsettled functions context) segments (.dynamic source) ∧
        sourceValue functions context source = .ok .undefined

/-- Strict rendering of the template ends at the expression. -/
def StopsAt (template source : String) : Prop :=
  ∃ segments, lex template = .ok segments ∧ (∀ s ∈ segments, ¬FailsAt Piece.ofSegment s) ∧
    IsFirst (FailsAt (Segment.shown .strict functions context)) segments (.dynamic source)

structure KeepsUndefinedPolicy (template : String) : Prop where
  undefined_iff : (∃ expression, (renderWith .strict functions context template).result =
    .error (.undefined expression)) ↔ MeetsUndefined functions context template
  otherwise : ¬MeetsUndefined functions context template →
    (renderWith .strict functions context template).result =
      (renderWith .lenient functions context template).result
  cause : ∀ source expression, StopsAt functions context template source →
    (Segment.dynamic source).shown .strict functions context = .error (.undefined expression) →
      sourceValue functions context source = .ok .undefined

end Policy

/-! ### Segments under both policies -/

section Segments

variable {options : Options} {functions : Functions} {context : Context}

theorem shown_of_value_eq_error {source : String} {e : Error}
    (h : sourceValue functions context source = .error e) :
    (Segment.dynamic source).shown options functions context = .error e := by
  rw [Segment.shown, h]
  rfl

theorem shown_of_text_ne {source : String} {value : Value}
    (h : sourceValue functions context source = .ok value) (htext : value.text ≠ "undefined") :
    (Segment.dynamic source).shown options functions context = .ok value.text := by
  rw [Segment.shown, h]
  exact if_neg fun hand ↦ htext hand.1

theorem shown_strict_of_text_eq {source : String} {value : Value}
    (h : sourceValue functions context source = .ok value) (htext : value.text = "undefined") :
    (Segment.dynamic source).shown .strict functions context =
      .error (.undefined (Text.trim source)) := by
  rw [Segment.shown, h]
  exact if_pos ⟨htext, rfl⟩

theorem failsAt_strict_of_isUnsettled {segment : Segment}
    (h : segment.IsUnsettled functions context) :
    FailsAt (Segment.shown .strict functions context) segment := by
  match segment, h with
  | .dynamic source, .inl ⟨e, he⟩ => exact ⟨e, shown_of_value_eq_error he⟩
  | .dynamic source, .inr hvalue => exact ⟨_, shown_strict_of_text_eq hvalue rfl⟩

theorem shown_eq_of_strict {segment : Segment} {text : String}
    (h : segment.shown .strict functions context = .ok text) :
    segment.shown options functions context = .ok text := by
  cases segment with
  | static s => exact h
  | dynamic source =>
    cases hvalue : sourceValue functions context source with
    | error e => cases h.symm.trans (shown_of_value_eq_error hvalue)
    | ok value =>
      by_cases htext : value.text = "undefined"
      · cases h.symm.trans (shown_strict_of_text_eq hvalue htext)
      · calc (Segment.dynamic source).shown options functions context
            = .ok value.text := shown_of_text_ne hvalue htext
          _ = (Segment.dynamic source).shown .strict functions context :=
              (shown_of_text_ne hvalue htext).symm
          _ = .ok text := h

theorem failsAt_strict_of_failsAt {segment : Segment}
    (h : FailsAt (Segment.shown options functions context) segment) :
    FailsAt (Segment.shown .strict functions context) segment := by
  by_contra hstrict
  obtain ⟨text, htext⟩ := not_failsAt_iff.mp hstrict
  exact not_failsAt_of_eq_ok (shown_eq_of_strict htext) h

end Segments

/-! ### When the policy is kept -/

section Kept

variable {functions : Functions} {context : Context} {template : String}
  {segments : List Segment}

/-- A template that is at fault itself fails alike under both policies. -/
theorem keepsUndefinedPolicy_of_fail {e : Error}
    (hfail : ∀ options, renderWith options functions context template = .fail e)
    (he : ∀ expression, e ≠ .undefined expression)
    (hread : ∀ segments, lex template = .ok segments → ∃ s ∈ segments, FailsAt Piece.ofSegment s) :
    KeepsUndefinedPolicy functions context template where
  undefined_iff := by
    rw [hfail]
    constructor
    · rintro ⟨expression, h⟩
      exact absurd (Except.error.inj h) (he expression)
    · rintro ⟨segments, source, hlex, hnone, -⟩
      obtain ⟨s, hs, hfails⟩ := hread segments hlex
      exact absurd hfails (hnone s hs)
  otherwise _ := by rw [hfail, hfail]
  cause source expression hstops _ := by
    obtain ⟨segments, hlex, hnone, -⟩ := hstops
    obtain ⟨s, hs, hfails⟩ := hread segments hlex
    exact absurd hfails (hnone s hs)

variable (hprompt : IsPrompt functions context) (hlex : lex template = .ok segments)
  (hread : ∀ s ∈ segments, ¬FailsAt Piece.ofSegment s)

include hlex in
theorem stopsAt_iff {source : String} : StopsAt functions context template source ↔
    (∀ s ∈ segments, ¬FailsAt Piece.ofSegment s) ∧
      IsFirst (FailsAt (Segment.shown .strict functions context)) segments (.dynamic source) := by
  simp [StopsAt, hlex]

include hlex in
theorem meetsUndefined_iff : MeetsUndefined functions context template ↔
    (∀ s ∈ segments, ¬FailsAt Piece.ofSegment s) ∧
      ∃ source, IsFirst (Segment.IsUnsettled functions context) segments (.dynamic source) ∧
        sourceValue functions context source = .ok .undefined := by
  simp [MeetsUndefined, hlex]

include hlex in
theorem StopsAt.eq_of_isFirst {source other : String}
    (hstops : StopsAt functions context template other)
    (hfirst : IsFirst (FailsAt (Segment.shown .strict functions context)) segments
      (.dynamic source)) : other = source :=
  Segment.dynamic.inj (((stopsAt_iff hlex).mp hstops).2.unique hfirst)

include hprompt hlex hread

theorem keepsUndefinedPolicy_of_shown
    (hnone : ∀ s ∈ segments, ¬FailsAt (Segment.shown .strict functions context) s) :
    KeepsUndefinedPolicy functions context template := by
  obtain ⟨texts, htexts⟩ := exists_mapM_eq_ok_iff.mpr hnone
  have hresult : ∀ options, (renderWith options functions context template).result =
      .ok (String.join texts) := by
    intro options
    have hshown : segments.mapM (Segment.shown options functions context) = .ok texts :=
      mapM_eq_ok_iff.mpr ((mapM_eq_ok_iff.mp htexts).imp fun _ _ ↦ shown_eq_of_strict)
    rw [result_renderWith_of_isPrompt hprompt hlex hread, Segment.shownAll, hshown]
    rfl
  have hmeets : ¬MeetsUndefined functions context template := by
    rw [meetsUndefined_iff hlex]
    rintro ⟨-, source, hfirst, -⟩
    exact hnone _ hfirst.mem (failsAt_strict_of_isUnsettled hfirst.holds)
  constructor
  · rw [hresult]
    simp [hmeets]
  · intro _
    rw [hresult, hresult]
  · intro source expression hstops _
    have hfirst := ((stopsAt_iff hlex).mp hstops).2
    exact absurd hfirst.holds (hnone _ hfirst.mem)

variable {source : String}
  (hfirst : IsFirst (FailsAt (Segment.shown .strict functions context)) segments (.dynamic source))

include hfirst

/-- What strict rendering stops at fails, so lenient rendering stops there as well. -/
theorem keepsUndefinedPolicy_of_error {e : Error}
    (hvalue : sourceValue functions context source = .error e)
    (he : ∀ expression, e ≠ .undefined expression) :
    KeepsUndefinedPolicy functions context template := by
  have hresult : ∀ options, (renderWith options functions context template).result = .error e := by
    intro options
    have hshown : (Segment.dynamic source).shown options functions context = .error e :=
      shown_of_value_eq_error hvalue
    rw [result_renderWith_of_isPrompt hprompt hlex hread, Segment.shownAll_eq_error_iff]
    exact ⟨_, hfirst.of_imp ⟨e, hshown⟩ fun _ ↦ failsAt_strict_of_failsAt, hshown⟩
  have hmeets : ¬MeetsUndefined functions context template := by
    rw [meetsUndefined_iff hlex]
    rintro ⟨-, other, hother, hundefined⟩
    have hunsettled : IsFirst (Segment.IsUnsettled functions context) segments (.dynamic source) :=
      hfirst.of_imp (.inl ⟨e, hvalue⟩) fun _ ↦ failsAt_strict_of_isUnsettled
    obtain rfl := Segment.dynamic.inj (hother.unique hunsettled)
    cases hvalue.symm.trans hundefined
  constructor
  · rw [hresult]
    simp [hmeets, he]
  · intro _
    rw [hresult, hresult]
  · intro other expression hstops hshown
    obtain rfl := hstops.eq_of_isFirst hlex hfirst
    rw [shown_of_value_eq_error hvalue] at hshown
    exact absurd (Except.error.inj hshown) (he expression)

/-- What strict rendering stops at is undefined, as the policy wants it. -/
theorem keepsUndefinedPolicy_of_undefined
    (hvalue : sourceValue functions context source = .ok .undefined) :
    KeepsUndefinedPolicy functions context template := by
  have hresult : (renderWith .strict functions context template).result =
      .error (.undefined (Text.trim source)) := by
    rw [result_renderWith_of_isPrompt hprompt hlex hread, Segment.shownAll_eq_error_iff]
    exact ⟨_, hfirst, shown_strict_of_text_eq hvalue rfl⟩
  have hmeets : MeetsUndefined functions context template := by
    have hunsettled : IsFirst (Segment.IsUnsettled functions context) segments (.dynamic source) :=
      hfirst.of_imp (.inr hvalue) fun _ ↦ failsAt_strict_of_isUnsettled
    exact ⟨segments, source, hlex, hread, hunsettled, hvalue⟩
  constructor
  · exact ⟨fun _ ↦ hmeets, fun _ ↦ ⟨_, hresult⟩⟩
  · exact fun hnot ↦ absurd hmeets hnot
  · intro other expression hstops _
    obtain rfl := hstops.eq_of_isFirst hlex hfirst
    exact hvalue

end Kept

/-- The segment that strict rendering stops at is neither the string `undefined` nor a call answered
by an error that says so. -/
def StopsPlainly (functions : Functions) (context : Context) (template : String) : Prop :=
  ∀ source, StopsAt functions context template source →
    sourceValue functions context source ≠ .ok (.string "undefined") ∧
      ∀ expression, sourceValue functions context source ≠ .error (.undefined expression)

section StopsPlainly

variable {functions : Functions} {context : Context} {template : String}

/-- A template that is read stops plainly or does not stop: it keeps the policy either way. -/
theorem keepsUndefinedPolicy_of_read {segments : List Segment}
    (hprompt : IsPrompt functions context) (hlex : lex template = .ok segments)
    (hread : ∀ s ∈ segments, ¬FailsAt Piece.ofSegment s)
    (h : StopsPlainly functions context template) :
    KeepsUndefinedPolicy functions context template := by
  cases hshown : segments.mapM (Segment.shown .strict functions context) with
  | ok texts =>
    have hnone := exists_mapM_eq_ok_iff.mp ⟨texts, hshown⟩
    exact keepsUndefinedPolicy_of_shown hprompt hlex hread hnone
  | error e =>
    obtain ⟨segment, hfirst, he⟩ := mapM_eq_error_iff.mp hshown
    cases segment with
    | static text => cases he
    | dynamic source =>
      obtain ⟨hstring, hanswer⟩ := h source ((stopsAt_iff hlex).mpr ⟨hread, hfirst⟩)
      cases hvalue : sourceValue functions context source with
      | error e' =>
        exact keepsUndefinedPolicy_of_error hprompt hlex hread hfirst hvalue fun expression heq ↦
          hanswer expression (heq ▸ hvalue)
      | ok value =>
        have htext : value.text = "undefined" := by
          by_contra hne
          exact not_failsAt_of_eq_ok (shown_of_text_ne hvalue hne) hfirst.holds
        rcases Value.text_eq_undefined_iff.mp htext with rfl | rfl
        · exact keepsUndefinedPolicy_of_undefined hprompt hlex hread hfirst hvalue
        · exact absurd hvalue hstring

theorem keepsUndefinedPolicy_of_stopsPlainly (hprompt : IsPrompt functions context)
    (h : StopsPlainly functions context template) :
    KeepsUndefinedPolicy functions context template := by
  cases hlex : lex template with
  | error e =>
    refine keepsUndefinedPolicy_of_fail (fun _ ↦ renderWith_of_lex_eq_error hlex) ?_ ?_
    · rintro expression rfl
      obtain ⟨missing, -, hmissing⟩ := Except.mapError_eq_error_iff.mp hlex
      cases hmissing
    · simp [hlex]
  | ok segments =>
    cases hread : segments.mapM Piece.ofSegment with
    | ok pieces =>
      exact keepsUndefinedPolicy_of_read hprompt hlex (exists_mapM_eq_ok_iff.mp ⟨pieces, hread⟩) h
    | error e =>
      obtain ⟨segment, hfirst, he⟩ := mapM_eq_error_iff.mp hread
      refine keepsUndefinedPolicy_of_fail (fun _ ↦ renderWith_of_read_eq_error hlex hread) ?_ ?_
      · rintro expression rfl
        obtain ⟨source, fault, -, -, hfault⟩ := Piece.ofSegment_eq_error_iff.mp he
        cases hfault
      · intro others hothers
        obtain rfl := Except.ok.inj (hlex.symm.trans hothers)
        exact ⟨segment, hfirst.mem, hfirst.holds⟩

theorem stopsPlainly_of_keepsUndefinedPolicy (h : KeepsUndefinedPolicy functions context template) :
    StopsPlainly functions context template := by
  intro source hstops
  constructor
  · intro hvalue
    cases hvalue.symm.trans (h.cause source _ hstops (shown_strict_of_text_eq hvalue rfl))
  · intro expression hvalue
    cases hvalue.symm.trans (h.cause source expression hstops (shown_of_value_eq_error hvalue))

/-- Where nothing waits, the policy is kept exactly when strict rendering stops plainly. -/
theorem keepsUndefinedPolicy_iff (hprompt : IsPrompt functions context) :
    KeepsUndefinedPolicy functions context template ↔ StopsPlainly functions context template :=
  ⟨stopsPlainly_of_keepsUndefinedPolicy, keepsUndefinedPolicy_of_stopsPlainly hprompt⟩

end StopsPlainly

/-- A string that reads `undefined` is refused, though nothing is undefined. -/
theorem not_keepsUndefinedPolicy_quotedWord :
    IsPrompt Bindings.none ∅ ∧
      (renderWith .strict Bindings.none ∅ "$\x7b'undefined'\x7d").result =
        .error (.undefined "'undefined'") ∧
      (renderWith .lenient Bindings.none ∅ "$\x7b'undefined'\x7d").result = .ok "undefined" ∧
      ¬KeepsUndefinedPolicy Bindings.none ∅ "$\x7b'undefined'\x7d" := by
  have hprompt : IsPrompt Bindings.none ∅ := fun _ _ ↦ rfl
  have hlex : lex "$\x7b'undefined'\x7d" = .ok [.dynamic "'undefined'"] := rfl
  have htokens : Token.tokenize "'undefined'" = .ok [.string "undefined"] := by
    have htext : (Token.Quote.single.enclose "undefined").toList ++ [] = "'undefined'".toList := by
      decide
    rw [Token.tokenize, ← htext, Token.scan_enclose, Token.scan]
    rfl
  have hparse : Expr.parse "'undefined'" = .ok (.literal (.string "undefined")) := by
    rw [Expr.parse, htokens]
    with_unfolding_all rfl
  have hpiece : Piece.ofSegment (.dynamic "'undefined'") =
      .ok (.expr "'undefined'" (.literal (.string "undefined"))) := by
    rw [Piece.ofSegment, parseSource, hparse]
    rfl
  have hvalue : sourceValue Bindings.none ∅ "'undefined'" = .ok (.string "undefined") := by
    rw [sourceValue, parseSource, hparse]
    with_unfolding_all rfl
  have hread : ∀ s ∈ [Segment.dynamic "'undefined'"], ¬FailsAt Piece.ofSegment s := by
    simpa using not_failsAt_of_eq_ok hpiece
  have hrefused : (Segment.dynamic "'undefined'").shown .strict Bindings.none ∅ =
      .error (.undefined "'undefined'") := shown_strict_of_text_eq hvalue rfl
  have hfirst : IsFirst (FailsAt (Segment.shown .strict Bindings.none ∅))
      [.dynamic "'undefined'"] (.dynamic "'undefined'") :=
    (isFirst_cons_of_pos ⟨_, hrefused⟩).mpr rfl
  have hstrict : (renderWith .strict Bindings.none ∅ "$\x7b'undefined'\x7d").result =
      .error (.undefined "'undefined'") := by
    rw [result_renderWith_of_isPrompt hprompt hlex hread, Segment.shownAll_eq_error_iff]
    exact ⟨_, hfirst, hrefused⟩
  have hlenient : (renderWith .lenient Bindings.none ∅ "$\x7b'undefined'\x7d").result =
      .ok "undefined" := Except.eq_ok_of_toOption (by decide +kernel)
  refine ⟨hprompt, hstrict, hlenient, fun hkeeps ↦ ?_⟩
  have hstops : StopsAt Bindings.none ∅ "$\x7b'undefined'\x7d" "'undefined'" :=
    (stopsAt_iff hlex).mpr ⟨hread, hfirst⟩
  exact ((keepsUndefinedPolicy_iff hprompt).mp hkeeps "'undefined'" hstops).1 hvalue

end ClusterPlan.Template
