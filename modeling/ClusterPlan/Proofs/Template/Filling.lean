import ClusterPlan.Proofs.Template.Concatenation
import ClusterPlan.Proofs.Template.Embedding

/-!
# Filled templates

A template of fixed texts with names in between is filled where every name is bound to a text. It
is rendered as its fixed texts with those texts in the places of the names. What is put in is not
looked into, whatever it holds. Only the word that stands for what is undefined cannot be put in.
-/

namespace ClusterPlan.Template

/-! ### Templates of one segment -/

section Rendering

variable {options : Template.Options} {functions : Functions} {context : Context}
  {template name s : String}

theorem result_renderWith_static (hlex : lex template = .ok [.static s]) :
    (renderWith options functions context template).result = .ok s := by
  rw [result_renderWith_eq_ok_iff]
  refine ⟨_, hlex, ?_⟩
  change Except.ok (String.join [s]) = .ok s
  rw [String.join_cons, String.join_nil, String.append_empty]

/-- A name that is bound to a text is rendered as this text, whatever stands in it. -/
theorem result_renderWith_name (hlex : lex template = .ok [.dynamic name])
    (hparse : parseSource name = .ok (.ident name)) (hname : context.lookup name = .ok (.string s))
    (hs : s ≠ "undefined") : (renderWith options functions context template).result = .ok s := by
  have hvalue : sourceValue functions context name = .ok (.string s) := by
    rw [sourceValue, hparse]
    change ((Expr.ident name).evaluate functions context).result = _
    rw [Expr.evaluate]
    exact hname
  have hshown : Segment.shown options functions context (.dynamic name) = .ok s := by
    have hnot : ¬((Value.string s).text = "undefined" ∧ options.allowUndefined = false) :=
      fun h ↦ hs h.1
    rw [Segment.shown, hvalue]
    change Value.shown options name (.string s) = _
    rw [Value.shown, if_neg hnot]
    rfl
  rw [result_renderWith_eq_ok_iff]
  refine ⟨_, hlex, ?_⟩
  rw [Segment.shownAll, List.mapM_cons, hshown]
  change Except.ok (String.join [s]) = .ok s
  rw [String.join_cons, String.join_nil, String.append_empty]

/-- A fixed text neither opens an expression nor has a part in one behind it. -/
structure IsFixed (s : String) : Prop where
  not_opener : hasOpener s.toList = false
  endsPlain : Segment.EndsPlain s.toList

instance (s : String) : Decidable (IsFixed s) :=
  decidable_of_iff
    (hasOpener s.toList = false ∧ s.toList.getLast? ≠ some '$' ∧ s.toList.getLast? ≠ some '\\')
    ⟨fun ⟨hopener, hdollar, hbackslash⟩ ↦ ⟨hopener, hdollar, hbackslash⟩,
      fun h ↦ ⟨h.not_opener, h.endsPlain.dollar, h.endsPlain.backslash⟩⟩

theorem IsFixed.result_renderWith (h : IsFixed s) :
    (renderWith options functions context s).result = .ok s := by
  rw [renderWith, h.not_opener]
  rfl

end Rendering

theorem Segment.EndsPlain.append {cs ds : List Char} (hcs : EndsPlain cs) (hds : EndsPlain ds) :
    EndsPlain (cs ++ ds) := by
  cases h : ds.getLast? with
  | none =>
    have hlast : (cs ++ ds).getLast? = cs.getLast? := by rw [List.getLast?_append, h, Option.none_or]
    exact ⟨hlast ▸ hcs.dollar, hlast ▸ hcs.backslash⟩
  | some c =>
    have hlast : (cs ++ ds).getLast? = ds.getLast? := by rw [List.getLast?_append, h, Option.some_or]
    exact ⟨hlast ▸ hds.dollar, hlast ▸ hds.backslash⟩

theorem endsPlain_concat (cs : List Char) : Segment.EndsPlain (cs ++ ['\x7d']) where
  dollar := by
    rw [List.getLast?_concat]
    decide
  backslash := by
    rw [List.getLast?_concat]
    decide

/-- An expression that stands for what its own text is bound to. -/
structure IsName (name : String) : Prop where
  lex : lex (embed name) = .ok [.dynamic name]
  parse : parseSource name = .ok (.ident name)

/-! ### Filled templates -/

section Fills

variable (functions : Functions) (context : Context)

/-- The template is rendered as the text, alone and in front of any other template. -/
structure Fills (template text : String) : Prop where
  endsPlain : Segment.EndsPlain template.toList
  result (options : Template.Options) :
    (renderWith options functions context template).result = .ok text

end Fills

section Parts

variable {functions : Functions} {context : Context} {template text name value : String}
  {templates texts : List String}

theorem IsFixed.fills (h : IsFixed text) : Fills functions context text text :=
  ⟨h.endsPlain, fun _ ↦ h.result_renderWith⟩

/-- A name that is bound to a text is filled with it, whatever stands in it. -/
theorem IsName.fills (hname : IsName name) (hvalue : context.lookup name = .ok (.string value))
    (hdefined : value ≠ "undefined") : Fills functions context (embed name) value where
  endsPlain := by
    rw [toList_embed]
    exact endsPlain_concat ('$' :: '\x7b' :: name.toList)
  result _ := result_renderWith_name hname.lex hname.parse hvalue hdefined

theorem Fills.append {template' text' : String} (h : Fills functions context template text)
    (h' : Fills functions context template' text') :
    Fills functions context (template ++ template') (text ++ text') where
  endsPlain := by
    rw [String.toList_append]
    exact h.endsPlain.append h'.endsPlain
  result _ := result_renderWith_append h.endsPlain (h.result _) (h'.result _)

theorem Fills.join (h : List.Forall₂ (Fills functions context) templates texts) :
    Fills functions context (String.join templates) (String.join texts) := by
  induction h with
  | nil => exact IsFixed.fills (by decide)
  | cons h _ ih =>
    rw [String.join_cons, String.join_cons]
    exact h.append ih

theorem forall₂_fills_fixed (h : ∀ s ∈ texts, IsFixed s) :
    List.Forall₂ (Fills functions context) texts texts :=
  List.forall₂_same.mpr fun s hs ↦ (h s hs).fills

end Parts

end ClusterPlan.Template
