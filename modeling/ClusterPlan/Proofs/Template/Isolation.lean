import ClusterPlan.Proofs.Except
import ClusterPlan.Proofs.Template.Calls

/-!
# What an expression sees of its context

An expression reads what its identifiers are bound to and nothing else, unless it names the context
as a whole. So it comes to the same in all contexts that agree on its identifiers, with the same
calls on the way.

What it fails by is an identifier of its own that is unbound, an operation on a value of a wrong
kind, or the answer to a call.
-/

namespace ClusterPlan.Template

open Activity

namespace Expr

mutual

/-- The identifiers of an expression. Names of members and keys of fields are none. -/
def identifiers : Expr → List String
  | literal _ => []
  | ident name => [name]
  | array items => identifiersOfAll items
  | object fields => identifiersOfFields fields
  | member target _ => target.identifiers
  | index target key => target.identifiers ++ key.identifiers
  | call callee arguments => callee.identifiers ++ identifiersOfAll arguments
  | unary _ operand => operand.identifiers
  | binary _ left right => left.identifiers ++ right.identifiers
  | conditional condition yes no => condition.identifiers ++ (yes.identifiers ++ no.identifiers)

def identifiersOfAll : List Expr → List String
  | [] => []
  | e :: rest => e.identifiers ++ identifiersOfAll rest

def identifiersOfFields : List (String × Expr) → List String
  | [] => []
  | (_, e) :: rest => e.identifiers ++ identifiersOfFields rest

end

end Expr

/-! ### Contexts that agree -/

/-- Names that have the same values in two contexts and are no names for the contexts themselves. -/
structure AgreeOn (names : List String) (context other : Context) : Prop where
  not_reserved : reservedName ∉ names
  get?_eq : ∀ name ∈ names, context.get? name = other.get? name

section AgreeOn

variable {names more : List String} {context other : Context}

theorem AgreeOn.left (h : AgreeOn (names ++ more) context other) : AgreeOn names context other where
  not_reserved hmem := h.not_reserved (List.mem_append_left more hmem)
  get?_eq name hmem := h.get?_eq name (List.mem_append_left more hmem)

theorem AgreeOn.right (h : AgreeOn (names ++ more) context other) : AgreeOn more context other where
  not_reserved hmem := h.not_reserved (List.mem_append_right names hmem)
  get?_eq name hmem := h.get?_eq name (List.mem_append_right names hmem)

theorem AgreeOn.lookup_eq {name : String} (h : AgreeOn [name] context other) :
    context.lookup name = other.lookup name := by
  have hname : name ≠ reservedName := fun heq ↦ h.not_reserved (heq ▸ List.mem_singleton_self name)
  unfold Context.lookup
  rw [if_neg hname, if_neg hname, h.get?_eq name (List.mem_singleton_self name)]

variable (functions : Functions)

mutual

theorem Expr.evaluate_eq_of_agreeOn : ∀ e : Expr, AgreeOn e.identifiers context other →
    e.evaluate functions context = e.evaluate functions other
  | .literal l, _ => by rw [evaluate, evaluate]
  | .ident name, h => by
    rw [evaluate, evaluate, h.lookup_eq]
  | .array items, h => by
    rw [evaluate, evaluate, evaluateAll_eq_of_agreeOn items h]
  | .object fields, h => by
    rw [evaluate, evaluate, evaluateFields_eq_of_agreeOn fields h]
  | .member target name, h => by
    rw [evaluate, evaluate, evaluate_eq_of_agreeOn target h]
  | .index target key, h => by
    rw [evaluate, evaluate, evaluate_eq_of_agreeOn target h.left,
      evaluate_eq_of_agreeOn key h.right]
  | .call callee arguments, h => by
    rw [evaluate, evaluate, evaluate_eq_of_agreeOn callee h.left,
      evaluateAll_eq_of_agreeOn arguments h.right]
  | .unary op operand, h => by
    rw [evaluate, evaluate, evaluate_eq_of_agreeOn operand h]
  | .binary op left right, h => by
    rw [evaluate, evaluate, evaluate_eq_of_agreeOn left h.left,
      evaluate_eq_of_agreeOn right h.right]
  | .conditional condition yes no, h => by
    rw [evaluate, evaluate, evaluate_eq_of_agreeOn condition h.left,
      evaluate_eq_of_agreeOn yes h.right.left, evaluate_eq_of_agreeOn no h.right.right]

theorem Expr.evaluateAll_eq_of_agreeOn : ∀ items : List Expr,
    AgreeOn (identifiersOfAll items) context other →
      evaluateAll functions context items = evaluateAll functions other items
  | [], _ => by rw [evaluateAll, evaluateAll]
  | e :: rest, h => by
    rw [evaluateAll, evaluateAll, evaluate_eq_of_agreeOn e h.left,
      evaluateAll_eq_of_agreeOn rest h.right]

theorem Expr.evaluateFields_eq_of_agreeOn : ∀ fields : List (String × Expr),
    AgreeOn (identifiersOfFields fields) context other →
      evaluateFields functions context fields = evaluateFields functions other fields
  | [], _ => by rw [evaluateFields, evaluateFields]
  | (_, e) :: rest, h => by
    rw [evaluateFields, evaluateFields, evaluate_eq_of_agreeOn e h.left,
      evaluateFields_eq_of_agreeOn rest h.right]

end

end AgreeOn

/-! ### Operations on values -/

/-- The result is a value unless an operation met a value of a wrong kind. -/
def FailsByKind {α : Type} (result : Except Error α) : Prop :=
  ∀ e, result = .error e → ∃ cause, e = .mismatch cause

section FailsByKind

variable {α β : Type}

theorem failsByKind_ok (a : α) : FailsByKind (.ok a) := by
  intro e h
  cases h

theorem failsByKind_mismatch (cause : Mismatch) :
    FailsByKind (.error (.mismatch cause) : Except Error α) := by
  intro e h
  obtain rfl := Except.error.inj h
  exact ⟨cause, rfl⟩

namespace Value

theorem failsByKind_member (name : String) (target : Value) : FailsByKind (target.member name) := by
  unfold member
  split
  · exact failsByKind_ok _
  · exact failsByKind_mismatch _

theorem failsByKind_item (key target : Value) : FailsByKind (item key target) := by
  unfold item
  split
  · exact failsByKind_ok _
  · exact failsByKind_ok _
  · exact failsByKind_member _ _

theorem failsByKind_asNumber (operator : String) (v : Value) :
    FailsByKind (v.asNumber operator) := by
  cases v with
  | number x => exact failsByKind_ok x
  | _ => exact failsByKind_mismatch _

/-- Two numbers are wanted, and what is done with them cannot fail. -/
theorem failsByKind_ofNumbers (operator : String) (f : Float → Float → α) (left right : Value) :
    FailsByKind (match left.asNumber operator with
      | .error e => .error e
      | .ok a =>
        match right.asNumber operator with
        | .error e => .error e
        | .ok b => .ok (f a b)) := by
  have hleft := failsByKind_asNumber operator left
  have hright := failsByKind_asNumber operator right
  cases hl : left.asNumber operator with
  | error e =>
    intro e' h
    exact hleft e' (hl.trans (congrArg _ (Except.error.inj h)))
  | ok a =>
    cases hr : right.asNumber operator with
    | error e =>
      intro e' h
      exact hright e' (hr.trans (congrArg _ (Except.error.inj h)))
    | ok b => exact failsByKind_ok _

theorem failsByKind_arithmetic (operator : String) (f : Float → Float → Float)
    (left right : Value) : FailsByKind (arithmetic operator f left right) :=
  failsByKind_ofNumbers operator (fun a b ↦ Value.number (f a b)) left right

theorem failsByKind_compare (strings : String → String → Bool) (numbers : Float → Float → Bool)
    (left right : Value) : FailsByKind (compare strings numbers left right) := by
  unfold compare
  split
  · exact failsByKind_ok _
  · exact failsByKind_ofNumbers "<" (fun a b ↦ Value.bool (numbers a b)) left right

theorem failsByKind_add (left right : Value) : FailsByKind (left.add right) := by
  unfold add
  split
  · exact failsByKind_ok _
  · exact failsByKind_ok _
  · exact failsByKind_arithmetic _ _ left right

end Value

theorem UnaryOp.failsByKind_apply (op : UnaryOp) (operand : Value) :
    FailsByKind (op.apply operand) := by
  cases op with
  | not => exact failsByKind_ok _
  | neg =>
    have hnumber := Value.failsByKind_asNumber "-" operand
    unfold UnaryOp.apply
    cases h : operand.asNumber "-" with
    | ok x => exact failsByKind_ok _
    | error e =>
      intro e' he
      exact hnumber e' (h.trans (congrArg _ (Except.error.inj he)))

theorem BinaryOp.failsByKind_apply (op : BinaryOp) (left right : Value) :
    FailsByKind (op.apply left right) := by
  cases op with
  | add => exact Value.failsByKind_add left right
  | sub | mul | div | rem => exact Value.failsByKind_arithmetic _ _ left right
  | eq | ne | and | or | nullish => exact failsByKind_ok _
  | lt | le | gt | ge => exact Value.failsByKind_compare _ _ left right

end FailsByKind

/-! ### Failures of an evaluation -/

/-- What an expression with these identifiers can fail by in the context. -/
inductive FailsBy (functions : Functions) (context : Context) (names : List String) : Error → Prop
  | unbound {name : String} (hmem : name ∈ names) (hname : name ≠ reservedName)
      (hnone : context.get? name = none) : FailsBy functions context names (.unknownIdentifier name)
  | kind (cause : Mismatch) : FailsBy functions context names (.mismatch cause)
  | answer {call : Call} {e : Error} (hcall : Reaches functions context call)
      (hanswer : (functions call.name call.arguments).result = .error e) :
      FailsBy functions context names e

section FailsBy

variable {functions : Functions} {context : Context} {names more : List String} {e : Error}

theorem FailsBy.mono (h : FailsBy functions context names e) (hsub : names ⊆ more) :
    FailsBy functions context more e := by
  cases h with
  | unbound hmem hname hnone => exact .unbound (hsub hmem) hname hnone
  | kind cause => exact .kind cause
  | answer hcall hanswer => exact .answer hcall hanswer

theorem FailsBy.left (h : FailsBy functions context names e) :
    FailsBy functions context (names ++ more) e :=
  h.mono (List.subset_append_left names more)

theorem FailsBy.right (h : FailsBy functions context more e) :
    FailsBy functions context (names ++ more) e :=
  h.mono (List.subset_append_right names more)

theorem FailsByKind.failsBy {α : Type} {result : Except Error α} (h : FailsByKind result)
    (he : result = .error e) : FailsBy functions context names e := by
  obtain ⟨cause, rfl⟩ := h e he
  exact .kind cause

theorem failsBy_lookup {name : String} (h : context.lookup name = .error e) :
    FailsBy functions context [name] e := by
  unfold Context.lookup at h
  split at h
  next => cases h
  next hname =>
    split at h
    next => cases h
    next hnone =>
      obtain rfl := Except.error.inj h
      exact .unbound (List.mem_singleton_self name) hname hnone

mutual

theorem Expr.failsBy_evaluate : ∀ (expr : Expr) {e : Error},
    (expr.evaluate functions context).result = .error e →
      FailsBy functions context expr.identifiers e
  | .literal l, e, h => by
    rw [evaluate] at h
    cases h
  | .ident name, e, h => by
    rw [evaluate] at h
    exact failsBy_lookup h
  | .array items, e, h => by
    rw [evaluate, result_andThen_eq_error_iff] at h
    rcases h with hitems | ⟨values, -, hvalue⟩
    · obtain ⟨x, hx, hfail⟩ := exists_of_result_join_eq_error hitems
      exact failsBy_evaluateAll items x hx hfail
    · cases hvalue
  | .object fields, e, h => by
    rw [evaluate, result_andThen_eq_error_iff] at h
    rcases h with hfields | ⟨values, -, hvalue⟩
    · obtain ⟨x, hx, hfail⟩ := exists_of_result_join_eq_error hfields
      exact failsBy_evaluateFields fields x hx hfail
    · cases hvalue
  | .member target name, e, h => by
    rw [evaluate, result_andThen_eq_error_iff] at h
    rcases h with htarget | ⟨value, -, hmember⟩
    · exact failsBy_evaluate target htarget
    · exact (Value.failsByKind_member name value).failsBy hmember
  | .index target key, e, h => by
    rw [evaluate, result_andThen_eq_error_iff] at h
    rcases h with htarget | ⟨value, -, hrest⟩
    · exact (failsBy_evaluate target htarget).left
    rw [result_andThen_eq_error_iff] at hrest
    rcases hrest with hkey | ⟨place, -, hitem⟩
    · exact (failsBy_evaluate key hkey).right
    · exact (Value.failsByKind_item place value).failsBy hitem
  | .call callee arguments, e, h => by
    rw [evaluate, result_andThen_eq_error_iff] at h
    rcases h with hcallee | ⟨value, hcallee, hrest⟩
    · exact (failsBy_evaluate callee hcallee).left
    cases value with
    | function name =>
      dsimp only at hrest
      rw [result_andThen_eq_error_iff] at hrest
      rcases hrest with harguments | ⟨values, hvalues, hanswer⟩
      · obtain ⟨x, hx, hfail⟩ := exists_of_result_join_eq_error harguments
        exact (failsBy_evaluateAll arguments x hx hfail).right
      · exact .answer (reaches_of_call hcallee hvalues) hanswer
    | _ => exact (failsByKind_mismatch _).failsBy hrest
  | .unary op operand, e, h => by
    rw [evaluate, result_andThen_eq_error_iff] at h
    rcases h with hoperand | ⟨value, -, happly⟩
    · exact failsBy_evaluate operand hoperand
    · exact (op.failsByKind_apply value).failsBy happly
  | .binary op left right, e, h => by
    rw [evaluate, result_andThen_eq_error_iff] at h
    rcases h with hleft | ⟨a, -, hrest⟩
    · exact (failsBy_evaluate left hleft).left
    split at hrest
    · cases hrest
    rw [result_andThen_eq_error_iff] at hrest
    rcases hrest with hright | ⟨b, -, happly⟩
    · exact (failsBy_evaluate right hright).right
    · exact (op.failsByKind_apply a b).failsBy happly
  | .conditional condition yes no, e, h => by
    rw [evaluate, result_andThen_eq_error_iff] at h
    rcases h with hcondition | ⟨value, -, hbranch⟩
    · exact (failsBy_evaluate condition hcondition).left
    split at hbranch
    · exact (failsBy_evaluate yes hbranch).left.right
    · exact (failsBy_evaluate no hbranch).right.right

theorem Expr.failsBy_evaluateAll : ∀ (items : List Expr) {e : Error},
    ∀ x ∈ evaluateAll functions context items, x.result = .error e →
      FailsBy functions context (identifiersOfAll items) e
  | [], _ => by simp [evaluateAll]
  | item :: rest, _ => by
    rw [evaluateAll, List.forall_mem_cons]
    exact ⟨fun h ↦ (failsBy_evaluate item h).left,
      fun x hx h ↦ (failsBy_evaluateAll rest x hx h).right⟩

theorem Expr.failsBy_evaluateFields : ∀ (fields : List (String × Expr)) {e : Error},
    ∀ x ∈ evaluateFields functions context fields, x.result = .error e →
      FailsBy functions context (identifiersOfFields fields) e
  | [], _ => by simp [evaluateFields]
  | (_, item) :: rest, _ => by
    rw [evaluateFields, List.forall_mem_cons]
    exact ⟨fun h ↦ (failsBy_evaluate item h).left,
      fun x hx h ↦ (failsBy_evaluateFields rest x hx h).right⟩

end

end FailsBy

/-- Unless it names the context as a whole, an expression comes to the same, with the same calls,
wherever its identifiers have the same values. An identifier that it fails by is one of its own and
unbound, or one that a function answered with. -/
theorem Expr.sees_what_it_names (functions : Functions) (expr : Expr) :
    (reservedName ∉ expr.identifiers → ∀ context other : Context,
      (∀ name ∈ expr.identifiers, context.get? name = other.get? name) →
        expr.evaluate functions context = expr.evaluate functions other) ∧
    ∀ (context : Context) (name : String),
      (∀ call, Reaches functions context call →
        (functions call.name call.arguments).result ≠ .error (.unknownIdentifier name)) →
      (expr.evaluate functions context).result = .error (.unknownIdentifier name) →
        name ∈ expr.identifiers ∧ name ≠ reservedName ∧ context.get? name = none := by
  constructor
  · intro hreserved context other hvalues
    exact expr.evaluate_eq_of_agreeOn functions ⟨hreserved, hvalues⟩
  · intro context name hanswers hresult
    cases expr.failsBy_evaluate hresult with
    | unbound hmem hname hnone => exact ⟨hmem, hname, hnone⟩
    | answer hcall hanswer => exact absurd hanswer (hanswers _ hcall)

/-! ### An identifier that only one branch needs -/

/-- Every call is answered with the array of its arguments. -/
def echoing : Functions := fun _ arguments ↦ ⟨0, .ok (.array arguments)⟩

/-- `ready ? greet(name) : fallback` -/
def greeting : Expr :=
  .conditional (.ident "ready") (.call (.ident "greet") [.ident "name"]) (.ident "fallback")

def greetingContext (ready : Bool) (rest : List (String × Value)) : Context :=
  ⟨("ready", .bool ready) :: ("greet", .function "greet") :: rest⟩

theorem greeting_sees_what_it_names :
    reservedName ∉ greeting.identifiers ∧
    (∀ name ∈ greeting.identifiers,
      (greetingContext true [("name", .string "web"), ("token", .string "a")]).get? name =
        (greetingContext true [("token", .string "b"), ("name", .string "web")]).get? name) ∧
    greeting.evaluate echoing
        (greetingContext true [("name", .string "web"), ("token", .string "a")]) =
      greeting.evaluate echoing
        (greetingContext true [("token", .string "b"), ("name", .string "web")]) ∧
    (greeting.evaluate echoing (greetingContext false [("name", .string "web")])).result =
      .error (.unknownIdentifier "fallback") ∧
    "fallback" ∈ greeting.identifiers ∧ "fallback" ≠ reservedName ∧
    (greetingContext false [("name", .string "web")]).get? "fallback" = none := by
  have hreserved : reservedName ∉ greeting.identifiers := by decide
  have hvalues : ∀ name ∈ greeting.identifiers,
      (greetingContext true [("name", .string "web"), ("token", .string "a")]).get? name =
        (greetingContext true [("token", .string "b"), ("name", .string "web")]).get? name := by
    change ∀ name ∈ ["ready", "greet", "name", "fallback"], _
    simp only [List.forall_mem_cons]
    exact ⟨rfl, rfl, rfl, rfl, by simp⟩
  have hresult :
      (greeting.evaluate echoing (greetingContext false [("name", .string "web")])).result =
        .error (.unknownIdentifier "fallback") := rfl
  have hanswers : ∀ call, Reaches echoing (greetingContext false [("name", .string "web")]) call →
      (echoing call.name call.arguments).result ≠ .error (.unknownIdentifier "fallback") := by
    intro call _ hanswer
    cases hanswer
  obtain ⟨hsame, hunknown⟩ := Expr.sees_what_it_names echoing greeting
  exact ⟨hreserved, hvalues, hsame hreserved _ _ hvalues, hresult, hunknown _ _ hanswers hresult⟩

end ClusterPlan.Template
