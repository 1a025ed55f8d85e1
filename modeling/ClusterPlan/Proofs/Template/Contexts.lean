import ClusterPlan.Proofs.Activity
import ClusterPlan.Proofs.Fields
import ClusterPlan.Template.Eval
import Mathlib.Data.List.Induction
import Mathlib.Logic.Function.Basic

/-!
# Contexts as ordered maps

Several contexts are empty at first. Then names are bound in them, and one of them is copied over
another. Whatever has been done, each has the names that have been bound in it in the order of their
first bindings, each with the value of its last one. The name that stands for a context as a whole
is never among them, and the members of that whole are the values of the names.
-/

namespace ClusterPlan.Template

namespace Context

/-- A name is bound in a context, or all that another context binds is. -/
inductive Operation (ι : Type) where
  | insert (target : ι) (name : String) (value : Value)
  | extend (target source : ι)

section Operations

variable {ι : Type} [DecidableEq ι]

def Operation.run (contexts : ι → Context) : Operation ι → Except Error (ι → Context)
  | .insert target name value =>
    ((contexts target).insert name value).map (Function.update contexts target)
  | .extend target source =>
    .ok (Function.update contexts target ((contexts target).extend (contexts source)))

/-- An operation that fails leaves all contexts as they are. -/
def Operation.apply (contexts : ι → Context) (operation : Operation ι) : ι → Context :=
  match operation.run contexts with
  | .ok after => after
  | .error _ => contexts

def run (operations : List (Operation ι)) : ι → Context :=
  operations.foldl Operation.apply fun _ ↦ ∅

/-- What has been bound in each context, in the order of time. What is bound in a context by way of
another is all that has been bound in that one. -/
def Operation.record (bindings : ι → List (String × Value)) :
    Operation ι → ι → List (String × Value)
  | .insert target name value =>
    if name = reservedName then bindings
    else Function.update bindings target (bindings target ++ [(name, value)])
  | .extend target source =>
    Function.update bindings target (bindings target ++ bindings source)

def bindingsOf (operations : List (Operation ι)) : ι → List (String × Value) :=
  operations.foldl Operation.record fun _ ↦ []

end Operations

/-- The member of the whole context that has a name: `__context["name"]`. -/
def memberOfWhole (name : String) : Expr :=
  .index (.ident reservedName) (.literal (.string name))

example : Expr.parse "__context[\"odd-key\"]" = .ok (memberOfWhole "odd-key") := by
  cbv

/-- The context is the map that some bindings make. -/
structure IsOrderedMap (bindings : List (String × Value)) (context : Context) : Prop where
  nodup : context.names.Nodup
  names_eq : context.names = (bindings.map Prod.fst).eraseDups
  get?_eq : ∀ name, context.get? name = bindings.reverse.lookup name
  unreserved : reservedName ∉ context.names
  evaluate_bound : ∀ functions name value, context.get? name = some value →
    (memberOfWhole name).evaluate functions context = pure value
  evaluate_unbound : ∀ functions name, context.get? name = none →
    (memberOfWhole name).evaluate functions context = pure .undefined

/-- What operations make of contexts that are empty at first. -/
structure KeepsOrder {ι : Type} [DecidableEq ι] (operations : List (Operation ι)) : Prop where
  isOrderedMap : ∀ i, IsOrderedMap (bindingsOf operations i) (run operations i)
  refuses : ∀ i value,
    (run operations i).insert reservedName value = .error (.reserved reservedName) ∧
      run (operations ++ [.insert i reservedName value]) = run operations
  accepts : ∀ i name value, name ≠ reservedName → (run operations i).insert name value =
    .ok (run (operations ++ [.insert i name value]) i)
  extend_eq : ∀ i j, (run operations i).insertAll (run operations j).entries =
    .ok ((run operations i).extend (run operations j))

/-! ### First and last bindings -/

theorem lookup_reverse {entries : List (String × Value)} (h : (entries.map Prod.fst).Nodup)
    (name : String) : entries.reverse.lookup name = entries.lookup name := by
  have hreverse : (entries.reverse.map Prod.fst).Nodup := by
    rwa [List.map_reverse, List.nodup_reverse]
  ext value
  rw [lookup_eq_some_iff_of_nodup hreverse, lookup_eq_some_iff_of_nodup h, List.mem_reverse]

theorem eraseDups_concat (names : List String) (name : String) :
    (names ++ [name]).eraseDups =
      if name ∈ names then names.eraseDups else names.eraseDups ++ [name] := by
  rw [List.eraseDups_append]
  split
  next hmem => simp [List.removeAll, hmem]
  next hnew => simp [List.removeAll, hnew, List.eraseDups_cons]

theorem nodup_eraseDups (names : List String) : names.eraseDups.Nodup := by
  induction names using List.reverseRecOn with
  | nil => exact List.nodup_nil
  | append_singleton names name ih =>
    rw [eraseDups_concat]
    split
    next => exact ih
    next hnew => exact List.concat_eq_append ▸ ih.concat (mt List.mem_eraseDups.mp hnew)

/-- Only the first of several equal names counts, so those behind it may as well be left out. -/
theorem eraseDups_append_eraseDups (names more : List String) :
    (names ++ more.eraseDups).eraseDups = (names ++ more).eraseDups := by
  induction more using List.reverseRecOn with
  | nil => rfl
  | append_singleton more name ih =>
    rw [eraseDups_concat, ← List.append_assoc, eraseDups_concat, ← ih]
    by_cases hmore : name ∈ more
    · rw [if_pos hmore, if_pos (List.mem_append_right names hmore)]
    · rw [if_neg hmore, ← List.append_assoc, eraseDups_concat]
      simp only [List.mem_append, List.mem_eraseDups]

/-! ### One binding -/

section Put

variable {bindings more : List (String × Value)} {context other : Context} {name : String}
  {value : Value}

theorem names_put (context : Context) (name : String) (value : Value) :
    (context.put name value).names =
      if name ∈ context.names then context.names else context.names ++ [name] := by
  obtain ⟨entries⟩ := context
  unfold put names
  dsimp only
  induction entries with
  | nil => simp [putEntry]
  | cons entry rest ih =>
    obtain ⟨first, old⟩ := entry
    rw [putEntry]
    by_cases hfirst : first = name
    · simp [hfirst]
    · rw [if_neg hfirst, List.map_cons, ih, apply_ite (first :: ·)]
      simp only [List.map_cons, List.mem_cons, Ne.symm hfirst, false_or, List.cons_append]

theorem get?_put (context : Context) (name : String) (value : Value) (other : String) :
    (context.put name value).get? other =
      if other = name then some value else context.get? other := by
  obtain ⟨entries⟩ := context
  unfold put get?
  dsimp only
  induction entries with
  | nil => exact lookup_cons_eq_ite []
  | cons entry rest ih =>
    obtain ⟨first, old⟩ := entry
    rw [putEntry]
    split
    next hfirst => exact hfirst ▸ lookup_cons_replace old rest
    next hfirst => exact lookup_cons_of_ne hfirst ih old

/-- What has been bound tells the names of a context and their values. -/
structure Holds (bindings : List (String × Value)) (context : Context) : Prop where
  unreserved : reservedName ∉ bindings.map Prod.fst
  names_eq : context.names = (bindings.map Prod.fst).eraseDups
  get?_eq : ∀ name, context.get? name = bindings.reverse.lookup name

theorem holds_empty : Holds [] ∅ := ⟨by simp, rfl, fun _ ↦ rfl⟩

theorem Holds.put (h : Holds bindings context) (hname : name ≠ reservedName) (value : Value) :
    Holds (bindings ++ [(name, value)]) (context.put name value) where
  unreserved := by
    rw [List.map_append, List.mem_append, not_or]
    exact ⟨h.unreserved, by simpa using hname.symm⟩
  names_eq := by
    rw [names_put, List.map_append, List.map_singleton, eraseDups_concat, h.names_eq]
    simp only [List.mem_eraseDups]
  get?_eq other := by
    rw [get?_put, List.reverse_concat, lookup_cons_eq_ite, h.get?_eq]

theorem Holds.nodup (h : Holds bindings context) : context.names.Nodup :=
  h.names_eq ▸ nodup_eraseDups _

theorem Holds.notMem_names (h : Holds bindings context) : reservedName ∉ context.names := by
  rw [h.names_eq, List.mem_eraseDups]
  exact h.unreserved

/-! ### All bindings of another context -/

theorem Holds.foldl_put (h : Holds bindings context) {entries : List (String × Value)}
    (hentries : reservedName ∉ entries.map Prod.fst) :
    Holds (bindings ++ entries) (entries.foldl (fun context (k, v) ↦ context.put k v) context) := by
  induction entries generalizing bindings context with
  | nil => exact (List.append_nil bindings).symm ▸ h
  | cons entry rest ih =>
    rw [List.map_cons, List.mem_cons, not_or] at hentries
    rw [List.append_cons]
    exact ih (h.put (Ne.symm hentries.1) entry.2) hentries.2

/-- Of another context only its first and last bindings are seen, and these are all that counts. -/
theorem Holds.extend (h : Holds bindings context) (hother : Holds more other) :
    Holds (bindings ++ more) (context.extend other) := by
  -- What is put are the entries of the other context, not all of `more`: each name once, so order
  -- and values have to be carried over from one list to the other.
  have hput := h.foldl_put hother.notMem_names
  constructor
  · rw [List.map_append, List.mem_append, not_or]
    exact ⟨h.unreserved, hother.unreserved⟩
  · calc
      (context.extend other).names = (bindings.map Prod.fst ++ other.names).eraseDups :=
        hput.names_eq.trans (congrArg List.eraseDups List.map_append)
      _ = (bindings.map Prod.fst ++ more.map Prod.fst).eraseDups := by
        rw [hother.names_eq, eraseDups_append_eraseDups]
      _ = _ := by rw [List.map_append]
  · intro name
    calc
      (context.extend other).get? name =
          (other.entries.reverse.lookup name).or (bindings.reverse.lookup name) := by
        rw [← List.lookup_append, ← List.reverse_append]
        exact hput.get?_eq name
      _ = (more.reverse.lookup name).or (bindings.reverse.lookup name) := by
        rw [lookup_reverse hother.nodup, ← hother.get?_eq]
        rfl
      _ = _ := by rw [← List.lookup_append, ← List.reverse_append]

/-- Names that may be bound are bound one after the other. -/
theorem insertAll_eq_ok {entries : List (String × Value)}
    (h : reservedName ∉ entries.map Prod.fst) :
    context.insertAll entries =
      .ok (entries.foldl (fun context (k, v) ↦ context.put k v) context) := by
  induction entries generalizing context with
  | nil => rfl
  | cons entry rest ih =>
    obtain ⟨first, v⟩ := entry
    rw [List.map_cons, List.mem_cons, not_or] at h
    rw [insertAll, insert, if_neg (Ne.symm h.1)]
    exact ih h.2

/-! ### The whole context -/

/-- Putting the entries in order of their names changes no value. -/
theorem evaluate_memberOfWhole (h : context.names.Nodup) (functions : Functions) (name : String) :
    (memberOfWhole name).evaluate functions context =
      pure ((context.get? name).getD .undefined) := by
  have hvalue : (sortFields context.entries).lookup name = context.get? name :=
    (lookup_foldl_insertSorted h [] name).trans Option.or_none
  have hwhole : (Expr.ident reservedName).evaluate functions context = pure context.toValue := by
    rw [Expr.evaluate, Context.lookup, if_pos rfl]
    rfl
  have hkey : (Expr.literal (.string name)).evaluate functions context = pure (.string name) := by
    rw [Expr.evaluate]
    rfl
  rw [memberOfWhole, Expr.evaluate, hwhole, Activity.pure_andThen, hkey, Activity.pure_andThen,
    ← hvalue]
  rfl

theorem Holds.isOrderedMap (h : Holds bindings context) : IsOrderedMap bindings context where
  nodup := h.nodup
  names_eq := h.names_eq
  get?_eq := h.get?_eq
  unreserved := h.notMem_names
  evaluate_bound functions name value hvalue := by
    rw [evaluate_memberOfWhole h.nodup, hvalue, Option.getD_some]
  evaluate_unbound functions name hnone := by
    rw [evaluate_memberOfWhole h.nodup, hnone, Option.getD_none]

end Put

/-! ### Operations -/

section Operations

variable {ι : Type} [DecidableEq ι] {contexts : ι → Context}
  {bindings : ι → List (String × Value)} {operations : List (Operation ι)}

theorem apply_insert_reservedName (contexts : ι → Context) (i : ι) (value : Value) :
    (Operation.insert i reservedName value).apply contexts = contexts := rfl

theorem apply_insert {name : String} (h : name ≠ reservedName) (i : ι) (value : Value) :
    (Operation.insert i name value).apply contexts =
      Function.update contexts i ((contexts i).put name value) := by
  unfold Operation.apply Operation.run Context.insert
  dsimp only
  rw [if_neg h]
  rfl

/-- Each operation does to the contexts what it does to the record of their bindings. -/
theorem holds_apply (h : ∀ i, Holds (bindings i) (contexts i)) (operation : Operation ι) :
    ∀ i, Holds (operation.record bindings i) (operation.apply contexts i) := by
  cases operation with
  | insert target name value =>
    unfold Operation.record
    dsimp only
    by_cases hname : name = reservedName
    · rw [if_pos hname, hname, apply_insert_reservedName]
      exact h
    · rw [if_neg hname, apply_insert hname]
      intro i
      by_cases hi : i = target
      · subst hi
        simpa using (h i).put hname value
      · simpa [hi] using h i
  | extend target source =>
    unfold Operation.record Operation.apply Operation.run
    dsimp only
    intro i
    by_cases hi : i = target
    · subst hi
      simpa using (h i).extend (h source)
    · simpa [hi] using h i

theorem holds_run (operations : List (Operation ι)) :
    ∀ i, Holds (bindingsOf operations i) (run operations i) := by
  unfold bindingsOf run
  -- The last operation is taken off, since it is the one that is applied to what the others made.
  induction operations using List.reverseRecOn with
  | nil => exact fun _ ↦ holds_empty
  | append_singleton operations operation ih =>
    rw [List.foldl_append, List.foldl_append]
    exact holds_apply ih operation

theorem run_concat (operations : List (Operation ι)) (operation : Operation ι) :
    run (operations ++ [operation]) = operation.apply (run operations) := by
  rw [run, List.foldl_append]
  rfl

theorem keepsOrder (operations : List (Operation ι)) : KeepsOrder operations where
  isOrderedMap i := (holds_run operations i).isOrderedMap
  refuses i value := ⟨rfl, run_concat operations _⟩
  accepts i name value hname := by
    rw [run_concat, apply_insert hname, Function.update_self, Context.insert, if_neg hname]
  extend_eq i j := insertAll_eq_ok (holds_run operations j).notMem_names

end Operations

end Context

end ClusterPlan.Template
