import ClusterPlan.Proofs.Sequence
import ClusterPlan.State

/-!
# Resources that are not servers

The provisioner records all its resources in one file, of which only servers under its management
are wanted. The state is the same for all files that can be read and that have the same of these
servers in the same order. But the other resources are read like these before they are left out, so
whether a file can be read depends on them: one more of them is of no account exactly when it has
the form that is asked of a server, with attributes in all its instances.
-/

namespace ClusterPlan.State

/-- What a record gives as one of its fields, if it gives that field at all. An object must not give
it twice; an array gives fields by their places, and no more than there are. -/
inductive Gives (names : List String) (name : String) : Json → Option Json → Prop
  | named {fields : List (String × Json)} {given : Option Json}
      (h : fields.filter (·.1 == name) = given.toList.map fun value ↦ (name, value)) :
      Gives names name (.object fields) given
  | placed {items : List Json} (h : items.length ≤ names.length) :
      Gives names name (.array items) ((names.zip items).lookup name)

def fileFields : List String := ["version", "resources"]

def resourceFields : List String := ["mode", "type", "instances"]

/-- An instance gives its attributes, with numbers that can be told apart from infinite ones. -/
def IsInstance (record : Json) : Prop :=
  ∃ attributes, Gives ["attributes"] "attributes" record (some attributes) ∧ attributes.inRange

/-- The form of resources of every kind. -/
structure IsResource (record : Json) : Prop where
  mode : ∃ given, Gives resourceFields "mode" record given ∧ ∀ value ∈ given, ∃ s, value = .string s
  type : ∃ s, Gives resourceFields "type" record (some (.string s))
  instances : ∃ given, Gives resourceFields "instances" record given ∧
    ∀ value ∈ given, ∃ items, value = .array items ∧ ∀ item ∈ items, IsInstance item

/-- A resource that is not a server, or is one that has only been looked up. -/
def IsForeign (record : Json) : Prop :=
  Gives resourceFields "type" record (some (.string serverType)) →
    Gives resourceFields "mode" record (some (.string "data"))

/-- The resources that a file lists; it need not have a list. -/
def Lists (file : Json) (items : List Json) : Prop :=
  Gives fileFields "resources" file (some (.array items)) ∨
    Gives fileFields "resources" file none ∧ items = []

/-- The second file has one more resource than the first, at any place. -/
inductive Adds (added : Json) : Json → Json → Prop
  | listed (fieldsBefore fieldsAfter : List (String × Json)) (before after : List Json) :
      Adds added
        (.object (fieldsBefore ++ ("resources", .array (before ++ after)) :: fieldsAfter))
        (.object (fieldsBefore ++ ("resources", .array (before ++ added :: after)) :: fieldsAfter))
  | unlisted (fieldsBefore fieldsAfter : List (String × Json))
      (h : ∀ field ∈ fieldsBefore ++ fieldsAfter, field.1 ≠ "resources") :
      Adds added (.object (fieldsBefore ++ fieldsAfter))
        (.object (fieldsBefore ++ ("resources", .array [added]) :: fieldsAfter))
  | placed (version : Json) (before after : List Json) :
      Adds added (.array [version, .array (before ++ after)])
        (.array [version, .array (before ++ added :: after)])
  | unplaced (version : Json) :
      Adds added (.array [version]) (.array [version, .array [added]])

/-- Two lists differ in nothing but resources that are not servers under management. -/
inductive SameServers : List Json → List Json → Prop
  | nil : SameServers [] []
  | both {items others : List Json} (record : Json) (h : SameServers items others) :
      SameServers (record :: items) (record :: others)
  | left {items others : List Json} {record : Json} (hforeign : IsForeign record)
      (h : SameServers items others) : SameServers (record :: items) others
  | right {items others : List Json} {record : Json} (hforeign : IsForeign record)
      (h : SameServers items others) : SameServers items (record :: others)

/-! ### Records -/

section Records

variable {names : List String} {name : String} {record : Json} {given : Option Json}

theorem gives_iff :
    Gives names name record given ↔ recordField? names name record = some given := by
  constructor
  · rintro (h | h)
    · rw [recordField?, h]
      cases given with
      | none => rfl
      | some value => rfl
    · exact if_pos h
  · intro h
    unfold recordField? at h
    split at h
    next fields =>
      split at h
      next hnone =>
        obtain rfl := Option.some.inj h
        exact .named hnone
      next key value hone =>
        obtain rfl := Option.some.inj h
        have hkey : key = name := by
          have hmem : (key, value) ∈ fields.filter (·.1 == name) := by simp [hone]
          simpa using (List.mem_filter.mp hmem).2
        exact .named (hkey ▸ hone)
      next => cases h
    next items =>
      split at h
      next hlength =>
        obtain rfl := Option.some.inj h
        exact .placed hlength
      next => cases h
    next => cases h

theorem Gives.unique {other : Option Json} (h : Gives names name record given)
    (hother : Gives names name record other) : given = other :=
  Option.some.inj ((gives_iff.mp h).symm.trans (gives_iff.mp hother))

theorem gives_here_iff {fieldsBefore fieldsAfter : List (String × Json)} {value : Json} :
    Gives names name (.object (fieldsBefore ++ (name, value) :: fieldsAfter)) given ↔
      (∀ field ∈ fieldsBefore ++ fieldsAfter, field.1 ≠ name) ∧ given = some value := by
  constructor
  · rintro ⟨h⟩
    rw [List.filter_append, List.filter_cons_of_pos (by simp)] at h
    cases given with
    | none => simp at h
    | some other =>
      simp only [Option.toList_some, List.map_cons, List.map_nil, List.append_eq_singleton_iff,
        List.cons.injEq, Prod.mk.injEq, true_and, reduceCtorEq, and_false, or_false] at h
      obtain ⟨hbefore, rfl, hafter⟩ := h
      have hothers : (fieldsBefore ++ fieldsAfter).filter (·.1 == name) = [] := by
        rw [List.filter_append, hbefore, hafter, List.append_nil]
      exact ⟨fun field hfield ↦ by simpa using List.filter_eq_nil_iff.mp hothers field hfield, rfl⟩
  · rintro ⟨hothers, rfl⟩
    have hnone : (fieldsBefore ++ fieldsAfter).filter (·.1 == name) = [] :=
      List.filter_eq_nil_iff.mpr fun field hfield ↦ by simpa using hothers field hfield
    obtain ⟨hbefore, hafter⟩ := List.append_eq_nil_iff.mp (List.filter_append .. ▸ hnone)
    refine .named ?_
    rw [List.filter_append, List.filter_cons_of_pos (by simp), hbefore, hafter]
    rfl

theorem gives_none {fields : List (String × Json)} (h : ∀ field ∈ fields, field.1 ≠ name) :
    Gives names name (.object fields) none :=
  .named (List.filter_eq_nil_iff.mpr fun field hfield ↦ by simpa using h field hfield)

end Records

/-! ### Resources -/

theorem exists_attributes?_eq_some_iff {item : Json} :
    (∃ attributes, attributes? item = some attributes) ↔ IsInstance item := by
  unfold IsInstance attributes?
  simp [gives_iff, Option.bind_eq_some_iff]

theorem resource?_eq_some_iff {record : Json} {r : Resource} :
    resource? record = some r ↔
      (∃ given, Gives resourceFields "mode" record given ∧ textOr? "" given = some r.mode) ∧
      Gives resourceFields "type" record (some (.string r.type)) ∧
      ∃ given items, Gives resourceFields "instances" record given ∧ listOr? given = some items ∧
        items.mapM attributes? = some r.instances := by
  obtain ⟨mode, type, instances⟩ := r
  unfold resource?
  simp only [gives_iff, Option.bind_eq_bind, Option.bind_eq_some_iff, Option.pure_def]
  constructor
  · rintro ⟨givenMode, hgivenMode, text, htext, givenType, hgivenType, value, rfl, hrest⟩
    cases value with
    | string s =>
      simp only [Option.bind_some, Option.bind_eq_some_iff] at hrest
      obtain ⟨given, hgiven, items, hitems, found, hfound, hsame⟩ := hrest
      obtain ⟨rfl, rfl, rfl⟩ := Resource.mk.inj (Option.some.inj hsame)
      exact ⟨⟨givenMode, hgivenMode, htext⟩, hgivenType, given, items, hgiven, hitems, hfound⟩
    | _ => cases hrest
  · rintro ⟨⟨givenMode, hgivenMode, htext⟩, htype, given, items, hgiven, hitems, hfound⟩
    refine ⟨givenMode, hgivenMode, mode, htext, _, htype, _, rfl, ?_⟩
    simp only [Option.bind_some, Option.bind_eq_some_iff]
    exact ⟨given, hgiven, items, hitems, instances, hfound, rfl⟩

/-! ### Given texts and lists -/

theorem exists_textOr?_iff {fallback : String} {given : Option Json} :
    (∃ s, textOr? fallback given = some s) ↔ ∀ value ∈ given, ∃ s, value = .string s := by
  cases given with
  | none => simp [textOr?]
  | some value => cases value <;> simp [textOr?]

theorem listOr?_eq_some_iff {given : Option Json} {items : List Json} :
    listOr? given = some items ↔ given = some (.array items) ∨ given = none ∧ items = [] := by
  cases given with
  | none => simp [listOr?, eq_comm]
  | some value => cases value <;> simp [listOr?]

/-- What decodes has the form of a resource. -/
theorem exists_resource?_iff {record : Json} :
    (∃ r, resource? record = some r) ↔ IsResource record := by
  have hinstances {items : List Json} : (∃ found, items.mapM attributes? = some found) ↔
      ∀ item ∈ items, IsInstance item := by
    simp only [exists_mapM_eq_some_iff, exists_attributes?_eq_some_iff]
  simp only [resource?_eq_some_iff, listOr?_eq_some_iff]
  constructor
  · rintro ⟨r, ⟨givenMode, hgivenMode, htext⟩, htype, given, items, hgiven, hitems, hfound⟩
    have hmode := exists_textOr?_iff.mp ⟨_, htext⟩
    refine ⟨⟨givenMode, hgivenMode, hmode⟩, ⟨_, htype⟩, given, hgiven, ?_⟩
    rintro value rfl
    rcases hitems with hitems | ⟨hnone, -⟩
    · exact ⟨items, Option.some.inj hitems, hinstances.mp ⟨_, hfound⟩⟩
    · cases hnone
  · rintro ⟨⟨givenMode, hgivenMode, htext⟩, ⟨type, htype⟩, given, hgiven, hlist⟩
    obtain ⟨mode, hmode⟩ := exists_textOr?_iff.mpr htext
    have hitems : ∃ items, (given = some (.array items) ∨ given = none ∧ items = []) ∧
        ∀ item ∈ items, IsInstance item := by
      cases given with
      | none => exact ⟨[], .inr ⟨rfl, rfl⟩, by simp⟩
      | some value =>
        obtain ⟨items, rfl, hitems⟩ := hlist value rfl
        exact ⟨items, .inl rfl, hitems⟩
    obtain ⟨items, hitems, hforms⟩ := hitems
    obtain ⟨found, hfound⟩ := hinstances.mpr hforms
    exact ⟨⟨mode, type, found⟩, ⟨givenMode, hgivenMode, hmode⟩, htype, given, items, hgiven, hitems,
      hfound⟩

/-- Only what is foreign is left out. -/
theorem isManagedServer_iff {record : Json} {r : Resource} (h : resource? record = some r) :
    r.isManagedServer = true ↔ ¬IsForeign record := by
  obtain ⟨⟨given, hgiven, htext⟩, htype, -⟩ := resource?_eq_some_iff.mp h
  have hserver : Gives resourceFields "type" record (some (.string serverType)) ↔
      r.type = serverType := by
    constructor
    · intro hserver
      simpa using htype.unique hserver
    · intro hserver
      exact hserver ▸ htype
  have hdata : Gives resourceFields "mode" record (some (.string "data")) ↔ r.mode = "data" := by
    constructor
    · intro hdata
      obtain rfl := hgiven.unique hdata
      simpa [textOr?, eq_comm] using htext
    · intro hdata
      cases given with
      | none => simp [textOr?, hdata] at htext
      | some value =>
        cases value with
        | string s =>
          simp [textOr?, hdata] at htext
          exact htext ▸ hgiven
        | _ => cases htext
  unfold IsForeign Resource.isManagedServer
  rw [hserver, hdata]
  simp

/-! ### Files -/

/-- The version that a file states, as far as it is a number of 32 bits. -/
def statedVersion? : Option Json → Option ℕ
  | some (.number (.int n)) => if 0 ≤ n ∧ n < Nat.pow 2 32 then some n.toNat else none
  | _ => none

theorem lists_iff {file : Json} {items : List Json} :
    Lists file items ↔ ∃ given, Gives fileFields "resources" file given ∧
      listOr? given = some items := by
  simp only [listOr?_eq_some_iff]
  constructor
  · rintro (h | ⟨h, rfl⟩)
    · exact ⟨_, h, .inl rfl⟩
    · exact ⟨_, h, .inr ⟨rfl, rfl⟩⟩
  · rintro ⟨_, h, rfl | ⟨rfl, rfl⟩⟩
    · exact .inl h
    · exact .inr ⟨h, rfl⟩

theorem file?_eq (file : Json) :
    file? file = (recordField? fileFields "version" file).bind fun given ↦
      (statedVersion? given).bind fun version ↦
        (recordField? fileFields "resources" file).bind fun given ↦
          (listOr? given).bind fun items ↦
            (items.mapM resource?).bind fun resources ↦ some (version, resources) := by
  unfold file?
  -- Both sides differ only in how a version is matched, which shows once it is given.
  change Option.bind _ _ = Option.bind _ _
  refine congrArg (Option.bind _) (funext fun given ↦ ?_)
  rcases given with _ | (_ | _ | (n | x) | _ | _ | _)
  case some.number.int =>
    unfold statedVersion?
    dsimp only
    split
    · rfl
    · rfl
  all_goals rfl

theorem file?_eq_some_iff {file : Json} {version : ℕ} {resources : List Resource} :
    file? file = some (version, resources) ↔
      (∃ given, Gives fileFields "version" file given ∧ statedVersion? given = some version) ∧
      ∃ items, Lists file items ∧ items.mapM resource? = some resources := by
  simp only [file?_eq, lists_iff, gives_iff, Option.bind_eq_some_iff, Option.some.injEq,
    Prod.mk.injEq]
  constructor
  · rintro ⟨given, hgiven, stated, hstated, list, hlist, items, hitems, found, hfound, rfl, rfl⟩
    exact ⟨⟨given, hgiven, hstated⟩, items, ⟨list, hlist, hitems⟩, hfound⟩
  · rintro ⟨⟨given, hgiven, hstated⟩, items, ⟨list, hlist, hitems⟩, hfound⟩
    exact ⟨given, hgiven, version, hstated, list, hlist, items, hitems, resources, hfound, rfl, rfl⟩

theorem ofJson_eq_ok_iff {file : Json} {state : State} :
    ofJson file = .ok state ↔ ∃ resources, file? file = some (supportedVersion, resources) ∧
      ofResources resources = .ok state := by
  unfold ofJson
  cases hfile : file? file with
  | none => simp
  | some found =>
    obtain ⟨version, resources⟩ := found
    by_cases hversion : version = supportedVersion
    · simp [hversion]
    · simp [hversion]

theorem Lists.unique {file : Json} {items others : List Json} (h : Lists file items)
    (hothers : Lists file others) : items = others := by
  obtain ⟨given, hgiven, hitems⟩ := lists_iff.mp h
  obtain ⟨other, hother, hothers⟩ := lists_iff.mp hothers
  obtain rfl := hgiven.unique hother
  exact Option.some.inj (hitems.symm.trans hothers)

/-! ### Servers alone -/

/-- What is foreign is left out of what has been read. -/
theorem SameServers.filter_eq {items others : List Json} {resources more : List Resource}
    (h : SameServers items others)
    (hresources : List.Forall₂ (fun record r ↦ resource? record = some r) items resources)
    (hmore : List.Forall₂ (fun record r ↦ resource? record = some r) others more) :
    resources.filter (·.isManagedServer) = more.filter (·.isManagedServer) := by
  -- By induction on how the lists differ: a record in both is read alike, and one that stands in
  -- only one of them is not kept by the filter.
  induction h generalizing resources more with
  | nil =>
    cases hresources
    cases hmore
    rfl
  | both record _ ih =>
    obtain ⟨r, rest, hr, hrest, rfl⟩ := List.forall₂_cons_left_iff.mp hresources
    obtain ⟨r', rest', hr', hrest', rfl⟩ := List.forall₂_cons_left_iff.mp hmore
    obtain rfl : r = r' := Option.some.inj (hr.symm.trans hr')
    rw [List.filter_cons, List.filter_cons, ih hrest hrest']
  | left hforeign _ ih =>
    obtain ⟨r, rest, hr, hrest, rfl⟩ := List.forall₂_cons_left_iff.mp hresources
    rw [List.filter_cons_of_neg fun hserver ↦ (isManagedServer_iff hr).mp hserver hforeign]
    exact ih hrest hmore
  | right hforeign _ ih =>
    obtain ⟨r, rest, hr, hrest, rfl⟩ := List.forall₂_cons_left_iff.mp hmore
    rw [List.filter_cons_of_neg fun hserver ↦ (isManagedServer_iff hr).mp hserver hforeign]
    exact ih hresources hrest

theorem ofResources_eq_of_sameServers {items others : List Json} {resources more : List Resource}
    (h : SameServers items others) (hresources : items.mapM resource? = some resources)
    (hmore : others.mapM resource? = some more) : ofResources more = ofResources resources := by
  unfold ofResources
  rw [h.filter_eq (mapM_eq_some_iff.mp hresources) (mapM_eq_some_iff.mp hmore)]

/-- Two files that can be read and have the same servers are read as the same state. -/
theorem ofJson_eq_of_sameServers {file other : Json} {items others : List Json}
    {state otherState : State} (hitems : Lists file items) (hothers : Lists other others)
    (h : SameServers items others) (hfile : ofJson file = .ok state)
    (hother : ofJson other = .ok otherState) : otherState = state := by
  obtain ⟨resources, hread, hstate⟩ := ofJson_eq_ok_iff.mp hfile
  obtain ⟨more, hmore, hotherState⟩ := ofJson_eq_ok_iff.mp hother
  obtain ⟨-, _, hlisted, hresources⟩ := file?_eq_some_iff.mp hread
  obtain ⟨-, _, hotherListed, hmoreResources⟩ := file?_eq_some_iff.mp hmore
  obtain rfl := hlisted.unique hitems
  obtain rfl := hotherListed.unique hothers
  rw [ofResources_eq_of_sameServers h hresources hmoreResources, hstate] at hotherState
  exact (Except.ok.inj hotherState).symm

theorem SameServers.insert {added : Json} (hforeign : IsForeign added) (before after : List Json) :
    SameServers (before ++ after) (before ++ added :: after) := by
  induction before with
  | nil =>
    refine .right hforeign ?_
    induction after with
    | nil => exact .nil
    | cons record after ih => exact .both record ih
  | cons record before ih => exact .both record ih

/-! ### One more resource -/

section Adds

variable {added file longer : Json} {state : State}

theorem Adds.gives_version {given : Option Json} (h : Adds added file longer)
    (hversion : Gives fileFields "version" file given) :
    Gives fileFields "version" longer given := by
  rw [gives_iff] at hversion ⊢
  rw [← hversion]
  cases h with
  | listed | unlisted => simp [recordField?, List.filter_append]
  | placed | unplaced => simp [recordField?, fileFields]

theorem Adds.lists {items : List Json} (h : Adds added file longer) (hitems : Lists file items) :
    ∃ before after, items = before ++ after ∧ Lists longer (before ++ added :: after) := by
  cases h with
  | listed fieldsBefore fieldsAfter before after =>
    rcases hitems with hitems | ⟨hnone, -⟩
    · obtain ⟨hothers, hsame⟩ := gives_here_iff.mp hitems
      obtain rfl : items = before ++ after := by simpa using hsame
      exact ⟨before, after, rfl, .inl (gives_here_iff.mpr ⟨hothers, rfl⟩)⟩
    · cases (gives_here_iff.mp hnone).2
  | unlisted fieldsBefore fieldsAfter hothers =>
    obtain rfl := hitems.unique (.inr ⟨gives_none hothers, rfl⟩)
    exact ⟨[], [], rfl, .inl (gives_here_iff.mpr ⟨hothers, rfl⟩)⟩
  | placed version before after =>
    obtain rfl := hitems.unique (.inl (.placed (Nat.le_refl 2)))
    exact ⟨before, after, rfl, .inl (.placed (Nat.le_refl 2))⟩
  | unplaced version =>
    obtain rfl := hitems.unique (.inr ⟨.placed (Nat.le_succ 1), rfl⟩)
    exact ⟨[], [], rfl, .inl (.placed (Nat.le_refl 2))⟩

/-- One more resource of the right form that is not a server is of no account. -/
theorem Adds.ofJson_eq (h : Adds added file longer) (hforeign : IsForeign added)
    (hadded : IsResource added) (hfile : ofJson file = .ok state) : ofJson longer = .ok state := by
  obtain ⟨resources, hread, hstate⟩ := ofJson_eq_ok_iff.mp hfile
  obtain ⟨⟨given, hgiven, hversion⟩, items, hitems, hresources⟩ := file?_eq_some_iff.mp hread
  obtain ⟨before, after, rfl, hlonger⟩ := h.lists hitems
  -- The longer list is read as a whole only because each of its records is.
  have hall : ∀ record ∈ before ++ added :: after, ∃ r, resource? record = some r := by
    have hold := exists_mapM_eq_some_iff.mp ⟨_, hresources⟩
    intro record hrecord
    rcases List.mem_append.mp hrecord with hbefore | hrest
    · exact hold record (List.mem_append_left _ hbefore)
    · rcases List.mem_cons.mp hrest with rfl | hafter
      · exact exists_resource?_iff.mpr hadded
      · exact hold record (List.mem_append_right _ hafter)
  obtain ⟨more, hmore⟩ := exists_mapM_eq_some_iff.mpr hall
  refine ofJson_eq_ok_iff.mpr ⟨more, file?_eq_some_iff.mpr ?_, ?_⟩
  · exact ⟨⟨given, h.gives_version hgiven, hversion⟩, _, hlonger, hmore⟩
  · rw [ofResources_eq_of_sameServers (.insert hforeign before after) hresources hmore, hstate]

/-- One more resource of another form keeps the file from being read. -/
theorem Adds.ofJson_eq_malformed (h : Adds added file longer) (hadded : ¬IsResource added)
    (hfile : ofJson file = .ok state) : ofJson longer = .error .malformed := by
  obtain ⟨resources, hread, -⟩ := ofJson_eq_ok_iff.mp hfile
  obtain ⟨-, items, hitems, -⟩ := file?_eq_some_iff.mp hread
  obtain ⟨before, after, -, hlonger⟩ := h.lists hitems
  have hnone : file? longer = none := by
    rw [Option.eq_none_iff_forall_not_mem]
    rintro ⟨version, more⟩ hmore
    obtain ⟨-, others, hothers, hfound⟩ := file?_eq_some_iff.mp hmore
    obtain rfl := hothers.unique hlonger
    have hrecord := exists_mapM_eq_some_iff.mp ⟨_, hfound⟩ added (by simp)
    exact hadded (exists_resource?_iff.mp hrecord)
  rw [ofJson, hnone]

end Adds

/-! ### Texts -/

theorem parse_eq_ofJson {text : String} {file : Json} (h : Json.read? text = some file) :
    parse text = ofJson file := by
  rw [parse, h]

/-- One more resource that is not a server under management keeps the state if it has the form of a
resource, and else makes the file malformed. Among files that can be read the state depends on the
servers under management alone. -/
theorem parse_of_addsForeign {text extended : String} {file longer added : Json} {state : State}
    (htext : Json.read? text = some file) (hextended : Json.read? extended = some longer)
    (hadds : Adds added file longer) (hforeign : IsForeign added)
    (hstate : parse text = .ok state) :
    (IsResource added → parse extended = .ok state) ∧
    (¬IsResource added → parse extended = .error .malformed) ∧
    ∀ (other : String) (otherFile : Json) (items others : List Json) (otherState : State),
      Json.read? other = some otherFile → Lists file items → Lists otherFile others →
      SameServers items others → parse other = .ok otherState → otherState = state := by
  rw [parse_eq_ofJson htext] at hstate
  rw [parse_eq_ofJson hextended]
  refine ⟨fun hadded ↦ hadds.ofJson_eq hforeign hadded hstate,
    fun hadded ↦ hadds.ofJson_eq_malformed hadded hstate, ?_⟩
  intro other otherFile items others otherState hother hitems hothers hsame hotherState
  rw [parse_eq_ofJson hother] at hotherState
  exact ofJson_eq_of_sameServers hitems hothers hsame hstate hotherState

/-- A file of the supported version, with fields in the order in which they are written. -/
def fileOf (resources : List Json) : Json :=
  .object [("version", .number (.int 4)), ("resources", .array resources)]

def webServer : Json :=
  .object [("type", .string serverType), ("instances", .array [.object [("attributes",
    .object [("name", .string "web-1"), ("ipv4_address", .string "10.0.0.1")])]])]

/-- Attributes of a resource whose kind has no schema are recorded under another name. -/
def flatResource : Json :=
  .object [("type", .string "null_resource"), ("instances", .array [.object [("attributes_flat",
    .object [("id", .string "1")])]])]

def serverText : String :=
  "\x7b\"version\":4,\"resources\":[" ++
  "\x7b\"type\":\"hcloud_server\",\"instances\":[\x7b\"attributes\":" ++
  "\x7b\"name\":\"web-1\",\"ipv4_address\":\"10.0.0.1\"\x7d\x7d]\x7d]\x7d"

def flatText : String :=
  "\x7b\"version\":4,\"resources\":[" ++
  "\x7b\"type\":\"null_resource\",\"instances\":[" ++
  "\x7b\"attributes_flat\":\x7b\"id\":\"1\"\x7d\x7d]\x7d," ++
  "\x7b\"type\":\"hcloud_server\",\"instances\":[\x7b\"attributes\":" ++
  "\x7b\"name\":\"web-1\",\"ipv4_address\":\"10.0.0.1\"\x7d\x7d]\x7d]\x7d"

set_option maxRecDepth 8000 in
theorem read?_serverText : Json.read? serverText = some (fileOf [webServer]) := by
  with_unfolding_all rfl

set_option maxRecDepth 8000 in
theorem read?_flatText : Json.read? flatText = some (fileOf [flatResource, webServer]) := by
  with_unfolding_all rfl

theorem isForeign_flatResource : IsForeign flatResource := by
  intro hserver
  have htype : Gives resourceFields "type" flatResource (some (.string "null_resource")) :=
    gives_iff.mpr rfl
  have hsame := hserver.unique htype
  simp [serverType] at hsame

theorem not_isResource_flatResource : ¬IsResource flatResource := by
  intro hresource
  obtain ⟨r, hr⟩ := exists_resource?_iff.mpr hresource
  cases hr

/-- A resource that is no server, in a form in which the provisioner writes it, makes a file that
could be read malformed. -/
theorem parse_flatText :
    (∃ state, parse serverText = .ok state ∧ state.size = 1) ∧
    Adds flatResource (fileOf [webServer]) (fileOf [flatResource, webServer]) ∧
    IsForeign flatResource ∧ parse flatText = .error .malformed := by
  have hadds : Adds flatResource (fileOf [webServer]) (fileOf [flatResource, webServer]) :=
    .listed [("version", .number (.int 4))] [] [] [webServer]
  have hstate : parse serverText = .ok ⟨[("web-1", ⟨"10.0.0.1",
      .object [("name", .string "web-1"), ("ipv4_address", .string "10.0.0.1")]⟩)]⟩ := by
    rw [parse_eq_ofJson read?_serverText]
    rfl
  refine ⟨⟨_, hstate, rfl⟩, hadds, isForeign_flatResource, ?_⟩
  exact (parse_of_addsForeign read?_serverText read?_flatText hadds isForeign_flatResource
    hstate).2.1 not_isResource_flatResource

end ClusterPlan.State
