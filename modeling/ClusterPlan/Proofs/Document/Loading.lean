import ClusterPlan.Bindings.Global
import ClusterPlan.Proofs.Document.Strings
import ClusterPlan.Proofs.Template.Shown

/-!
# Loading documents

Loading renders the strings of keys, volumes and servers and then builds what the document has
become. As far as nothing waits, it stops at the first entity with a string that cannot be
rendered, section after section and each in its order, with what the first such string of the entity
fails by. A document without `${` in these strings is loaded as it is read, and nothing is called.
-/

namespace ClusterPlan.Document

open Entity Activity
open Template (IsPrompt)

section Rendering

variable (r : Renderer)

/-- What a string of a document comes to by itself. -/
def Renderer.shown (template : String) : Except Template.Error String := (r.render template).result

/-- The rendered form of a string that has one. -/
def Renderer.text (template : String) : String := (r.shown template).toOption.getD template

/-- An entity as it stands in a document: its kind, its name and its options. -/
abbrev Entry := Kind × String × Yaml

/-- The entities of a section whose strings are rendered. -/
def renderedIn (kind : Kind) (entries : Entries) : List Entry :=
  if kind = .service then [] else entries.map (kind, ·)

/-- The entities whose strings are rendered, in the order in which they are worked through. -/
def renderedEntries (sections : Sections) : List Entry :=
  sections.flatMap fun (kind, entries) ↦ renderedIn kind entries

theorem renderedEntries_cons (kind : Kind) (entries : Entries) (rest : Sections) :
    renderedEntries ((kind, entries) :: rest) = renderedIn kind entries ++ renderedEntries rest :=
  rfl

/-- Some string of the entity cannot be rendered. -/
def Unrendered (entry : Entry) : Prop := ∃ s ∈ leaves entry.2.2, FailsAt r.shown s

/-- The first entity with a string that cannot be rendered, and what the first such string of it
fails by. -/
def FailsFirst (sections : Sections) (kind : Kind) (name : String) (e : Template.Error) : Prop :=
  ∃ options s, IsFirst (Unrendered r) (renderedEntries sections) (kind, name, options) ∧
    IsFirst (FailsAt r.shown) (leaves options) s ∧ r.shown s = .error e

end Rendering

section Rendering

variable {r : Renderer}

/-! ### Options of an entity -/

theorem waits_renderOptions (h : IsPrompt r.functions r.context) (options : Yaml) :
    (renderOptions r options).waits = 0 := by
  apply waits_andThen_eq_zero
  · apply waits_join_eq_zero
    intro x hx
    obtain ⟨s, -, rfl⟩ := List.mem_map.mp hx
    exact Template.waits_renderWith h s
  · exact fun _ _ ↦ rfl

theorem shown_eq_of_not_failsAt {s : String} (h : ¬FailsAt r.shown s) :
    r.shown s = .ok (r.text s) := by
  obtain ⟨text, htext⟩ := not_failsAt_iff.mp h
  rw [Renderer.text, htext]
  rfl

/-- However long it takes, options whose strings can be rendered have each in its rendered form. -/
theorem result_renderOptions_of_shown {options : Yaml}
    (h : ∀ s ∈ leaves options, ¬FailsAt r.shown s) :
    (renderOptions r options).result = .ok (mapStrings r.text options) := by
  have hshown : (leaves options).mapM r.shown = .ok ((leaves options).map r.text) := by
    rw [mapM_eq_ok_iff, List.forall₂_map_right_iff, List.forall₂_same]
    exact fun s hs ↦ shown_eq_of_not_failsAt (h s hs)
  have hjoin : (join ((leaves options).map r.render)).result =
      .ok ((leaves options).map r.text) := by
    rw [result_join_eq_ok_iff, List.mapM_map]
    exact hshown
  rw [renderOptions, result_andThen, hjoin, ← refill_leaves]
  rfl

theorem result_renderOptions_eq_error_iff (h : IsPrompt r.functions r.context) {options : Yaml}
    {e : Template.Error} :
    (renderOptions r options).result = .error e ↔
      ∃ s, IsFirst (FailsAt r.shown) (leaves options) s ∧ r.shown s = .error e := by
  have hwaits : ∀ x ∈ (leaves options).map r.render, x.waits = 0 := by
    intro x hx
    obtain ⟨s, -, rfl⟩ := List.mem_map.mp hx
    exact Template.waits_renderWith h s
  have hend : ∀ texts : List String, (pure (refill options texts).1 :
      Template.Evaluation Yaml).result ≠ .error e := nofun
  calc (renderOptions r options).result = .error e
      ↔ (join ((leaves options).map r.render)).result = .error e := by
        rw [renderOptions, result_andThen_eq_error_iff]
        simp [hend]
    _ ↔ (leaves options).mapM r.shown = .error e := by
        rw [result_join_of_waits_eq_zero hwaits, List.mapM_map]
        rfl
    _ ↔ _ := mapM_eq_error_iff

/-! ### Entities -/

/-- What an entity comes to by itself. -/
def entryShown (r : Renderer) (entry : Entry) : Except Error (String × Yaml) :=
  (renderEntry r entry.1 entry.2).result

theorem entryShown_eq (kind : Kind) (name : String) (options : Yaml) :
    entryShown r (kind, name, options) =
      ((renderOptions r options).result.mapError (.render kind name)).map (name, ·) := by
  rw [entryShown, renderEntry, result_andThen]
  rfl

theorem entryShown_eq_error_iff (h : IsPrompt r.functions r.context) {kind : Kind} {name : String}
    {options : Yaml} {fault : Error} :
    entryShown r (kind, name, options) = .error fault ↔
      ∃ s e, IsFirst (FailsAt r.shown) (leaves options) s ∧ r.shown s = .error e ∧
        fault = .render kind name e := by
  rw [entryShown_eq, Except.map_eq_error_iff, Except.mapError_eq_error_iff]
  simp only [result_renderOptions_eq_error_iff h]
  constructor
  · rintro ⟨e, ⟨s, hfirst, hs⟩, rfl⟩
    exact ⟨s, e, hfirst, hs, rfl⟩
  · rintro ⟨s, e, hfirst, hs, rfl⟩
    exact ⟨e, ⟨s, hfirst, hs⟩, rfl⟩

theorem failsAt_entryShown_iff (h : IsPrompt r.functions r.context) (entry : Entry) :
    FailsAt (entryShown r) entry ↔ Unrendered r entry := by
  obtain ⟨kind, name, options⟩ := entry
  constructor
  · rintro ⟨fault, hfault⟩
    obtain ⟨s, e, hfirst, -, -⟩ := (entryShown_eq_error_iff h).mp hfault
    exact ⟨s, hfirst.mem, hfirst.holds⟩
  · intro hunrendered
    obtain ⟨s, hfirst⟩ := exists_isFirst hunrendered
    obtain ⟨e, he⟩ := hfirst.holds
    exact ⟨_, (entryShown_eq_error_iff h).mpr ⟨s, e, hfirst, he, rfl⟩⟩

theorem entryShown_of_not_unrendered {entry : Entry} (h : ¬Unrendered r entry) :
    entryShown r entry = .ok (entry.2.1, mapStrings r.text entry.2.2) := by
  obtain ⟨kind, name, options⟩ := entry
  have hshown : ∀ s ∈ leaves options, ¬FailsAt r.shown s := fun s hs hfails ↦ h ⟨s, hs, hfails⟩
  rw [entryShown_eq, result_renderOptions_of_shown hshown]
  rfl

/-! ### Sections -/

theorem result_renderSection_of_shown {kind : Kind} {entries : Entries}
    (h : ∀ entry ∈ renderedIn kind entries, ¬Unrendered r entry) :
    (renderSection r kind entries).result = .ok (mapSection r.text kind entries) := by
  unfold renderSection mapSection
  unfold renderedIn at h
  split
  · rfl
  next hkind =>
    rw [if_neg hkind] at h
    rw [result_join_eq_ok_iff, List.mapM_map, mapM_eq_ok_iff, mapOptions,
      List.forall₂_map_right_iff, List.forall₂_same]
    intro entry hentry
    exact entryShown_of_not_unrendered (h (kind, entry) (List.mem_map_of_mem hentry))

theorem result_renderSection_eq_error_iff (h : IsPrompt r.functions r.context) {kind : Kind}
    {entries : Entries} {fault : Error} :
    (renderSection r kind entries).result = .error fault ↔
      ∃ entry, IsFirst (Unrendered r) (renderedIn kind entries) entry ∧
        entryShown r entry = .error fault := by
  have hfails : FailsAt (entryShown r) = Unrendered r := by
    funext entry
    exact propext (failsAt_entryShown_iff h entry)
  have hwaits : ∀ x ∈ entries.map (renderEntry r kind), x.waits = 0 := by
    intro x hx
    obtain ⟨entry, -, rfl⟩ := List.mem_map.mp hx
    exact waits_andThen_eq_zero (waits_renderOptions h entry.2) fun _ _ ↦ rfl
  unfold renderSection renderedIn
  split
  · simp [not_isFirst_nil, pure]
  · rw [result_join_of_waits_eq_zero hwaits, ← hfails, ← mapM_eq_error_iff, List.mapM_map,
      List.mapM_map]
    rfl

theorem result_renderSections_of_shown {sections : Sections}
    (h : ∀ entry ∈ renderedEntries sections, ¬Unrendered r entry) :
    (renderSections r sections).result = .ok (mapSections r.text sections) := by
  induction sections with
  | nil => rfl
  | cons first rest ih =>
    obtain ⟨kind, entries⟩ := first
    rw [renderedEntries_cons, List.forall_mem_append] at h
    rw [renderSections, result_andThen, result_renderSection_of_shown h.1]
    change ((renderSections r rest).andThen _).result = _
    rw [result_andThen, ih h.2]
    rfl

/-- A section is only worked through when all before it have been rendered. -/
theorem result_renderSections_eq_error_iff (h : IsPrompt r.functions r.context)
    {sections : Sections} {fault : Error} :
    (renderSections r sections).result = .error fault ↔
      ∃ entry, IsFirst (Unrendered r) (renderedEntries sections) entry ∧
        entryShown r entry = .error fault := by
  induction sections with
  | nil => simp [renderSections, renderedEntries, not_isFirst_nil, pure]
  | cons first rest ih =>
    obtain ⟨kind, entries⟩ := first
    have hrest : ∀ entries, ((renderSections r rest).andThen fun rest ↦
        (pure ((kind, entries) :: rest) : Loading Sections)).result = .error fault ↔
          (renderSections r rest).result = .error fault := by
      intro entries
      rw [result_andThen_eq_error_iff]
      simp [pure]
    have hsection : (∃ entries', (renderSection r kind entries).result = .ok entries') ↔
        ∀ entry ∈ renderedIn kind entries, ¬Unrendered r entry := by
      constructor
      · rintro ⟨entries', hok⟩ entry hentry hunrendered
        obtain ⟨first, hfirst⟩ := exists_isFirst ⟨entry, hentry, hunrendered⟩
        obtain ⟨fault, hfault⟩ := (failsAt_entryShown_iff h first).mpr hfirst.holds
        have herror := (result_renderSection_eq_error_iff h).mpr ⟨first, hfirst, hfault⟩
        cases hok.symm.trans herror
      · intro hshown
        exact ⟨_, result_renderSection_of_shown hshown⟩
    rw [renderSections, result_andThen_eq_error_iff, result_renderSection_eq_error_iff h]
    simp only [hrest, exists_and_right, hsection, ih]
    rw [renderedEntries_cons]
    simp only [isFirst_append, or_and_right, exists_or, and_assoc, exists_and_left]

/-! ### Strings without expressions -/

theorem render_of_not_opener {s : String} (h : ¬['$', '\x7b'] <:+: s.toList) :
    r.render s = pure s := by
  rw [Renderer.render, Template.renderWith, if_neg]
  rwa [Template.hasOpener_iff]

theorem renderOptions_of_not_opener {options : Yaml}
    (h : ∀ s ∈ leaves options, ¬['$', '\x7b'] <:+: s.toList) :
    renderOptions r options = pure options := by
  have hrender : (leaves options).map r.render = (leaves options).map fun s ↦ pure (id s) :=
    List.map_congr_left fun s hs ↦ render_of_not_opener (h s hs)
  rw [renderOptions, hrender, join_map_pure, pure_andThen, refill_leaves, mapStrings_id]

theorem renderSection_of_not_opener {kind : Kind} {entries : Entries}
    (h : ∀ entry ∈ renderedIn kind entries, ∀ s ∈ leaves entry.2.2,
      ¬['$', '\x7b'] <:+: s.toList) :
    renderSection r kind entries = pure entries := by
  unfold renderSection
  unfold renderedIn at h
  split
  · rfl
  next hkind =>
    rw [if_neg hkind] at h
    have hentries : entries.map (renderEntry r kind) = entries.map fun entry ↦ pure (id entry) := by
      apply List.map_congr_left
      intro entry hentry
      rw [renderEntry, renderOptions_of_not_opener (h (kind, entry) (List.mem_map_of_mem hentry))]
      exact pure_andThen entry.2 _
    rw [hentries, join_map_pure, List.map_id]

theorem renderSections_of_not_opener {sections : Sections}
    (h : ∀ entry ∈ renderedEntries sections, ∀ s ∈ leaves entry.2.2,
      ¬['$', '\x7b'] <:+: s.toList) :
    renderSections r sections = pure sections := by
  induction sections with
  | nil => rfl
  | cons first rest ih =>
    obtain ⟨kind, entries⟩ := first
    rw [renderedEntries_cons, List.forall_mem_append] at h
    rw [renderSections, renderSection_of_not_opener h.1, pure_andThen, ih h.2, pure_andThen]

/-! ### Documents -/

theorem ofDocument_mapDocument {document : Yaml} {sections : Sections} (f : String → String)
    (h : Document.sections document = .ok sections) :
    Registry.ofDocument (mapDocument f document) =
      Registry.ofSections (mapSections f sections) := by
  rw [Registry.ofDocument, sections_mapDocument, h]
  rfl

theorem map_fst_sectionsOf {root : List (Yaml × Yaml)} {kinds : List Kind} {sections : Sections}
    (h : sectionsOf root kinds = .ok sections) : sections.map (·.1) = kinds := by
  induction kinds generalizing sections with
  | nil =>
    obtain rfl := Except.ok.inj h
    rfl
  | cons kind rest ih =>
    rw [sectionsOf] at h
    split at h
    · cases h
    next entries _ =>
      obtain ⟨more, hmore, rfl⟩ := Except.map_eq_ok_iff.mp h
      exact congrArg (kind :: ·) (ih hmore)

theorem map_fst_sections {document : Yaml} {sections : Sections}
    (h : Document.sections document = .ok sections) : sections.map (·.1) = order := by
  have hroot : ∃ root, sectionsOf root order = .ok sections := by
    unfold Document.sections at h
    dsimp only at h
    split at h
    next root =>
      split at h
      · cases h
      · exact ⟨root, h⟩
    next => exact ⟨[], h⟩
    next => cases h
  obtain ⟨root, hroot⟩ := hroot
  exact map_fst_sectionsOf hroot

/-- How a document is loaded: what it fails by where a string cannot be rendered, and what it is
built from where all of them can. -/
structure LoadsInOrder (r : Renderer) (document : Yaml) (sections : Sections) : Prop where
  order : sections.map (·.1) = [.sshKey, .volume, .server, .service]
  failed : IsPrompt r.functions r.context → ∀ kind name e,
    (Registry.loadDocument r document).result = .error (.render kind name e) ↔
      FailsFirst r sections kind name e
  loaded : (∀ entry ∈ renderedEntries sections, ∀ s ∈ leaves entry.2.2, ¬FailsAt r.shown s) →
    (Registry.loadDocument r document).result = Registry.ofDocument (mapDocument r.text document)
  unopened : (∀ entry ∈ renderedEntries sections, ∀ s ∈ leaves entry.2.2,
      ¬['$', '\x7b'] <:+: s.toList) →
    Registry.loadDocument r document = .ofExcept (Registry.ofDocument document)
  read : ∀ text, Yaml.read? text = some document →
    Registry.load r text = Registry.loadDocument r document ∧
      Registry.parse text = Registry.ofDocument document

theorem loadsInOrder (r : Renderer) {document : Yaml} {sections : Sections}
    (h : Document.sections document = .ok sections) : LoadsInOrder r document sections where
  order := map_fst_sections h
  failed hprompt kind name e := by
    have hload : Registry.loadDocument r document = (renderSections r sections).andThen
        fun sections ↦ .ofExcept (Registry.ofSections sections) := by
      rw [Registry.loadDocument, h]
    -- What is built may be refused, but not by what a string fails by.
    have hbuilt : ∀ sections, (ofExcept (Registry.ofSections sections) : Loading Registry).result ≠
        .error (.render kind name e) := by
      intro sections herror
      obtain ⟨_, -, hinvalid⟩ := Except.mapError_eq_error_iff.mp herror
      cases hinvalid
    rw [hload, result_andThen_eq_error_iff, result_renderSections_eq_error_iff hprompt]
    simp only [hbuilt, and_false, exists_false, or_false]
    constructor
    · rintro ⟨⟨kind', name', options⟩, hfirst, hshown⟩
      obtain ⟨s, e', hs, hfails, hfault⟩ := (entryShown_eq_error_iff hprompt).mp hshown
      obtain ⟨rfl, rfl, rfl⟩ := Error.render.inj hfault
      exact ⟨options, s, hfirst, hs, hfails⟩
    · rintro ⟨options, s, hfirst, hs, hfails⟩
      exact ⟨_, hfirst, (entryShown_eq_error_iff hprompt).mpr ⟨s, e, hs, hfails, rfl⟩⟩
  loaded hshown := by
    have hnone : ∀ entry ∈ renderedEntries sections, ¬Unrendered r entry := by
      rintro entry hentry ⟨s, hs, hfails⟩
      exact hshown entry hentry s hs hfails
    rw [ofDocument_mapDocument r.text h, Registry.loadDocument, h]
    dsimp only
    rw [result_andThen, result_renderSections_of_shown hnone]
    rfl
  unopened hopener := by
    rw [Registry.loadDocument, h]
    dsimp only
    rw [renderSections_of_not_opener hopener, pure_andThen, Registry.ofDocument, h]
    rfl
  read text htext := by
    have hdocument : Registry.readDocument text = .ok document := by
      rw [Registry.readDocument, htext]
    constructor
    · rw [Registry.load, hdocument]
      exact pure_andThen document (Registry.loadDocument r)
    · rw [Registry.parse, hdocument]
      rfl

end Rendering

/-! ### Two entities that cannot be rendered -/

def bindings : Renderer := ⟨.strict, Bindings.none, ⟨[("root", .string "/mnt")]⟩⟩

def volumeOptions : Yaml :=
  .mapping [(.string "path", .sequence [.string "$\x7broot\x7d/data", .string "$\x7blost\x7d"])]

def serverOptions : Yaml := .mapping [(.string "server_type", .string "$\x7bgone\x7d")]

/-- The server stands in front, but volumes are worked through before servers. -/
def brokenDocument : Yaml :=
  .mapping
    [(.string "servers", .mapping [(.string "web-1", serverOptions)]),
      (.string "volumes", .mapping [(.string "data", volumeOptions)])]

def brokenSections : Sections :=
  [(.sshKey, []), (.volume, [("data", volumeOptions)]), (.server, [("web-1", serverOptions)]),
    (.service, [])]

theorem loadsInOrder_brokenDocument :
    Document.sections brokenDocument = .ok brokenSections ∧
      (Registry.loadDocument bindings brokenDocument).result =
        .error (.render .volume "data" (.unknownIdentifier "lost")) := by
  have hsections : Document.sections brokenDocument = .ok brokenSections := rfl
  have hprompt : IsPrompt bindings.functions bindings.context := fun _ _ ↦ rfl
  have hroot : bindings.shown "$\x7broot\x7d/data" = .ok "/mnt/data" := by with_unfolding_all rfl
  have hlost : bindings.shown "$\x7blost\x7d" = .error (.unknownIdentifier "lost") := by with_unfolding_all rfl
  refine ⟨hsections, ((loadsInOrder bindings hsections).failed hprompt _ _ _).mpr ?_⟩
  have hfails : FailsAt bindings.shown "$\x7blost\x7d" := ⟨_, hlost⟩
  refine ⟨volumeOptions, "$\x7blost\x7d", ?_, ?_, hlost⟩
  · have hunrendered : Unrendered bindings (.volume, "data", volumeOptions) :=
      ⟨_, .tail _ (.head _), hfails⟩
    exact (isFirst_cons_of_pos hunrendered).mpr rfl
  · have hleaves : leaves volumeOptions = ["$\x7broot\x7d/data", "$\x7blost\x7d"] := rfl
    rw [hleaves, isFirst_cons_of_neg (not_failsAt_of_eq_ok hroot)]
    exact (isFirst_cons_of_pos hfails).mpr rfl

end ClusterPlan.Document
