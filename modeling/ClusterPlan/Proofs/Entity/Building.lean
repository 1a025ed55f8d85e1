import ClusterPlan.Entity.Server
import ClusterPlan.Entity.Service
import ClusterPlan.Entity.SshKey
import ClusterPlan.Entity.Volume
import ClusterPlan.Proofs.Entity.Reading
import ClusterPlan.Proofs.Naming
import ClusterPlan.Proofs.Registry.Names

/-!
# When an entity is built, and what it holds

An entity is built exactly when its options keep the rules of its kind, which are told field by
field. It then holds what its fields are read as, and the default of each field that is absent.
-/

namespace ClusterPlan

namespace Entity

open IsRead Options

/-- An entity is built under just these rules, and whatever is built is as described. -/
structure BuildsExactly {α : Type} (result : Except Invalid α) (accepts : Prop)
    (holds : α → Prop) : Prop where
  succeeds_iff : (∃ entity, result = .ok entity) ↔ accepts
  holds_of_ok : ∀ entity, result = .ok entity → holds entity

variable {name : String} {options : Yaml} {entries : Options}

/-- It is enough to look at what is built from the entries of the options. -/
theorem buildsExactly_built {α : Type} {kind : Kind} {accepts : Prop} {holds : α → Prop}
    {ofEntries : Options → Except Complaint α} (huntagged : options.Untagged)
    (hdistinct : options.keysDistinct = true)
    (hofYaml : accepts → ∃ entries, Options.ofYaml options = .ok entries)
    (haccepts : ∀ {entries}, IsRead options entries →
      ((∃ entity, ofEntries entries = .ok entity) ↔ accepts))
    (hholds : ∀ {entries}, IsRead options entries →
      ∀ {entity}, ofEntries entries = .ok entity → holds entity) :
    BuildsExactly (built kind name (Options.ofYaml options >>= ofEntries)) accepts holds := by
  have hresult (entity : α) : built kind name (Options.ofYaml options >>= ofEntries) = .ok entity ↔
      ∃ entries, Options.ofYaml options = .ok entries ∧ ofEntries entries = .ok entity := by
    rw [built_eq_ok_iff, Except.bind_eq_ok_iff]
  refine ⟨⟨?_, fun haccept ↦ ?_⟩, fun entity hentity ↦ ?_⟩
  · rintro ⟨entity, hentity⟩
    obtain ⟨entries, hentries, hbuilt⟩ := (hresult entity).mp hentity
    exact (haccepts ⟨hentries, huntagged, hdistinct⟩).mp ⟨entity, hbuilt⟩
  · obtain ⟨entries, hentries⟩ := hofYaml haccept
    obtain ⟨entity, hbuilt⟩ := (haccepts ⟨hentries, huntagged, hdistinct⟩).mpr haccept
    exact ⟨entity, (hresult entity).mpr ⟨entries, hentries, hbuilt⟩⟩
  · obtain ⟨entries, hentries, hbuilt⟩ := (hresult entity).mp hentity
    exact hholds ⟨hentries, huntagged, hdistinct⟩ hbuilt

/-! ### Servers -/

namespace Server

structure Accepts (name : String) (options : Yaml) : Prop where
  name : Naming.IsHostname name
  known : HasOnly ["server_type", "location", "ssh_keys", "services", "volumes", "ports",
    "environment"] options
  serverType : Requires options "server_type" (∃ s, IsFilledText · s)
  location : Allows options "location" (∃ s, IsText · s)
  sshKeys : Requires options "ssh_keys" (∃ keys, IsFilledList IsText · keys)
  services : Requires options "services" (∃ services, IsFilledList IsText · services)
  volumes : Allows options "volumes" (∃ volumes, IsList IsText · volumes)
  ports : Allows options "ports" (∃ ports, IsList IsPort · ports)
  environment : Allows options "environment" IsScalarMap

structure Holds (name : String) (options : Yaml) (server : Server) : Prop where
  name : server.name = name
  serverType : Gives options "server_type" IsFilledText server.serverType
  location : ∀ s, server.location = some s ↔ Gives options "location" IsText s
  sshKeys : Gives options "ssh_keys" (IsFilledList IsText) server.sshKeys
  services : Gives options "services" (IsFilledList IsText) server.services
  volumes : Reads options "volumes" (IsList IsText) [] server.volumes
  ports : Reads options "ports" (IsList IsPort) [] server.ports
  environment : Reads options "environment" IsTextMap [] server.environment

theorem ofOptions_eq_ok_iff {server : Server} :
    ofOptions name entries = .ok server ↔
      entries.checkKnown fields = .ok () ∧ server.name = name ∧
      entries.requiredText "server_type" = .ok server.serverType ∧
      entries.text? "location" = .ok server.location ∧
      entries.requiredTexts "ssh_keys" false = .ok server.sshKeys ∧
      entries.requiredTexts "services" false = .ok server.services ∧
      entries.texts "volumes" false = .ok server.volumes ∧
      entries.ports "ports" = .ok server.ports ∧
      entries.textMap "environment" = .ok server.environment := by
  simp only [ofOptions, Except.bind_eq_ok_iff]
  constructor
  · rintro ⟨_, hknown, _, h₁, _, h₂, _, h₃, _, h₄, _, h₅, _, h₆, _, h₇, h⟩
    obtain rfl := Except.ok.inj h
    exact ⟨hknown, rfl, h₁, h₂, h₃, h₄, h₅, h₆, h₇⟩
  · rintro ⟨hknown, rfl, h₁, h₂, h₃, h₄, h₅, h₆, h₇⟩
    exact ⟨(), hknown, _, h₁, _, h₂, _, h₃, _, h₄, _, h₅, _, h₆, _, h₇, rfl⟩

theorem exists_ofOptions_iff (h : IsRead options entries) :
    (∃ server, Naming.isHostname name = true ∧ ofOptions name entries = .ok server) ↔
      Accepts name options := by
  constructor
  · rintro ⟨server, hname, hserver⟩
    obtain ⟨hknown, -, htype, hlocation, hkeys, hservices, hvolumes, hports, henvironment⟩ :=
      ofOptions_eq_ok_iff.mp hserver
    exact {
      name := Naming.isHostname_iff.mp hname
      known := (h.checkKnown_iff (by decide)).mp hknown
      serverType := h.exists_requiredText_iff.mp ⟨_, htype⟩
      location := h.exists_text?_iff.mp ⟨_, hlocation⟩
      sshKeys := (h.exists_requiredTexts_iff itemText_false_eq_ok_iff).mp ⟨_, hkeys⟩
      services := (h.exists_requiredTexts_iff itemText_false_eq_ok_iff).mp ⟨_, hservices⟩
      volumes := (h.exists_texts_iff itemText_false_eq_ok_iff).mp ⟨_, hvolumes⟩
      ports := h.exists_ports_iff.mp ⟨_, hports⟩
      environment := h.exists_textMap_iff.mp ⟨_, henvironment⟩ }
  · intro haccepts
    have hknown := (h.checkKnown_iff (by decide)).mpr haccepts.known
    obtain ⟨serverType, htype⟩ := h.exists_requiredText_iff.mpr haccepts.serverType
    obtain ⟨location, hlocation⟩ := h.exists_text?_iff.mpr haccepts.location
    obtain ⟨sshKeys, hkeys⟩ :=
      (h.exists_requiredTexts_iff itemText_false_eq_ok_iff).mpr haccepts.sshKeys
    obtain ⟨services, hservices⟩ :=
      (h.exists_requiredTexts_iff itemText_false_eq_ok_iff).mpr haccepts.services
    obtain ⟨volumes, hvolumes⟩ :=
      (h.exists_texts_iff itemText_false_eq_ok_iff).mpr haccepts.volumes
    obtain ⟨ports, hports⟩ := h.exists_ports_iff.mpr haccepts.ports
    obtain ⟨environment, henvironment⟩ := h.exists_textMap_iff.mpr haccepts.environment
    refine ⟨⟨name, serverType, location, sshKeys, services, volumes, ports, environment⟩,
      Naming.isHostname_iff.mpr haccepts.name, ?_⟩
    exact ofOptions_eq_ok_iff.mpr
      ⟨hknown, rfl, htype, hlocation, hkeys, hservices, hvolumes, hports, henvironment⟩

theorem holds_of_ofOptions (h : IsRead options entries) {server : Server}
    (hserver : ofOptions name entries = .ok server) : Holds name options server := by
  obtain ⟨-, hname, htype, hlocation, hkeys, hservices, hvolumes, hports, henvironment⟩ :=
    ofOptions_eq_ok_iff.mp hserver
  exact {
    name := hname
    serverType := h.requiredText_eq_ok_iff.mp htype
    location := fun _ ↦ h.eq_some_iff_of_text? hlocation
    sshKeys := (h.requiredTexts_eq_ok_iff itemText_false_eq_ok_iff).mp hkeys
    services := (h.requiredTexts_eq_ok_iff itemText_false_eq_ok_iff).mp hservices
    volumes := (h.texts_eq_ok_iff itemText_false_eq_ok_iff).mp hvolumes
    ports := h.ports_eq_ok_iff.mp hports
    environment := h.reads_of_textMap henvironment }

theorem ite_isHostname_eq_ok_iff {server : Server} :
    (if Naming.isHostname name then ofOptions name entries else .error .notHostname) = .ok server ↔
      Naming.isHostname name = true ∧ ofOptions name entries = .ok server := by
  split
  next hname => exact ⟨fun h ↦ ⟨hname, h⟩, And.right⟩
  next hname => exact iff_of_false nofun fun h ↦ hname h.1

theorem buildsExactly (huntagged : options.Untagged) (hdistinct : options.keysDistinct = true) :
    BuildsExactly (build name options) (Accepts name options) (Holds name options) := by
  refine buildsExactly_built huntagged hdistinct (·.known.exists_ofYaml) (fun h ↦ ?_)
    fun h _ hserver ↦ ?_
  · simp only [ite_isHostname_eq_ok_iff]
    exact exists_ofOptions_iff h
  · exact holds_of_ofOptions h (ite_isHostname_eq_ok_iff.mp hserver).2

end Server

/-! ### Services -/

namespace Service

/-- The rules for a service. Only its ports may be written as numbers. -/
structure Accepts (options : Yaml) : Prop where
  known : HasOnly ["images", "ports", "proxies", "environment", "volumes"] options
  images : Requires options "images" (∃ images, IsFilledList IsFilledText · images)
  ports : Allows options "ports" (∃ ports, IsList IsTextOrNumber · ports)
  proxies : Allows options "proxies" (∃ proxies, IsList IsText · proxies)
  environment : Allows options "environment" IsScalarMap
  volumes : Allows options "volumes" (∃ volumes, IsList IsText · volumes)

structure Holds (name : String) (options : Yaml) (service : Service) : Prop where
  name : service.name = name
  images : Gives options "images" (IsFilledList IsFilledText) service.images
  ports : Reads options "ports" (IsList IsTextOrNumber) [] service.ports
  proxies : Reads options "proxies" (IsList IsText) [] service.proxies
  environment : Reads options "environment" IsTextMap [] service.environment
  volumes : Reads options "volumes" (IsList IsText) [] service.volumes

theorem isFilledList_isFilledText_iff {v : Yaml} {texts : List String} :
    IsFilledList IsFilledText v texts ↔
      IsFilledList IsText v texts ∧ ∀ text ∈ texts, Text.isBlankText text = false := by
  constructor
  · rintro ⟨⟨items, rfl, hitems⟩, hne⟩
    refine ⟨⟨⟨items, rfl, hitems.imp fun _ _ ↦ And.left⟩, hne⟩, fun text htext ↦ ?_⟩
    obtain ⟨item, -, hitem⟩ := exists_left_of_forall₂ hitems htext
    exact hitem.2
  · rintro ⟨⟨⟨items, rfl, hitems⟩, hne⟩, hfilled⟩
    have hboth := (List.forall₂_and_left texts items).mpr ⟨hfilled, hitems.flip⟩
    exact ⟨⟨items, rfl, hboth.flip.imp fun _ _ ↦ And.symm⟩, hne⟩

theorem images?_eq_ok_iff (h : IsRead options entries) {images : List String} :
    images? entries = .ok images ↔ Gives options "images" (IsFilledList IsFilledText) images :=
  calc images? entries = .ok images
    _ ↔ entries.requiredTexts "images" false = .ok images ∧
        ∀ image ∈ images, Text.isBlankText image = false := by
      rw [images?]
      cases entries.requiredTexts "images" false with
      | error e => simp
      | ok found =>
        simp only [← Bool.not_eq_true, ← List.any_eq_false, Except.ok.injEq]
        exact Except.ite_error_eq_ok_iff (p := (List.any · Text.isBlankText = true))
    _ ↔ Gives options "images" (IsFilledList IsText) images ∧
        ∀ image ∈ images, Text.isBlankText image = false := by
      rw [h.requiredTexts_eq_ok_iff itemText_false_eq_ok_iff]
    _ ↔ Gives options "images" (IsFilledList IsFilledText) images := by
      simp only [Gives, isFilledList_isFilledText_iff, ← and_assoc, exists_and_right]

theorem ofOptions_eq_ok_iff {service : Service} :
    ofOptions name entries = .ok service ↔
      entries.checkKnown fields = .ok () ∧ service.name = name ∧
      images? entries = .ok service.images ∧
      entries.texts "ports" true = .ok service.ports ∧
      entries.texts "proxies" false = .ok service.proxies ∧
      entries.textMap "environment" = .ok service.environment ∧
      entries.texts "volumes" false = .ok service.volumes := by
  simp only [ofOptions, Except.bind_eq_ok_iff]
  constructor
  · rintro ⟨_, hknown, _, h₁, _, h₂, _, h₃, _, h₄, _, h₅, h⟩
    obtain rfl := Except.ok.inj h
    exact ⟨hknown, rfl, h₁, h₂, h₃, h₄, h₅⟩
  · rintro ⟨hknown, rfl, h₁, h₂, h₃, h₄, h₅⟩
    exact ⟨(), hknown, _, h₁, _, h₂, _, h₃, _, h₄, _, h₅, rfl⟩

theorem exists_ofOptions_iff (h : IsRead options entries) :
    (∃ service, ofOptions name entries = .ok service) ↔ Accepts options := by
  constructor
  · rintro ⟨service, hservice⟩
    obtain ⟨hknown, -, himages, hports, hproxies, henvironment, hvolumes⟩ :=
      ofOptions_eq_ok_iff.mp hservice
    exact {
      known := (h.checkKnown_iff (by decide)).mp hknown
      images := exists_gives_iff.mp ⟨_, (images?_eq_ok_iff h).mp himages⟩
      ports := (h.exists_texts_iff itemText_true_eq_ok_iff).mp ⟨_, hports⟩
      proxies := (h.exists_texts_iff itemText_false_eq_ok_iff).mp ⟨_, hproxies⟩
      environment := h.exists_textMap_iff.mp ⟨_, henvironment⟩
      volumes := (h.exists_texts_iff itemText_false_eq_ok_iff).mp ⟨_, hvolumes⟩ }
  · intro haccepts
    have hknown := (h.checkKnown_iff (by decide)).mpr haccepts.known
    obtain ⟨images, himages⟩ := exists_gives_iff.mpr haccepts.images
    obtain ⟨ports, hports⟩ := (h.exists_texts_iff itemText_true_eq_ok_iff).mpr haccepts.ports
    obtain ⟨proxies, hproxies⟩ :=
      (h.exists_texts_iff itemText_false_eq_ok_iff).mpr haccepts.proxies
    obtain ⟨environment, henvironment⟩ := h.exists_textMap_iff.mpr haccepts.environment
    obtain ⟨volumes, hvolumes⟩ :=
      (h.exists_texts_iff itemText_false_eq_ok_iff).mpr haccepts.volumes
    refine ⟨⟨name, images, ports, proxies, environment, volumes⟩, ?_⟩
    exact ofOptions_eq_ok_iff.mpr ⟨hknown, rfl, (images?_eq_ok_iff h).mpr himages, hports, hproxies,
      henvironment, hvolumes⟩

theorem holds_of_ofOptions (h : IsRead options entries) {service : Service}
    (hservice : ofOptions name entries = .ok service) : Holds name options service := by
  obtain ⟨-, hname, himages, hports, hproxies, henvironment, hvolumes⟩ :=
    ofOptions_eq_ok_iff.mp hservice
  exact {
    name := hname
    images := (images?_eq_ok_iff h).mp himages
    ports := (h.texts_eq_ok_iff itemText_true_eq_ok_iff).mp hports
    proxies := (h.texts_eq_ok_iff itemText_false_eq_ok_iff).mp hproxies
    environment := h.reads_of_textMap henvironment
    volumes := (h.texts_eq_ok_iff itemText_false_eq_ok_iff).mp hvolumes }

theorem buildsExactly (huntagged : options.Untagged) (hdistinct : options.keysDistinct = true) :
    BuildsExactly (build name options) (Accepts options) (Holds name options) :=
  buildsExactly_built huntagged hdistinct (·.known.exists_ofYaml) exists_ofOptions_iff
    holds_of_ofOptions

end Service

/-! ### SSH keys -/

namespace SshKey

/-- The rules for a key. One of its halves is enough, if it is not blank. -/
structure Accepts (options : Yaml) : Prop where
  known : HasOnly ["user", "private_key", "public_key"] options
  user : Allows options "user" (∃ s, IsText · s)
  privateKey : Allows options "private_key" (∃ s, IsText · s)
  publicKey : Allows options "public_key" (∃ s, IsText · s)
  half : Requires options "private_key" (∃ s, IsFilledText · s) ∨
    Requires options "public_key" (∃ s, IsFilledText · s)

/-- A half that is blank counts as absent. -/
structure Holds (name : String) (options : Yaml) (key : SshKey) : Prop where
  name : key.name = name
  user : Reads options "user" IsText "root" key.user
  privateKey : ∀ s, key.privateKey = some s ↔ Gives options "private_key" IsFilledText s
  publicKey : ∀ s, key.publicKey = some s ↔ Gives options "public_key" IsFilledText s

theorem ofOptions_eq_ok_iff {key : SshKey} :
    ofOptions name entries = .ok key ↔
      entries.checkKnown fields = .ok () ∧ key.name = name ∧
      (∃ user, entries.text? "user" = .ok user ∧ user.getD defaultUser = key.user) ∧
      entries.filledText? "private_key" = .ok key.privateKey ∧
      entries.filledText? "public_key" = .ok key.publicKey ∧
      (key.privateKey ≠ none ∨ key.publicKey ≠ none) := by
  simp only [ofOptions, Except.bind_eq_ok_iff, Bool.and_eq_true, Option.isNone_iff_eq_none,
    ← not_and_or, ne_eq]
  constructor
  · rintro ⟨_, hknown, user, huser, privateKey, hprivate, publicKey, hpublic, h⟩
    split at h
    next => cases h
    next hhalf =>
      obtain rfl := Except.ok.inj h
      exact ⟨hknown, rfl, ⟨user, huser, rfl⟩, hprivate, hpublic, hhalf⟩
  · rintro ⟨hknown, rfl, ⟨user, huser, hshown⟩, hprivate, hpublic, hhalf⟩
    refine ⟨(), hknown, user, huser, _, hprivate, _, hpublic, ?_⟩
    rw [if_neg hhalf, hshown]
    rfl

theorem ne_none_iff (h : IsRead options entries) {field : String} {found : Option String}
    (hfound : entries.filledText? field = .ok found) :
    found ≠ none ↔ Requires options field (∃ s, IsFilledText · s) := by
  simp only [← exists_gives_iff, ← h.eq_some_iff_of_filledText? hfound, Option.ne_none_iff_exists']

theorem exists_ofOptions_iff (h : IsRead options entries) :
    (∃ key, ofOptions name entries = .ok key) ↔ Accepts options := by
  constructor
  · rintro ⟨key, hkey⟩
    obtain ⟨hknown, -, ⟨user, huser, -⟩, hprivate, hpublic, hhalf⟩ := ofOptions_eq_ok_iff.mp hkey
    exact {
      known := (h.checkKnown_iff (by decide)).mp hknown
      user := h.exists_text?_iff.mp ⟨user, huser⟩
      privateKey := h.exists_filledText?_iff.mp ⟨_, hprivate⟩
      publicKey := h.exists_filledText?_iff.mp ⟨_, hpublic⟩
      half := hhalf.imp (ne_none_iff h hprivate).mp (ne_none_iff h hpublic).mp }
  · intro haccepts
    have hknown := (h.checkKnown_iff (by decide)).mpr haccepts.known
    obtain ⟨user, huser⟩ := h.exists_text?_iff.mpr haccepts.user
    obtain ⟨privateKey, hprivate⟩ := h.exists_filledText?_iff.mpr haccepts.privateKey
    obtain ⟨publicKey, hpublic⟩ := h.exists_filledText?_iff.mpr haccepts.publicKey
    have hhalf := haccepts.half.imp (ne_none_iff h hprivate).mpr (ne_none_iff h hpublic).mpr
    refine ⟨⟨name, user.getD defaultUser, privateKey, publicKey⟩, ?_⟩
    exact ofOptions_eq_ok_iff.mpr ⟨hknown, rfl, ⟨user, huser, rfl⟩, hprivate, hpublic, hhalf⟩

theorem holds_of_ofOptions (h : IsRead options entries) {key : SshKey}
    (hkey : ofOptions name entries = .ok key) : Holds name options key := by
  obtain ⟨-, hname, ⟨user, huser, hshown⟩, hprivate, hpublic, -⟩ := ofOptions_eq_ok_iff.mp hkey
  exact {
    name := hname
    user := hshown ▸ h.reads_of_text? huser
    privateKey := fun _ ↦ h.eq_some_iff_of_filledText? hprivate
    publicKey := fun _ ↦ h.eq_some_iff_of_filledText? hpublic }

theorem buildsExactly (huntagged : options.Untagged) (hdistinct : options.keysDistinct = true) :
    BuildsExactly (build name options) (Accepts options) (Holds name options) :=
  buildsExactly_built huntagged hdistinct (·.known.exists_ofYaml) exists_ofOptions_iff
    holds_of_ofOptions

end SshKey

/-! ### Volumes -/

namespace Volume

/-- A number above zero, as a 64-bit float. -/
def IsSize (v : Yaml) (size : Float) : Prop := ∃ n, v = .number n ∧ n.toFloat = size ∧ size > 0.0

/-- A text that starts with a slash. -/
def IsPath (v : Yaml) (path : String) : Prop :=
  IsText v path ∧ ∃ rest, path.toList = '/' :: rest

structure Accepts (options : Yaml) : Prop where
  known : HasOnly ["size", "path"] options
  size : Requires options "size" (∃ size, IsSize · size)
  path : Requires options "path" (∃ path, IsPath · path)

structure Holds (name : String) (options : Yaml) (volume : Volume) : Prop where
  name : volume.name = name
  size : Gives options "size" IsSize volume.size
  path : Gives options "path" IsPath volume.path

theorem size?_eq_ok_iff (h : IsRead options entries) {size : Float} :
    size? entries = .ok size ↔ Gives options "size" IsSize size := by
  refine h.eq_ok_iff_gives (fun hget ↦ ?_) fun v hget ↦ ?_
  · simp [size?, Options.number?, hget]
  · rw [size?, Options.number?, hget]
    cases v with
    | number n =>
      simp only [IsSize, Yaml.number.injEq, exists_eq_left']
      exact Except.ite_ok_eq_ok_iff (p := (· > 0.0))
    | _ => simp [IsSize]

theorem isPath_iff {v : Yaml} {path : String} :
    IsPath v path ↔ IsFilledText v path ∧ path.toList.head? = some '/' := by
  rw [IsPath, IsFilledText, Text.isBlankText, List.head?_eq_some_iff, and_assoc]
  refine and_congr_right fun _ ↦ ⟨?_, And.right⟩
  rintro ⟨rest, hpath⟩
  have hslash : Text.isBlank '/' = false := by decide
  exact ⟨by rw [hpath, List.all_cons, hslash, Bool.false_and], rest, hpath⟩

theorem path?_eq_ok_iff (h : IsRead options entries) {path : String} :
    path? entries = .ok path ↔ Gives options "path" IsPath path :=
  calc path? entries = .ok path
    _ ↔ entries.requiredText "path" = .ok path ∧ path.toList.head? = some '/' := by
      rw [path?]
      cases entries.requiredText "path" with
      | error e => simp
      | ok found =>
        rw [Except.ok.injEq]
        exact Except.ite_ok_eq_ok_iff (p := fun s : String ↦ s.toList.head? = some '/')
    _ ↔ Gives options "path" IsFilledText path ∧ path.toList.head? = some '/' := by
      rw [h.requiredText_eq_ok_iff]
    _ ↔ Gives options "path" IsPath path := by
      simp only [Gives, isPath_iff, ← and_assoc, exists_and_right]

theorem ofOptions_eq_ok_iff {volume : Volume} :
    ofOptions name entries = .ok volume ↔
      entries.checkKnown fields = .ok () ∧ volume.name = name ∧
      size? entries = .ok volume.size ∧ path? entries = .ok volume.path := by
  simp only [ofOptions, Except.bind_eq_ok_iff]
  constructor
  · rintro ⟨_, hknown, _, hsize, _, hpath, h⟩
    obtain rfl := Except.ok.inj h
    exact ⟨hknown, rfl, hsize, hpath⟩
  · rintro ⟨hknown, rfl, hsize, hpath⟩
    exact ⟨(), hknown, _, hsize, _, hpath, rfl⟩

theorem exists_ofOptions_iff (h : IsRead options entries) :
    (∃ volume, ofOptions name entries = .ok volume) ↔ Accepts options := by
  constructor
  · rintro ⟨volume, hvolume⟩
    obtain ⟨hknown, -, hsize, hpath⟩ := ofOptions_eq_ok_iff.mp hvolume
    exact {
      known := (h.checkKnown_iff (by decide)).mp hknown
      size := exists_gives_iff.mp ⟨_, (size?_eq_ok_iff h).mp hsize⟩
      path := exists_gives_iff.mp ⟨_, (path?_eq_ok_iff h).mp hpath⟩ }
  · intro haccepts
    have hknown := (h.checkKnown_iff (by decide)).mpr haccepts.known
    obtain ⟨size, hsize⟩ := exists_gives_iff.mpr haccepts.size
    obtain ⟨path, hpath⟩ := exists_gives_iff.mpr haccepts.path
    exact ⟨⟨name, size, path⟩, ofOptions_eq_ok_iff.mpr
      ⟨hknown, rfl, (size?_eq_ok_iff h).mpr hsize, (path?_eq_ok_iff h).mpr hpath⟩⟩

theorem holds_of_ofOptions (h : IsRead options entries) {volume : Volume}
    (hvolume : ofOptions name entries = .ok volume) : Holds name options volume := by
  obtain ⟨-, hname, hsize, hpath⟩ := ofOptions_eq_ok_iff.mp hvolume
  exact ⟨hname, (size?_eq_ok_iff h).mp hsize, (path?_eq_ok_iff h).mp hpath⟩

theorem buildsExactly (huntagged : options.Untagged) (hdistinct : options.keysDistinct = true) :
    BuildsExactly (build name options) (Accepts options) (Holds name options) :=
  buildsExactly_built huntagged hdistinct (·.known.exists_ofYaml) exists_ofOptions_iff
    holds_of_ofOptions

end Volume

/-! ### All kinds -/

/-- Each kind of entity is built exactly under its rules, and holds what its options give. In
options there is one entry for each key; tags are not considered. -/
theorem buildsExactly_of_untagged (huntagged : options.Untagged)
    (hdistinct : options.keysDistinct = true) (name : String) :
    BuildsExactly (Server.build name options) (Server.Accepts name options)
        (Server.Holds name options) ∧
      BuildsExactly (Service.build name options) (Service.Accepts options)
        (Service.Holds name options) ∧
      BuildsExactly (SshKey.build name options) (SshKey.Accepts options)
        (SshKey.Holds name options) ∧
      BuildsExactly (Volume.build name options) (Volume.Accepts options)
        (Volume.Holds name options) :=
  ⟨Server.buildsExactly huntagged hdistinct, Service.buildsExactly huntagged hdistinct,
    SshKey.buildsExactly huntagged hdistinct, Volume.buildsExactly huntagged hdistinct⟩

/-- A server with a null location, and with an environment that is not in order. -/
def stagedOptions : Yaml :=
  .mapping [(.string "server_type", .string "cx22"), (.string "location", .null),
    (.string "ssh_keys", .sequence [.string "ops"]),
    (.string "services", .sequence [.string "api"]),
    (.string "ports", .sequence [.number (.int 443), .number (.int 22)]),
    (.string "environment", .mapping [(.string "STAGE", .null), (.string "DEBUG", .bool true)])]

theorem untagged_stagedOptions : stagedOptions.Untagged := by
  simp [stagedOptions]

/-- They are options of a server, with its environment in order, and not of a service. -/
theorem buildsExactly_stagedOptions :
    stagedOptions.Untagged ∧ stagedOptions.keysDistinct = true ∧
      Server.Accepts "web-1" stagedOptions ∧
      Server.Holds "web-1" stagedOptions ⟨"web-1", "cx22", none, ["ops"], ["api"], [], [443, 22],
        [("DEBUG", "true"), ("STAGE", "")]⟩ ∧
      ¬Service.Accepts stagedOptions := by
  have hdistinct : stagedOptions.keysDistinct = true := by decide
  have hbuilds := buildsExactly_of_untagged untagged_stagedOptions hdistinct
  have hserver : Server.build "web-1" stagedOptions = .ok ⟨"web-1", "cx22", none, ["ops"], ["api"],
      [], [443, 22], [("DEBUG", "true"), ("STAGE", "")]⟩ := by rfl
  refine ⟨untagged_stagedOptions, hdistinct, (hbuilds "web-1").1.succeeds_iff.mp ⟨_, hserver⟩,
    (hbuilds "web-1").1.holds_of_ok _ hserver, fun haccepts ↦ ?_⟩
  obtain ⟨service, hservice⟩ := (hbuilds "web-1").2.1.succeeds_iff.mpr haccepts
  cases hservice

/-- A private half in which nothing stands, beside a public one. -/
def blankHalf : Yaml :=
  .mapping [(.string "private_key", .string " "), (.string "public_key", .string "ssh-rsa AAAA")]

/-- The blank half is given, but the key has no private half. -/
theorem privateKey_blankHalf :
    ¬∀ key, SshKey.build "ops" blankHalf = .ok key →
      ∀ s, Given blankHalf "private_key" (.string s) → key.privateKey = some s := by
  intro h
  have hbuild : SshKey.build "ops" blankHalf = .ok ⟨"ops", "root", none, some "ssh-rsa AAAA"⟩ := by
    rfl
  have hgiven : Given blankHalf "private_key" (.string " ") := ⟨_, rfl, .head _, nofun⟩
  cases h _ hbuild " " hgiven

end Entity

end ClusterPlan
