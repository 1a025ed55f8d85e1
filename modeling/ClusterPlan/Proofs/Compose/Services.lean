import ClusterPlan.Compose
import ClusterPlan.Proofs.Proxy.Served
import Mathlib.Data.List.Perm.Subperm

/-!
# The services of a manifest

A manifest holds services of the images of a server and of its proxy, and no others; of several
images with one name it holds the last. Where the names of the images are distinct and none is that
of the proxy, it holds the services of all of them, and that of the proxy where it has a pool.
-/

namespace ClusterPlan.Compose

/-! ### Putting services -/

theorem put_of_notMem {name : String} {service : Service} {services : List (String × Service)}
    (h : name ∉ services.map Prod.fst) :
    put name service services = services ++ [(name, service)] := by
  induction services with
  | nil => rfl
  | cons first rest ih =>
    have hfirst : first.1 ≠ name := fun hsame ↦ h (List.mem_cons.mpr (.inl hsame.symm))
    have hrest : name ∉ rest.map Prod.fst := fun hrest ↦ h (List.mem_cons_of_mem _ hrest)
    rw [put, if_neg hfirst, ih hrest, List.cons_append]

/-- No service is put more than once, though it may take the place of another. -/
theorem subperm_put (name : String) (service : Service) (services : List (String × Service)) :
    ((put name service services).map Prod.snd).Subperm (service :: services.map Prod.snd) := by
  induction services with
  | nil => exact .refl _
  | cons first rest ih =>
    rw [put]
    split
    next =>
      rw [List.map_cons, List.map_cons, List.subperm_cons]
      exact .cons_self
    next =>
      rw [List.map_cons, List.map_cons]
      have hcons := (List.subperm_cons first.2).mpr ih
      exact hcons.trans (List.Perm.swap service first.2 _).subperm

/-! ### Services of images -/

def imageServices (d : Deployment) : List (String × Service) :=
  d.images.foldl (fun services i ↦ put i.image.name (imageService i) services) []

theorem services_eq (d : Deployment) (plan : Proxy.Plan) :
    services d plan =
      if plan.isEmpty then imageServices d
      else put Deployment.proxyName (proxyService d plan) (imageServices d) := rfl

theorem subperm_imageServices (d : Deployment) :
    ((imageServices d).map Prod.snd).Subperm (d.images.map imageService) := by
  have hfold (images : List DeployedImage) (services : List (String × Service)) :
      ((images.foldl (fun services i ↦ put i.image.name (imageService i) services) services).map
        Prod.snd).Subperm (services.map Prod.snd ++ images.map imageService) := by
    induction images generalizing services with
    | nil => simpa using List.Subperm.refl _
    | cons i rest ih =>
      rw [List.foldl_cons, List.map_cons]
      have hput := (List.subperm_append_right (rest.map imageService)).mpr
        (subperm_put i.image.name (imageService i) services)
      exact (ih _).trans (hput.trans List.perm_middle.symm.subperm)
  exact hfold d.images []

theorem subperm_services (d : Deployment) (plan : Proxy.Plan) :
    ((services d plan).map Prod.snd).Subperm
      (proxyService d plan :: d.images.map imageService) := by
  rw [services_eq]
  split
  next => exact (subperm_imageServices d).trans .cons_self
  next =>
    have hcons := (List.subperm_cons (proxyService d plan)).mpr (subperm_imageServices d)
    exact (subperm_put _ _ _).trans hcons

theorem imageServices_eq_map {d : Deployment} (h : (d.images.map (·.image.name)).Nodup) :
    imageServices d = d.images.map fun i ↦ (i.image.name, imageService i) := by
  have hfold (images : List DeployedImage) (services : List (String × Service))
      (hnames : (services.map Prod.fst ++ images.map (·.image.name)).Nodup) :
      images.foldl (fun services i ↦ put i.image.name (imageService i) services) services =
        services ++ images.map fun i ↦ (i.image.name, imageService i) := by
    induction images generalizing services with
    | nil => simp
    | cons i rest ih =>
      have hfresh : i.image.name ∉ services.map Prod.fst := by
        intro hmem
        exact List.disjoint_of_nodup_append hnames hmem (by simp)
      rw [List.foldl_cons, put_of_notMem hfresh, ih _ (by simpa using hnames), List.map_cons,
        List.append_assoc, List.singleton_append]
  exact hfold d.images [] h

theorem mem_services_iff {d : Deployment} {plan : Proxy.Plan}
    (h : (d.images.map (·.image.name)).Nodup)
    (hproxy : Deployment.proxyName ∉ d.images.map (·.image.name)) {entry : String × Service} :
    entry ∈ services d plan ↔
      (∃ i ∈ d.images, entry = (i.image.name, imageService i)) ∨
        plan.isEmpty = false ∧ entry = (Deployment.proxyName, proxyService d plan) := by
  have hfresh : Deployment.proxyName ∉ (imageServices d).map Prod.fst := by
    rw [imageServices_eq_map h, List.map_map]
    exact hproxy
  have himages : entry ∈ imageServices d ↔
      ∃ i ∈ d.images, entry = (i.image.name, imageService i) := by
    rw [imageServices_eq_map h, List.mem_map]
    simp [eq_comm]
  rw [services_eq, put_of_notMem hfresh, ← himages]
  split
  next hempty => simp [hempty]
  next hsome => simp [hsome]

/-! ### Ports of a service -/

theorem mem_published {ports : List Proxy.Port} {entry : String} :
    entry ∈ published ports ↔
      ∃ p ∈ ports, ∃ bound, p.bound? = some bound ∧ bound ++ ":" ++ p.container = entry := by
  simp [published, Proxy.Plan.mem_addNew, List.mem_filterMap]

theorem mem_exposedPorts {ports : List Proxy.Port} {container : String} :
    container ∈ exposedPorts ports ↔ ∃ p ∈ ports, p.bound? = none ∧ p.container = container := by
  simp [exposedPorts, Proxy.Plan.mem_addNew, and_assoc]

/-! ### The text of a manifest -/

/-- A value behind a mark, up to the end of its line. -/
def valueText (indent : Nat) (s : String) : String :=
  " " ++ String.ofList (Yaml.endLine (Yaml.scalarText false indent s))

def keyText (column : Nat) (name : String) : String :=
  String.ofList (Yaml.keyText column (.string name) fun c ↦ Yaml.blockLines (.string name) c)

/-- A list under its key; without items nothing is written. -/
def listText (key : String) (items : List String) : String :=
  if items = [] then ""
  else "    " ++ key ++ ":" ++ "\n" ++ String.join (items.map fun item ↦ "    -" ++ valueText 6 item)

def environmentText (entries : List (String × String)) : String :=
  if entries = [] then ""
  else "    environment:" ++ "\n" ++
    String.join (entries.map fun (name, value) ↦ keyText 6 name ++ valueText 8 value)

def Service.written (name : String) (s : Service) : String :=
  keyText 2 name ++ "\n" ++ "    image:" ++ valueText 6 s.image ++
    "    restart: unless-stopped\n" ++
    listText "ports" s.ports ++ listText "expose" s.expose ++ environmentText s.environment ++
    listText "volumes" s.volumes ++ listText "depends_on" s.dependsOn

def written (server : String) (services : List (String × Service)) : String :=
  "# Generated by shipyard for " ++ server ++ ". Do not edit.\n" ++ "services:" ++
    if services = [] then " \x7b\x7d\n"
    else "\n" ++ String.join (services.map fun (name, s) ↦ s.written name)

section Text

variable {column : Nat} {name s : String} {entries : List (Yaml × Yaml)}

theorem entryLines_append (first second : List (Yaml × Yaml)) (column : Nat) :
    Yaml.entryLines (first ++ second) column =
      Yaml.entryLines first column ++ Yaml.entryLines second column := by
  induction first with
  | nil => rfl
  | cons entry rest ih =>
    obtain ⟨key, value⟩ := entry
    rw [List.cons_append, Yaml.entryLines, Yaml.entryLines, ih, List.append_assoc,
      List.append_assoc, List.append_assoc]

theorem ofList_inlineText (column : Nat) (s : String) :
    String.ofList (Yaml.inlineText column fun c ↦ Yaml.blockLines (.string s) c) =
      valueText (column + 2) s := by
  have hlength : (Yaml.spaces (column + 2)).length = column + 2 := List.length_replicate
  rw [Yaml.inlineText, Yaml.blockLines, List.drop_left' hlength, String.ofList_cons]
  rfl

theorem ofList_entryLines_string (column : Nat) (name s : String) :
    String.ofList (Yaml.entryLines [(.string name, .string s)] column) =
      keyText column name ++ valueText (column + 2) s := by
  rw [Yaml.entryLines, Yaml.entryLines, List.append_nil, String.ofList_append, Yaml.valueText,
    ofList_inlineText]
  · rfl
  · nofun
  · nofun

theorem ofList_itemLines (items : List String) :
    String.ofList (Yaml.itemLines (items.map .string) 4) =
      String.join (items.map fun item ↦ "    -" ++ valueText 6 item) := by
  induction items with
  | nil => rfl
  | cons item rest ih =>
    have hfront : String.ofList (Yaml.spaces 4 ++ ['-']) = "    -" := by decide
    rw [List.map_cons, Yaml.itemLines, List.map_cons, String.join_cons, ← ih, ← ofList_inlineText,
      ← hfront, ← String.ofList_append, ← String.ofList_append]
    simp

/-- Entries one after the other, each as it is written. -/
theorem ofList_entryLines_map {α : Type} {entry : α → Yaml × Yaml} {written : α → String}
    (h : ∀ a, String.ofList (Yaml.entryLines [entry a] column) = written a) (as : List α) :
    String.ofList (Yaml.entryLines (as.map entry) column) = String.join (as.map written) := by
  induction as with
  | nil => rfl
  | cons a rest ih =>
    rw [List.map_cons, List.map_cons, String.join_cons, ← ih, ← h, ← String.ofList_append,
      ← entryLines_append]
    rfl

/-- A mapping stands below its key, further to the right. -/
theorem ofList_entryLines_mapping (hentries : entries ≠ []) :
    String.ofList (Yaml.entryLines [(.string name, .mapping entries)] column) =
      keyText column name ++ "\n" ++ String.ofList (Yaml.entryLines entries (column + 2)) := by
  obtain ⟨entry, rest, rfl⟩ := List.exists_cons_of_ne_nil hentries
  rw [Yaml.entryLines, Yaml.entryLines, List.append_nil, String.ofList_append, Yaml.valueText,
    Yaml.blockLines, String.ofList_cons, ← String.append_assoc]
  · rfl
  · nofun

/-- A list stands below its key, in line with it. -/
theorem ofList_listField {key : String} (hkey : keyText 4 key = "    " ++ key ++ ":")
    (items : List String) :
    String.ofList (Yaml.entryLines (listField key items) 4) = listText key items := by
  cases items with
  | nil => rfl
  | cons item rest =>
    have hlines : String.ofList (Yaml.entryLines (listField key (item :: rest)) 4) =
        keyText 4 key ++ "\n" ++
          String.ofList (Yaml.itemLines ((item :: rest).map .string) 4) := by
      change String.ofList (Yaml.entryLines
        [(.string key, .sequence (.string item :: rest.map .string))] 4) = _
      rw [Yaml.entryLines, Yaml.entryLines, List.append_nil, String.ofList_append, Yaml.valueText,
        Yaml.blockLines, String.ofList_cons, ← String.append_assoc]
      · rfl
      · nofun
    rw [hlines, hkey, ofList_itemLines, listText, if_neg (List.cons_ne_nil _ _)]

theorem ofList_mapField (entries : List (String × String)) :
    String.ofList (Yaml.entryLines (mapField "environment" entries) 4) =
      environmentText entries := by
  have hkey : keyText 4 "environment" = "    environment:" := by decide +kernel
  have hentries : String.ofList (Yaml.entryLines
      (entries.map fun (k, v) ↦ (.string k, .string v)) 6) =
        String.join (entries.map fun (name, value) ↦ keyText 6 name ++ valueText 8 value) :=
    ofList_entryLines_map (fun ⟨name, value⟩ ↦ ofList_entryLines_string 6 name value) entries
  rw [mapField, environmentText]
  by_cases hempty : entries = []
  · rw [hempty]
    rfl
  · rw [List.isEmpty_eq_false_iff.mpr hempty, if_neg Bool.false_ne_true, if_neg hempty,
      ofList_entryLines_mapping (mt List.map_eq_nil_iff.mp hempty), hkey, hentries]

theorem ofList_serviceEntry (name : String) (s : Service) :
    String.ofList (Yaml.entryLines [(.string name, s.toYaml)] 2) = s.written name := by
  have himage : keyText 4 "image" = "    image:" := by decide +kernel
  have hrestart : keyText 4 "restart" ++ valueText 6 restartPolicy =
      "    restart: unless-stopped\n" := by decide +kernel
  have hkeys : keyText 4 "ports" = "    ports:" ∧ keyText 4 "expose" = "    expose:" ∧
      keyText 4 "volumes" = "    volumes:" ∧ keyText 4 "depends_on" = "    depends_on:" := by
    decide +kernel
  have hfields : [(Yaml.string "image", Yaml.string s.image),
      (.string "restart", .string restartPolicy)] =
        [(.string "image", .string s.image)] ++ [(.string "restart", .string restartPolicy)] := rfl
  rw [Service.toYaml, ofList_entryLines_mapping (by simp), hfields]
  simp only [Nat.reduceAdd, entryLines_append, String.ofList_append, ofList_entryLines_string,
    ofList_listField hkeys.1, ofList_listField hkeys.2.1, ofList_listField hkeys.2.2.1,
    ofList_listField hkeys.2.2.2, ofList_mapField, Service.written, himage, hrestart,
    String.append_assoc]

theorem write_toYaml (services : List (String × Service)) : (toYaml services).write =
    "services:" ++ if services = [] then " \x7b\x7d\n"
      else "\n" ++ String.join (services.map fun (name, s) ↦ s.written name) := by
  have hkey : keyText 0 "services" = "services:" := by decide +kernel
  have hentries : String.ofList (Yaml.entryLines
      (services.map fun (name, s) ↦ (.string name, s.toYaml)) 2) =
        String.join (services.map fun (name, s) ↦ s.written name) :=
    ofList_entryLines_map (fun ⟨name, s⟩ ↦ ofList_serviceEntry name s) services
  by_cases hempty : services = []
  · rw [hempty]
    decide +kernel
  · have hwrite : (toYaml services).write = String.ofList (Yaml.entryLines
        [(.string "services", .mapping (services.map fun (name, s) ↦
          (.string name, s.toYaml)))] 0) := by
      rw [toYaml, Yaml.write, Yaml.blockLines]
      nofun
    rw [hwrite, if_neg hempty, ofList_entryLines_mapping (mt List.map_eq_nil_iff.mp hempty), hkey,
      Nat.zero_add, hentries, String.append_assoc]

/-- A manifest is its services as they are written, one after the other. -/
theorem text_eq_written (d : Deployment) (plan : Proxy.Plan) :
    text d plan = written d.server (services d plan) := by
  unfold text written
  rw [write_toYaml]
  exact String.append_assoc.symm

end Text

end ClusterPlan.Compose
