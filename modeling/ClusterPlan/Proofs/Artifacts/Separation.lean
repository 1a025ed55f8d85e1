import ClusterPlan.Proofs.Artifacts.Items
import ClusterPlan.Proofs.Files.Path
import ClusterPlan.Proofs.Naming.Identifiers
import Mathlib.Data.List.Nodup

/-!
# Files and addresses of resources

The file of an item is named by its kind and the identifiers of its entities, an attachment by two
of them with an underscore in between. Identifiers have underscores themselves, so the name of an
attachment does not tell where the server ends and the volume begins, and a volume whose name starts
with `attachment` can stand where an attachment does. These are the only two ways for different
items to share a file, or for different attachments to share an address, once the identifiers of
each kind are apart.
-/

namespace ClusterPlan.Artifact

open Entity Naming Terraform

/-! ### Identifiers of attachments -/

/-- Two texts with a mark in between are the same text only when one mark stands in both places, or
when each of them is part of the other pair. -/
theorem append_cons_eq_iff {α : Type} {mark : α} {as bs cs ds : List α} :
    as ++ mark :: bs = cs ++ mark :: ds ↔
      (as = cs ∧ bs = ds) ∨
        (∃ part, cs = as ++ mark :: part ∧ bs = part ++ mark :: ds) ∨
        ∃ part, as = cs ++ mark :: part ∧ ds = part ++ mark :: bs := by
  rw [List.append_eq_append_iff]
  constructor
  · intro h
    rcases h with ⟨_ | ⟨c, part⟩, hcs, hbs⟩ | ⟨_ | ⟨c, part⟩, has, hds⟩
    · exact .inl ⟨by rw [hcs, List.append_nil], List.tail_eq_of_cons_eq hbs⟩
    · obtain ⟨rfl, htail⟩ := List.cons.inj hbs
      exact .inr (.inl ⟨part, hcs, htail⟩)
    · exact .inl ⟨by rw [has, List.append_nil], (List.tail_eq_of_cons_eq hds).symm⟩
    · obtain ⟨rfl, htail⟩ := List.cons.inj hds
      exact .inr (.inr ⟨part, has, htail⟩)
  · intro h
    rcases h with ⟨has, hbs⟩ | ⟨part, hcs, hbs⟩ | ⟨part, has, hds⟩
    · exact .inl ⟨[], by rw [has, List.append_nil], by rw [hbs, List.nil_append]⟩
    · exact .inl ⟨mark :: part, hcs, by rw [hbs, List.cons_append]⟩
    · exact .inr ⟨mark :: part, has, by rw [hds, List.cons_append]⟩

/-- The second server goes on where the first ends, by what the first volume has in front of the
second. -/
def Overlaps (first second : Server × Volume) : Prop :=
  ∃ part, identifier second.1.name = identifier first.1.name ++ "_" ++ part ∧
    identifier first.2.name = part ++ "_" ++ identifier second.2.name

theorem toList_append_underscore (s t : String) :
    (s ++ "_" ++ t).toList = s.toList ++ '_' :: t.toList := by
  have hmark : "_".toList = ['_'] := rfl
  rw [String.toList_append, String.toList_append, hmark, List.append_assoc, List.singleton_append]

theorem overlaps_iff {first second : Server × Volume} :
    Overlaps first second ↔
      ∃ part, (identifier second.1.name).toList = (identifier first.1.name).toList ++ '_' :: part ∧
        (identifier first.2.name).toList = part ++ '_' :: (identifier second.2.name).toList := by
  constructor
  · intro h
    obtain ⟨part, hserver, hvolume⟩ := h
    refine ⟨part.toList, ?_, ?_⟩
    · rw [hserver, toList_append_underscore]
    · rw [hvolume, toList_append_underscore]
  · intro h
    obtain ⟨part, hserver, hvolume⟩ := h
    refine ⟨String.ofList part, ?_, ?_⟩
    · rw [← String.toList_inj, hserver, toList_append_underscore, String.toList_ofList]
    · rw [← String.toList_inj, hvolume, toList_append_underscore, String.toList_ofList]

theorem attachmentId_eq_iff {first second : Server × Volume} :
    attachmentId first.1 first.2 = attachmentId second.1 second.2 ↔
      (identifier first.1.name = identifier second.1.name ∧
        identifier first.2.name = identifier second.2.name) ∨
      Overlaps first second ∨ Overlaps second first := by
  rw [← String.toList_inj, attachmentId, attachmentId, toList_append_underscore,
    toList_append_underscore, append_cons_eq_iff, overlaps_iff, overlaps_iff, String.toList_inj,
    String.toList_inj]

theorem not_overlaps_self (pair : Server × Volume) : ¬Overlaps pair pair := by
  intro h
  obtain ⟨part, hserver, -⟩ := overlaps_iff.mp h
  have hlength := congrArg List.length hserver
  rw [List.length_append, List.length_cons] at hlength
  omega

/-! ### Names of files -/

/-- What file names begin with. Volumes and attachments begin alike. -/
def Item.opening : Item → List Char
  | .provider => ['p', 'r']
  | .key _ => ['s', 's']
  | .server _ => ['s', 'e']
  | .volume _ => ['v', 'o']
  | .attachment _ _ => ['v', 'o']

theorem take_append {front : String} (h : 2 ≤ front.toList.length) (back : String) :
    (front ++ back).toList.take 2 = front.toList.take 2 := by
  rw [String.toList_append, List.take_append_of_le_length h]

theorem take_fileName (item : Item) : item.fileName.toList.take 2 = item.opening := by
  cases item with
  | provider => rfl
  | key k => exact take_append (by decide : 2 ≤ "ssh_key_".toList.length) _
  | server s => exact take_append (by decide : 2 ≤ "server_".toList.length) _
  | volume v => exact take_append (by decide : 2 ≤ "volume_".toList.length) _
  | attachment s v => exact take_append (by decide : 2 ≤ "volume_attachment_".toList.length) _

theorem fileName_ne {a b : Item} (h : a.opening ≠ b.opening) : a.fileName ≠ b.fileName := by
  intro hname
  apply h
  rw [← take_fileName, ← take_fileName, hname]

/-- When the files of two items have the same name. -/
def Item.SharesFile : Item → Item → Prop
  | .provider, .provider => True
  | .key k, .key k' => identifier k.name = identifier k'.name
  | .server s, .server s' => identifier s.name = identifier s'.name
  | .volume v, .volume v' => identifier v.name = identifier v'.name
  | .volume v, .attachment s v' => identifier v.name = "attachment_" ++ attachmentId s v'
  | .attachment s v, .volume v' => identifier v'.name = "attachment_" ++ attachmentId s v
  | .attachment s v, .attachment s' v' => attachmentId s v = attachmentId s' v'
  | _, _ => False

theorem fileName_volume_eq_iff (volume : Volume) (server : Server) (attached : Volume) :
    (Item.volume volume).fileName = (Item.attachment server attached).fileName ↔
      identifier volume.name = "attachment_" ++ attachmentId server attached := by
  have hfront : "volume_attachment_" = "volume_" ++ "attachment_" := by decide
  rw [Item.fileName_volume, Item.fileName_attachment, hfront, String.append_assoc,
    String.append_right_inj]

theorem fileName_eq_iff {a b : Item} : a.fileName = b.fileName ↔ a.SharesFile b := by
  cases a with
  | provider =>
    cases b with
    | provider => exact iff_of_true rfl trivial
    | key | server | volume | attachment =>
      exact iff_of_false (fileName_ne (by simp [Item.opening])) id
  | key k =>
    cases b with
    | key k' => exact String.append_right_inj _
    | provider | server | volume | attachment =>
      exact iff_of_false (fileName_ne (by simp [Item.opening])) id
  | server s =>
    cases b with
    | server s' => exact String.append_right_inj _
    | provider | key | volume | attachment =>
      exact iff_of_false (fileName_ne (by simp [Item.opening])) id
  | volume v =>
    cases b with
    | volume v' => exact String.append_right_inj _
    | attachment s v' => exact fileName_volume_eq_iff v s v'
    | provider | key | server =>
      exact iff_of_false (fileName_ne (by simp [Item.opening])) id
  | attachment s v =>
    cases b with
    | volume v' => exact eq_comm.trans (fileName_volume_eq_iff v' s v)
    | attachment s' v' => exact String.append_right_inj _
    | provider | key | server =>
      exact iff_of_false (fileName_ne (by simp [Item.opening])) id

/-! ### Paths of files -/

theorem isAbsolute_fileName (item : Item) (suffix : String) :
    Path.isAbsolute (item.fileName ++ suffix) = false := by
  have hfirst : (item.fileName ++ suffix).toList.head? = item.opening.head? := by
    rw [String.toList_append, ← take_fileName, List.head?_take, if_neg (by decide),
      List.head?_append_of_ne_nil]
    intro hempty
    have htake := take_fileName item
    rw [hempty] at htake
    cases item <;> cases htake
  rw [Path.isAbsolute, hfirst]
  cases item <;> rfl

theorem file_eq_iff (layout : Layout) (a b : Item) :
    a.file layout = b.file layout ↔ a.fileName = b.fileName := by
  refine ⟨fun h ↦ ?_, congrArg _⟩
  have hjoin := Path.join_injective (isAbsolute_fileName a _) (isAbsolute_fileName b _) h
  exact (String.append_left_inj _).mp hjoin

/-! ### Items that are apart -/

/-- Items that share a file, and items that share an address, are the same. -/
structure Apart (layout : Layout) (all : List Item) : Prop where
  files : ∀ a ∈ all, ∀ b ∈ all, a.file layout = b.file layout → a = b
  addresses : ∀ a ∈ all, ∀ b ∈ all, ∀ address ∈ a.addresses, address ∈ b.addresses → a = b

/-- What the file with a resource of a type is named before the identifier. -/
def filePrefix (type : String) : String :=
  if type = keyType then "ssh_key_"
  else if type = volumeType then "volume_"
  else if type = attachmentType then "volume_attachment_"
  else "server_"

theorem fileName_of_mem_addresses {item : Item} {address : Address}
    (h : address ∈ item.addresses) : item.fileName = filePrefix address.1 ++ address.2 := by
  cases item with
  | provider => cases h
  | key k =>
    have hprefix : filePrefix keyType = "ssh_key_" := by decide
    rw [Item.addresses, List.mem_singleton] at h
    rw [h, hprefix, Item.fileName_key]
  | server s =>
    have hprefix : filePrefix firewallType = "server_" ∧ filePrefix serverType = "server_" := by
      decide
    rw [Item.addresses, List.mem_pair] at h
    rcases h with h | h
    · rw [h, hprefix.1, Item.fileName_server]
    · rw [h, hprefix.2, Item.fileName_server]
  | volume v =>
    have hprefix : filePrefix volumeType = "volume_" := by decide
    rw [Item.addresses, List.mem_singleton] at h
    rw [h, hprefix, Item.fileName_volume]
  | attachment s v =>
    have hprefix : filePrefix attachmentType = "volume_attachment_" := by decide
    rw [Item.addresses, List.mem_singleton] at h
    rw [h, hprefix, Item.fileName_attachment]

/-- It is enough to look at the names of the files. -/
theorem apart_iff {layout : Layout} {all : List Item} :
    Apart layout all ↔ ∀ a ∈ all, ∀ b ∈ all, a.SharesFile b → a = b := by
  constructor
  · intro h a ha b hb hshares
    exact h.files a ha b hb ((file_eq_iff layout a b).mpr (fileName_eq_iff.mpr hshares))
  · intro h
    constructor
    · intro a ha b hb hfile
      exact h a ha b hb (fileName_eq_iff.mp ((file_eq_iff layout a b).mp hfile))
    · intro a ha b hb address haddress haddress'
      have hname : a.fileName = b.fileName := by
        calc a.fileName = filePrefix address.1 ++ address.2 := fileName_of_mem_addresses haddress
          _ = b.fileName := (fileName_of_mem_addresses haddress').symm
      exact h a ha b hb (fileName_eq_iff.mp hname)

/-! ### Identifiers that are apart -/

/-- No two entities of a kind have the same identifier. -/
structure IdentifiersApart (registry : Registry) : Prop where
  servers : (registry.servers.map fun server ↦ identifier server.name).Nodup
  volumes : (registry.volumes.map fun volume ↦ identifier volume.name).Nodup
  keys : (registry.sshKeys.map fun key ↦ identifier key.name).Nodup

/-- No two attachments overlap, and no volume is named as an attachment. -/
structure Unambiguous (registry : Registry) : Prop where
  pairs : ∀ a ∈ attachmentPairs registry, ∀ b ∈ attachmentPairs registry, ¬Overlaps a b
  volumes : ∀ volume ∈ registry.volumes, ∀ pair ∈ attachmentPairs registry,
    identifier volume.name ≠ "attachment_" ++ attachmentId pair.1 pair.2

section Separation

variable {registry : Registry}

theorem mem_of_mem_attachmentPairs {pair : Server × Volume} (h : pair ∈ attachmentPairs registry) :
    pair.1 ∈ registry.servers ∧ pair.2 ∈ registry.volumes := by
  have hpair := mem_attachmentPairs.mp h
  exact ⟨hpair.1, mem_volumes_of_mem_volumesOf hpair.2⟩

theorem eq_of_attachmentId_eq (hapart : IdentifiersApart registry) (h : Unambiguous registry)
    {a b : Server × Volume} (ha : a ∈ attachmentPairs registry) (hb : b ∈ attachmentPairs registry)
    (hid : attachmentId a.1 a.2 = attachmentId b.1 b.2) : a = b := by
  have hserver := mem_of_mem_attachmentPairs ha
  have hserver' := mem_of_mem_attachmentPairs hb
  rcases attachmentId_eq_iff.mp hid with hsame | hoverlap | hoverlap
  · apply Prod.ext
    · exact List.inj_on_of_nodup_map hapart.servers hserver.1 hserver'.1 hsame.1
    · exact List.inj_on_of_nodup_map hapart.volumes hserver.2 hserver'.2 hsame.2
  · exact absurd hoverlap (h.pairs a ha b hb)
  · exact absurd hoverlap (h.pairs b hb a ha)

theorem eq_of_sharesFile (hapart : IdentifiersApart registry) (h : Unambiguous registry)
    {a b : Item} (ha : a ∈ items registry) (hb : b ∈ items registry) (hshares : a.SharesFile b) :
    a = b := by
  match a, b, hshares with
  | .provider, .provider, _ => rfl
  | .key k, .key k', hid =>
    have hk := (key_mem_items.mp ha).1
    have hk' := (key_mem_items.mp hb).1
    rw [List.inj_on_of_nodup_map hapart.keys hk hk' hid]
  | .server s, .server s', hid =>
    have hs := server_mem_items.mp ha
    have hs' := server_mem_items.mp hb
    rw [List.inj_on_of_nodup_map hapart.servers hs hs' hid]
  | .volume v, .volume v', hid =>
    have hv := volume_mem_items.mp ha
    have hv' := volume_mem_items.mp hb
    rw [List.inj_on_of_nodup_map hapart.volumes hv hv' hid]
  | .volume v, .attachment s v', hid =>
    have hpair : (s, v') ∈ attachmentPairs registry := attachment_mem_items.mp hb
    exact absurd hid (h.volumes v (volume_mem_items.mp ha) (s, v') hpair)
  | .attachment s v, .volume v', hid =>
    have hpair : (s, v) ∈ attachmentPairs registry := attachment_mem_items.mp ha
    exact absurd hid (h.volumes v' (volume_mem_items.mp hb) (s, v) hpair)
  | .attachment s v, .attachment s' v', hid =>
    have hpair : (s, v) ∈ attachmentPairs registry := attachment_mem_items.mp ha
    have hpair' : (s', v') ∈ attachmentPairs registry := attachment_mem_items.mp hb
    have hsame := Prod.mk.inj (eq_of_attachmentId_eq hapart h hpair hpair' hid)
    rw [hsame.1, hsame.2]

/-- Where the identifiers of each kind are apart, overlapping attachments and volumes named as
attachments are all that can get in the way of one another. -/
theorem apart_items_iff (layout : Layout) (hapart : IdentifiersApart registry) :
    Apart layout (items registry) ↔ Unambiguous registry := by
  rw [apart_iff]
  constructor
  · intro h
    constructor
    · intro a ha b hb hoverlap
      have hid := attachmentId_eq_iff.mpr (.inr (.inl hoverlap))
      have hitem := h _ (attachment_mem_items.mpr ha) _ (attachment_mem_items.mpr hb) hid
      have hsame := Item.attachment.inj hitem
      rw [Prod.ext hsame.1 hsame.2] at hoverlap
      exact not_overlaps_self b hoverlap
    · intro volume hvolume pair hpair hid
      cases h _ (volume_mem_items.mpr hvolume) _ (attachment_mem_items.mpr hpair) hid
  · intro h a ha b hb hshares
    exact eq_of_sharesFile hapart h ha hb hshares

end Separation

/-! ### Two attachments in one file -/

def opsKey : SshKey := ⟨"ops", "root", some "private", some "public"⟩

def webServer : Server := ⟨"web", "cx22", none, ["ops"], [], ["a-data"], [], []⟩

def webAServer : Server := ⟨"web-a", "cx22", none, ["ops"], [], ["data"], [], []⟩

def aDataVolume : Volume := ⟨"a-data", 10, "/mnt/a-data"⟩

def dataVolume : Volume := ⟨"data", 20, "/mnt/data"⟩

/-- Both attachments are named `web_a_data`. -/
def overlappingNames : Registry :=
  ⟨[webServer, webAServer], [], [opsKey], [aDataVolume, dataVolume]⟩

theorem not_apart_overlappingNames :
    overlappingNames.checkReferences = .ok () ∧ overlappingNames.checkOwnership = .ok () ∧
      IdentifiersApart overlappingNames ∧ ¬Apart ⟨"out"⟩ (items overlappingNames) := by
  have hweb : identifier "web" = "web" := by decide +kernel
  have hwebA : identifier "web-a" = "web_a" := by decide +kernel
  have hdata : identifier "data" = "data" := by decide +kernel
  have haData : identifier "a-data" = "a_data" := by decide +kernel
  have hapart : IdentifiersApart overlappingNames := by
    refine ⟨?_, ?_, List.nodup_singleton _⟩
    · change [identifier "web", identifier "web-a"].Nodup
      rw [hweb, hwebA]
      decide
    · change [identifier "a-data", identifier "data"].Nodup
      rw [hdata, haData]
      decide
  have hpairs : attachmentPairs overlappingNames =
      [(webServer, aDataVolume), (webAServer, dataVolume)] := rfl
  refine ⟨rfl, rfl, hapart, fun h ↦ ?_⟩
  have hunambiguous := (apart_items_iff _ hapart).mp h
  have hweb' : (webServer, aDataVolume) ∈ attachmentPairs overlappingNames := by
    rw [hpairs]
    exact .head _
  have hwebA' : (webAServer, dataVolume) ∈ attachmentPairs overlappingNames := by
    rw [hpairs]
    exact .tail _ (.head _)
  apply hunambiguous.pairs _ hweb' _ hwebA'
  refine ⟨"a", ?_, ?_⟩
  · change identifier "web-a" = identifier "web" ++ "_" ++ "a"
    rw [hweb, hwebA]
    rfl
  · change identifier "a-data" = "a" ++ "_" ++ identifier "data"
    rw [hdata, haData]
    rfl

end ClusterPlan.Artifact
