import ClusterPlan.Proofs.Artifacts.Separation
import ClusterPlan.Proofs.Files.Settled

/-!
# Provisioning files that are kept

When the provisioning files have been written, each item has its resource in its file, as long as
the items are apart: the steps that write one of them agree with those that write another. That
holds under every schedule. Of items that share a file only the one that is written last is kept,
and which one that is the schedule decides.
-/

namespace ClusterPlan.Artifact

open Entity Naming Terraform

-- Identifiers are only compared here, never computed.
attribute [local irreducible] identifier

/-! ### Names of resource files -/

theorem slash_notMem_identifier (name : String) : '/' ∉ (identifier name).toList := by
  intro h
  exact absurd (isPlain_of_mem_identifier h) (by decide)

theorem slash_notMem_append {s t : String} (hs : '/' ∉ s.toList) (ht : '/' ∉ t.toList) :
    '/' ∉ (s ++ t).toList := by
  rw [String.toList_append, List.mem_append, not_or]
  exact ⟨hs, ht⟩

theorem slash_notMem_fileName (item : Item) : '/' ∉ item.fileName.toList := by
  cases item with
  | provider => exact (by decide : '/' ∉ "provider".toList)
  | key k =>
    rw [Item.fileName_key]
    exact slash_notMem_append (by decide) (slash_notMem_identifier k.name)
  | server s =>
    rw [Item.fileName_server]
    exact slash_notMem_append (by decide) (slash_notMem_identifier s.name)
  | volume v =>
    rw [Item.fileName_volume]
    exact slash_notMem_append (by decide) (slash_notMem_identifier v.name)
  | attachment s v =>
    rw [Item.fileName_attachment, attachmentId]
    have hserver := slash_notMem_append (slash_notMem_identifier s.name)
      (by decide : '/' ∉ "_".toList)
    exact slash_notMem_append (by decide)
      (slash_notMem_append hserver (slash_notMem_identifier v.name))

theorem isFileName_resourceFile (item : Item) : Path.IsFileName (item.fileName ++ ".tf.json") :=
  Path.isFileName_append (slash_notMem_fileName item) (by decide) (by decide : _ = some 'n') (by decide)

/-- A place is that of one resource file at most. -/
theorem fileName_eq_of_target {layout : Layout} {a b : Item} {tree : FileTree}
    (h : tree.target (a.file layout) = tree.target (b.file layout)) : a.fileName = b.fileName := by
  rw [Item.file, Item.file, resourceFile, resourceFile,
    FileTree.target_join (isFileName_resourceFile a),
    FileTree.target_join (isFileName_resourceFile b), List.append_cancel_left_eq,
    List.singleton_inj] at h
  exact (String.append_left_inj _).mp h

/-! ### Steps -/

section Steps

variable {layout : Layout} {registry : Registry} {step : FileStep} {path text : String}

theorem steps_makeStep (step : FileStep) : (makeStep step).steps = [step] := rfl

theorem mem_steps_write : step ∈ (write path text).steps ↔
    (∃ parent, Path.parent? path = some parent ∧ step = .makeDirectory parent) ∨
      step = .writeText path text := by
  unfold write
  dsimp only
  cases Path.parent? path with
  | none => simp [steps_makeStep]
  | some parent => simp [Change.steps, makeDirectory, steps_makeStep]

/-- What writes one text agrees with all that writes the same text at its place. -/
theorem agrees_of_mem_steps_write {start : String} (hstep : step ∈ (write path text).steps)
    (h : step.path = path → text = start) (other : String) :
    (FileStep.writeText other start).Agrees step := by
  rcases mem_steps_write.mp hstep with ⟨parent, -, rfl⟩ | rfl
  · trivial
  · exact (h rfl).symm

theorem sound_write (path text : String) : (write path text).Sound := by
  unfold write
  dsimp only
  split
  · exact ⟨trivial, trivial⟩
  · trivial

theorem sound_writeItem_iff {item : Item} :
    (item.write layout registry).Sound ↔ ∃ json, item.resource registry = .ok json := by
  unfold Item.write
  cases item.resource registry with
  | ok json => simp [writeResource, sound_write]
  | error e => simp [Change.not_sound_fail]

/-- The steps on resource files are those on the files of all items. -/
theorem mem_steps_writeResources : step ∈ (writeResources layout registry).steps ↔
    ∃ item ∈ items registry, step ∈ (item.write layout registry).steps := by
  have hprovider : writeResource layout providerName provider =
      Item.provider.write layout registry := rfl
  rw [writeResources, writeKeyResources_eq, writeServers_eq, writeVolumes_eq, writeAttachments_eq,
    hprovider]
  simp [Change.steps, Change.mem_steps_join, items, entityItems, or_and_right, exists_or, or_assoc]

/-- The text in the file of an item is that of its resource. -/
theorem writeText_mem_steps_writeItem {item : Item} :
    .writeText path text ∈ (item.write layout registry).steps ↔
      ∃ json, item.resource registry = .ok json ∧ path = item.file layout ∧
        text = resourceText json := by
  unfold Item.write
  cases item.resource registry with
  | error e => simp [Change.fail, Change.steps]
  | ok json => simp [writeResource, mem_steps_write, Item.file]

theorem writeText_mem_steps_writeResources :
    .writeText path text ∈ (writeResources layout registry).steps ↔
      ∃ item ∈ items registry, ∃ json, item.resource registry = .ok json ∧
        path = item.file layout ∧ text = resourceText json := by
  simp only [mem_steps_writeResources, writeText_mem_steps_writeItem]

theorem writeText_mem_steps_writeAttachments :
    .writeText path text ∈ (writeAttachments layout registry).steps ↔
      ∃ pair ∈ attachmentPairs registry, ∃ json,
        attachmentResource registry pair.1 pair.2 = .ok json ∧
        path = (Item.attachment pair.1 pair.2).file layout ∧ text = resourceText json := by
  rw [writeAttachments_eq, Change.mem_steps_join, attachmentItems, List.map_map]
  simp only [List.mem_map, exists_exists_and_eq_and, Function.comp_apply,
    writeText_mem_steps_writeItem]
  rfl

theorem sound_writeResources_iff : (writeResources layout registry).Sound ↔
    ∀ item ∈ items registry, (item.write layout registry).Sound := by
  have hprovider : writeResource layout providerName provider =
      Item.provider.write layout registry := rfl
  rw [writeResources, writeKeyResources_eq, writeServers_eq, writeVolumes_eq, writeAttachments_eq,
    hprovider]
  simp [Change.Sound, Change.sound_join_iff, items, entityItems, or_imp, forall_and, and_assoc]

theorem sound_writeProvisioning_iff : (writeProvisioning layout registry).Sound ↔
    registry.checkReferences = .ok () ∧ registry.checkOwnership = .ok () ∧
      (writeResources layout registry).Sound := by
  unfold writeProvisioning
  cases registry.checkReferences with
  | error e => simp [Change.not_sound_fail]
  | ok u =>
    cases registry.checkOwnership with
    | error e => simp [Change.not_sound_fail]
    | ok u => simp

theorem writeProvisioning_of_sound (h : (writeProvisioning layout registry).Sound) :
    writeProvisioning layout registry = writeResources layout registry := by
  obtain ⟨hreferences, hownership, -⟩ := sound_writeProvisioning_iff.mp h
  rw [writeProvisioning, hreferences, hownership]

end Steps

/-! ### Writing all items -/

/-- The file of an item has the text of its resource. -/
def Item.KeptIn (layout : Layout) (registry : Registry) (tree : FileTree) (item : Item) : Prop :=
  ∃ json, item.resource registry = .ok json ∧
    tree.readText (item.file layout) = .ok (resourceText json)

section Writing

variable {layout : Layout} {registry : Registry} {tree after : FileTree}

/-- Steps on the files of items that are apart agree with what is written for each of them. -/
theorem agrees_of_apart (hapart : Apart layout (items registry)) {item : Item}
    (hitem : item ∈ items registry) {json : Json} (hjson : item.resource registry = .ok json)
    {step : FileStep} (hstep : step ∈ (writeResources layout registry).steps)
    (htarget : tree.target (item.file layout) = tree.target step.path) :
    (FileStep.writeText (item.file layout) (resourceText json)).Agrees step := by
  obtain ⟨other, hother, hstep⟩ := mem_steps_writeResources.mp hstep
  unfold Item.write at hstep
  split at hstep
  next json' hjson' =>
    apply agrees_of_mem_steps_write hstep
    intro hpath
    rw [hpath] at htarget
    have hname : item.fileName = other.fileName := fileName_eq_of_target htarget
    obtain rfl := hapart.files item hitem other hother ((file_eq_iff layout item other).mpr hname)
    rw [Except.ok.inj (hjson'.symm.trans hjson)]
  next => cases hstep

/-- Items that are apart all have their resources in their files once they are written. -/
theorem keptIn_of_writeProvisioning (hapart : Apart layout (items registry))
    (h : (writeProvisioning layout registry).Makes tree after) :
    ∀ item ∈ items registry, item.KeptIn layout registry after := by
  rw [writeProvisioning_of_sound h.sound] at h
  intro item hitem
  have hsound := sound_writeResources_iff.mp h.sound item hitem
  obtain ⟨json, hjson⟩ := sound_writeItem_iff.mp hsound
  have hstep : .writeText (item.file layout) (resourceText json) ∈
      (writeResources layout registry).steps :=
    writeText_mem_steps_writeResources.mpr ⟨item, hitem, json, hjson, rfl, rfl⟩
  have hsettled := h.settled hstep trivial fun other hother htarget ↦
    agrees_of_apart hapart hitem hjson hother htarget
  exact ⟨json, hjson, FileStep.settled_writeText_iff.mp hsettled⟩

theorem keptIn_of_unambiguous (hapart : IdentifiersApart registry) (h : Unambiguous registry)
    (hmakes : (writeProvisioning layout registry).Makes tree after) :
    ∀ item ∈ items registry, item.KeptIn layout registry after := by
  apply keptIn_of_writeProvisioning (apart_iff.mpr ?_) hmakes
  intro a ha b hb hshares
  exact eq_of_sharesFile hapart h ha hb hshares

end Writing

end ClusterPlan.Artifact
