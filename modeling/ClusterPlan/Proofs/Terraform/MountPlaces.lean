import ClusterPlan.Proofs.Terraform.MountScript

/-!
# The places of a mount script

The fixed texts of a mount script have places for the device and for the mount point. A script is
these texts with every place filled, whatever the volume is named and wherever it is mounted. The
first pass fills the places of the device and uncovers those of the mount point, the second fills
these, and neither looks into what it puts in.
-/

namespace ClusterPlan

open Entity Naming

/-- The characters with each mark replaced by what stands for it, from the left. The first
characters, as many as are passed over, belong to a mark that has been replaced already. -/
def Text.replaceMarks (marks : List (List Char × List Char)) : Nat → List Char → List Char
  | _, [] => []
  | passed + 1, _ :: rest => replaceMarks marks passed rest
  | 0, c :: rest =>
    match marks.find? (·.1.isPrefixOf (c :: rest)) with
    | some (mark, filling) => filling ++ replaceMarks marks (mark.length - 1) rest
    | none => c :: replaceMarks marks 0 rest

namespace Terraform

/-! ### Places and parts -/

/-- A text with every place for the device and every place for the mount point filled. -/
def fillPlaces (device path text : String) : String :=
  String.ofList (Text.replaceMarks
    [("$\x7bdevice\x7d".toList, device.toList), ("\\$\x7bpath\x7d".toList, path.toList)] 0
    text.toList)

namespace MountPart

def put (device path : String) : MountPart → String
  | .text s => s
  | .device => device
  | .path => path

section Put

variable (s d p : String)

@[simp] theorem put_text : (text s).put d p = s := rfl
@[simp] theorem put_device : device.put d p = d := rfl
@[simp] theorem put_path : path.put d p = p := rfl

@[simp] theorem template_text : (text s).template = s := rfl
@[simp] theorem template_device : device.template = "$\x7bdevice\x7d" := rfl
@[simp] theorem template_path : path.template = "\\$\x7bpath\x7d" := rfl

end Put

end MountPart

/-- The parts of the fixed texts are told apart by their marks alone. -/
theorem fillPlaces_of_mem_mountParts (device path : String) : ∀ parts ∈ mountParts,
    fillPlaces device path (String.join (parts.map (·.template))) =
      String.join (parts.map (·.put device path)) := by
  unfold mountParts fillPlaces
  simp only [List.forall_mem_cons, List.map_cons, List.map_nil, MountPart.template_text,
    MountPart.template_device, MountPart.template_path, MountPart.put_text, MountPart.put_device,
    MountPart.put_path, String.join_cons, String.join_nil, ← String.toList_inj,
    String.toList_append, String.toList_ofList]
  exact ⟨rfl, rfl, rfl, nofun⟩

/-! ### Scripts -/

/-- What the provisioner knows the device of a volume by. -/
def deviceText (name : String) : String :=
  "$\x7bhcloud_volume." ++ identifier name ++ ".linux_device\x7d"

/-- The three lines that mount a device. -/
def mountCommands (device path : String) : List String :=
  ["mkdir -p " ++ path,
   "mountpoint -q " ++ path ++ " || mount -o discard,defaults " ++ device ++ " " ++ path,
   "grep -qs '" ++ device ++ " ' /etc/fstab || echo '" ++ device ++ " " ++ path ++
     " ext4 discard,nofail,defaults 0 0' >> /etc/fstab"]

/-- Every place is filled once: the first pass leaves the device to the provisioner and the mount
point to the second pass, and what comes out of both is the fixed texts as they are filled, the
lines that mount the device. -/
structure FillsOnce (volume : Volume) : Prop where
  first : ∀ line ∈ mountTemplates, ((mountPipeline volume).renderConfig line).result =
    .ok (fillPlaces ("\\" ++ deviceText volume.name) "$\x7bpath\x7d" line)
  script : mountScript volume =
    .ok (mountTemplates.map (fillPlaces (deviceText volume.name) volume.path))
  commands : mountScript volume = .ok (mountCommands (deviceText volume.name) volume.path)

section Scripts

variable {volume : Volume}

theorem text_deviceReference_eq (volume : Volume) :
    (deviceReference volume).text = deviceText volume.name := by
  rw [text_deviceReference, deviceBody]
  delta deviceText
  simp only [← String.append_assoc]
  rfl

theorem pending_eq_put (part : MountPart) :
    part.pending (deviceReference volume) =
      part.put ("\\" ++ deviceText volume.name) "$\x7bpath\x7d" := by
  rw [← text_deviceReference_eq]
  cases part <;> rfl

theorem filled_eq_put (part : MountPart) :
    part.filled (deviceReference volume) volume.path =
      part.put (deviceText volume.name) volume.path := by
  rw [← text_deviceReference_eq]
  cases part <;> rfl

theorem mountLines_eq (volume : Volume) :
    mountLines (deviceReference volume) volume.path =
      mountCommands (deviceText volume.name) volume.path := by
  rw [← text_deviceReference_eq]
  simp [mountLines, mountParts, mountCommands, MountPart.filled, String.append_assoc]

theorem map_fillPlaces_mountTemplates (volume : Volume) :
    mountTemplates.map (fillPlaces (deviceText volume.name) volume.path) =
      mountLines (deviceReference volume) volume.path := by
  rw [mountTemplates_eq, List.map_map, mountLines]
  refine List.map_congr_left fun parts hparts ↦ ?_
  rw [Function.comp_apply, fillPlaces_of_mem_mountParts _ _ parts hparts]
  simp only [filled_eq_put]

theorem mountScript_of_isAbsolute (h : volume.path.toList.head? = some '/') :
    mountScript volume = .ok (mountLines (deviceReference volume) volume.path) := by
  refine mountScript_eq_ok_iff.mpr ⟨fun hpath ↦ ?_, rfl⟩
  rw [hpath] at h
  exact absurd h (by decide)

theorem fillsOnce_of_isAbsolute (h : volume.path.toList.head? = some '/') : FillsOnce volume where
  first := by
    rw [mountTemplates_eq, List.forall_mem_map]
    intro parts hparts
    rw [result_renderConfig (isPlain_of_mem_mountParts parts hparts),
      fillPlaces_of_mem_mountParts _ _ parts hparts]
    simp only [pending_eq_put]
  script := by rw [map_fillPlaces_mountTemplates, mountScript_of_isAbsolute h]
  commands := by rw [← mountLines_eq, mountScript_of_isAbsolute h]

/-- A mount point that is full of marks is put in as it is. -/
theorem fillsOnce_markedPath :
    "/mnt/$\x7bpath\x7d\\$\x7bdevice\x7d/\x7b\"x\"\x7d".toList.head? = some '/' ∧
      FillsOnce ⟨"Data 1", 10.0, "/mnt/$\x7bpath\x7d\\$\x7bdevice\x7d/\x7b\"x\"\x7d"⟩ :=
  ⟨by decide, fillsOnce_of_isAbsolute (by decide)⟩

end Scripts

end Terraform

end ClusterPlan
