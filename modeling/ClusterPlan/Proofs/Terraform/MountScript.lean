import ClusterPlan.Proofs.Naming.Identifiers
import ClusterPlan.Proofs.Template.Filling
import ClusterPlan.Proofs.Template.ValueText
import ClusterPlan.Terraform.Attachment

/-!
# Mount scripts

The lines of a mount script are fixed texts with the device and the mount point in between. The
reference to the device comes out of the first pass behind a backslash and out of the second as it
is, and the mount point is put in by the second, which does not look into it. The one mount point
that no script can be made for is the word that stands for what is undefined.
-/

namespace ClusterPlan.Terraform

open Entity Naming Template

/-! ### Lines by their parts -/

inductive MountPart where
  | text (s : String)
  | device
  | path
  deriving DecidableEq

namespace MountPart

def template : MountPart → String
  | text s => s
  | device => "$\x7bdevice\x7d"
  | path => "\\$\x7bpath\x7d"

/-- What the first pass leaves of a part. -/
def pending (reference : Reference) : MountPart → String
  | text s => s
  | device => "\\" ++ reference.text
  | path => "$\x7bpath\x7d"

def filled (reference : Reference) (mountPoint : String) : MountPart → String
  | text s => s
  | device => reference.text
  | path => mountPoint

end MountPart

def mountParts : List (List MountPart) :=
  [[.text "mkdir -p ", .path],
    [.text "mountpoint -q ", .path, .text " || mount -o discard,defaults ", .device, .text " ",
      .path],
    [.text "grep -qs '", .device, .text " ' /etc/fstab || echo '", .device, .text " ", .path,
      .text " ext4 discard,nofail,defaults 0 0' >> /etc/fstab"]]

def mountLines (reference : Reference) (mountPoint : String) : List String :=
  mountParts.map fun parts ↦ String.join (parts.map (·.filled reference mountPoint))

theorem mountTemplates_eq :
    mountTemplates = mountParts.map fun parts ↦ String.join (parts.map (·.template)) := by
  decide

def MountPart.IsPlain : MountPart → Prop
  | text s => IsFixed s
  | device | path => True

instance : DecidablePred MountPart.IsPlain
  | .text s => inferInstanceAs (Decidable (IsFixed s))
  | .device => inferInstanceAs (Decidable True)
  | .path => inferInstanceAs (Decidable True)

theorem isPlain_of_mem_mountParts : ∀ parts ∈ mountParts, ∀ part ∈ parts, part.IsPlain := by
  decide

/-! ### The device -/

theorem escaped_of_notMem {cs : List Char} (h : '$' ∉ cs) : Segment.escaped cs = cs := by
  induction cs with
  | nil => rfl
  | cons c rest ih =>
    rw [List.mem_cons, not_or] at h
    rw [Segment.escaped_cons fun _ hc ↦ absurd hc.symm h.1, ih h.2]

/-- An opening mark behind a backslash is text, and so is what follows it up to the next one. -/
theorem lex_escaped_opener {body : String} (h : '$' ∉ body.toList) :
    lex ("\\$\x7b" ++ body) = .ok [.static ("$\x7b" ++ body)] := by
  have hwell : Segment.WellFormed [.static ("$\x7b" ++ body)] := by
    rw [Segment.wellFormed_static]
    refine ⟨fun hempty ↦ ?_, trivial, Segment.wellFormed_nil⟩
    have hlist := congrArg String.toList hempty
    rw [String.toList_append] at hlist
    cases hlist
  have hwritten : Segment.template [.static ("$\x7b" ++ body)] = "\\$\x7b" ++ body := by
    rw [← String.toList_inj, Segment.template, String.toList_ofList, Segment.writtenAll_static,
      String.toList_append, String.toList_append, Segment.writtenAll_nil, List.append_nil]
    exact congrArg ('\\' :: '$' :: '\x7b' :: ·) (escaped_of_notMem h)
  rw [lex, Except.mapError_eq_ok_iff, Segment.lex_eq_ok_iff_template]
  exact ⟨hwell, hwritten⟩

/-- The reference behind its opening mark. -/
def deviceBody (volume : Volume) : String :=
  volumeType ++ "." ++ identifier volume.name ++ ".linux_device\x7d"

theorem text_deviceReference (volume : Volume) :
    (deviceReference volume).text = "$\x7b" ++ deviceBody volume := by
  unfold Reference.text deviceReference deviceBody
  simp only [String.append_assoc]
  rfl

theorem notMem_deviceBody (volume : Volume) : '$' ∉ (deviceBody volume).toList := by
  have hid : '$' ∉ (identifier volume.name).toList := fun h ↦
    absurd (isPlain_of_mem_identifier h) (by decide)
  have htype : '$' ∉ (volumeType ++ ".").toList := by decide
  have hpart : '$' ∉ ".linux_device\x7d".toList := by decide
  rw [deviceBody, String.toList_append, String.toList_append, List.mem_append, List.mem_append]
  rintro ((h | h) | h)
  · exact htype h
  · exact hid h
  · exact hpart h

/-! ### The two passes -/

section Passes

variable {volume : Volume} {part : MountPart}

theorem pending_of_isPlain (h : part.IsPlain) :
    (renderWith .strict Bindings.none (mountPipeline volume).config part.template).result =
      .ok (part.pending (deviceReference volume)) := by
  cases part with
  | text s => exact IsFixed.result_renderWith h
  | device =>
    have hlex : lex "$\x7bdevice\x7d" = .ok [.dynamic "device"] := rfl
    have hparse : parseSource "device" = .ok (.ident "device") := by with_unfolding_all rfl
    have hhead : ("\\" ++ (deviceReference volume).text).toList.head? = some '\\' := by
      rw [String.toList_append]
      rfl
    exact result_renderWith_name hlex hparse rfl (Value.ne_undefined_of_head? hhead (by decide))
  | path =>
    have hlex : lex "\\$\x7bpath\x7d" = .ok [.static "$\x7bpath\x7d"] := rfl
    exact result_renderWith_static hlex

theorem filled_of_isPlain (h : part.IsPlain) (hpath : volume.path ≠ "undefined") :
    (renderWith .strict Bindings.none (mountPoint volume)
        (part.pending (deviceReference volume))).result =
      .ok (part.filled (deviceReference volume) volume.path) := by
  cases part with
  | text s => exact IsFixed.result_renderWith h
  | device =>
    have hpending : MountPart.device.pending (deviceReference volume) =
        "\\$\x7b" ++ deviceBody volume := by
      rw [MountPart.pending, text_deviceReference, ← String.append_assoc]
      rfl
    have hfilled : MountPart.device.filled (deviceReference volume) volume.path =
        "$\x7b" ++ deviceBody volume := text_deviceReference volume
    rw [hpending, hfilled]
    exact result_renderWith_static (lex_escaped_opener (notMem_deviceBody volume))
  | path =>
    have hlex : lex "$\x7bpath\x7d" = .ok [.dynamic "path"] := rfl
    have hparse : parseSource "path" = .ok (.ident "path") := by with_unfolding_all rfl
    exact result_renderWith_name hlex hparse rfl hpath

end Passes

/-! ### Lines and scripts -/

section Scripts

variable {volume : Volume} {part : MountPart} {parts : List MountPart}

theorem endsPlain_template (h : part.IsPlain) : Segment.EndsPlain part.template.toList := by
  cases part with
  | text s => exact IsFixed.endsPlain h
  | device => exact endsPlain_concat "$\x7bdevice".toList
  | path => exact endsPlain_concat "\\$\x7bpath".toList

theorem endsPlain_pending (h : part.IsPlain) :
    Segment.EndsPlain (part.pending (deviceReference volume)).toList := by
  cases part with
  | text s => exact IsFixed.endsPlain h
  | device =>
    rw [MountPart.pending, Reference.text, ← String.append_assoc, String.toList_append]
    exact endsPlain_concat _
  | path =>
    change Segment.EndsPlain "$\x7bpath\x7d".toList
    exact endsPlain_concat "$\x7bpath".toList

theorem result_renderConfig (h : ∀ part ∈ parts, part.IsPlain) :
    ((mountPipeline volume).renderConfig (String.join (parts.map (·.template)))).result =
      .ok (String.join (parts.map (·.pending (deviceReference volume)))) :=
  result_renderWith_join (fun part hpart ↦ endsPlain_template (h part hpart))
    fun part hpart ↦ pending_of_isPlain (h part hpart)

theorem result_render_line (h : ∀ part ∈ parts, part.IsPlain) (hpath : volume.path ≠ "undefined") :
    ((mountPipeline volume).render (String.join (parts.map (·.template)))
        (mountPoint volume)).result =
      .ok (String.join (parts.map (·.filled (deviceReference volume) volume.path))) := by
  rw [Pipeline.render, Activity.result_andThen, result_renderConfig h]
  exact result_renderWith_join (fun part hpart ↦ endsPlain_pending (h part hpart))
    fun part hpart ↦ filled_of_isPlain (h part hpart) hpath

theorem mountScript_eq_ok_iff_forall₂ {script : List String} :
    mountScript volume = .ok script ↔
      List.Forall₂ (fun parts line ↦ ((mountPipeline volume).render
        (String.join (parts.map (·.template))) (mountPoint volume)).result = .ok line)
        mountParts script := by
  rw [mountScript, Except.mapError_eq_ok_iff, Activity.result_join_eq_ok_iff, mountTemplates_eq,
    List.map_map, List.mapM_map, mapM_eq_ok_iff]
  rfl

/-- The first line already has the mount point in it. -/
theorem path_ne_undefined {script : List String} (h : mountScript volume = .ok script) :
    volume.path ≠ "undefined" := by
  intro hpath
  rw [mountScript_eq_ok_iff_forall₂] at h
  cases h with
  | cons hline _ =>
    have hfirst : ∀ part ∈ [.text "mkdir -p ", .path], MountPart.IsPlain part :=
      isPlain_of_mem_mountParts _ (.head _)
    have hpending : String.join ([.text "mkdir -p ", .path].map fun part : MountPart ↦
        part.pending (deviceReference volume)) = "mkdir -p $\x7bpath\x7d" := rfl
    have hfails : (renderWith .strict Bindings.none ⟨[("path", .string "undefined")]⟩
        "mkdir -p $\x7bpath\x7d").result = .error (.undefined "path") := by with_unfolding_all rfl
    rw [Pipeline.render, Activity.result_andThen, result_renderConfig hfirst, hpending, mountPoint,
      hpath] at hline
    cases hfails.symm.trans hline

/-- A mount script has the mount point in its lines, and the reference to the device as it is. -/
theorem mountScript_eq_ok_iff {script : List String} :
    mountScript volume = .ok script ↔
      volume.path ≠ "undefined" ∧
        script = mountLines (deviceReference volume) volume.path := by
  have hscript (hpath : volume.path ≠ "undefined") :
      mountScript volume = .ok (mountLines (deviceReference volume) volume.path) := by
    rw [mountScript_eq_ok_iff_forall₂, mountLines, List.forall₂_map_right_iff, List.forall₂_same]
    exact fun parts hparts ↦ result_render_line (isPlain_of_mem_mountParts parts hparts) hpath
  constructor
  · intro h
    have hpath := path_ne_undefined h
    rw [hscript hpath] at h
    exact ⟨hpath, (Except.ok.inj h).symm⟩
  · intro h
    rw [h.2]
    exact hscript h.1

end Scripts

end ClusterPlan.Terraform
