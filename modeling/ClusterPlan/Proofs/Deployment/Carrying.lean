import ClusterPlan.Bindings.Global
import ClusterPlan.Deployment.Planner
import ClusterPlan.Proofs.Outcomes
import ClusterPlan.Proofs.Template.Contexts
import ClusterPlan.Proofs.Text.Parts

/-!
# What a deployed image carries

An image is deployed with the environment of its server, over which that of its service is laid,
and with the mounts that its service declares. The values of the service and the mounts are rendered
with the server and the image bound; the values of the server are taken as they are. Each rendered
value keeps the name that it was declared under, and each mount its place.
-/

namespace ClusterPlan

open Entity

namespace Planner

variable {κ : Type}

/-! ### Bindings -/

/-- The context binds the server and the image, and all else as the globals do. -/
structure Sees (p : Planner κ) (server : Server) (image : Image) (context : Template.Context) :
    Prop where
  server : context.get? "server" =
    some (Bindings.server server (p.state.server? server.name))
  image : context.get? "image" = some image.toValue
  others : ∀ name, name ≠ "server" → name ≠ "image" → context.get? name = p.globals.get? name

theorem sees_context (p : Planner κ) (server : Server) (image : Image) :
    p.Sees server image (p.context server image) := by
  unfold context
  refine ⟨?_, ?_, fun name hserver himage ↦ ?_⟩
  · rw [Template.Context.get?_put, if_neg (by decide), Template.Context.get?_put]
    exact if_pos rfl
  · rw [Template.Context.get?_put]
    exact if_pos rfl
  · rw [Template.Context.get?_put, if_neg (show name ≠ imageName from himage),
      Template.Context.get?_put]
    exact if_neg hserver

/-- A template of the service is rendered for an image on a server. -/
def Renders (p : Planner κ) (server : Server) (image : Image) (template text : String) : Prop :=
  (Template.render (p.functions p.files) (p.context server image) template).result = .ok text

theorem result_renderAll_eq_ok_iff {p : Planner κ} {server : Server} {image : Image}
    {subject : Artifact.Subject} {templates texts : List String} :
    (p.renderAll (p.context server image) subject templates).result = .ok texts ↔
      List.Forall₂ (p.Renders server image) templates texts := by
  have hresult : (p.renderAll (p.context server image) subject templates).result =
      (Activity.join (templates.map (Template.render (p.functions p.files)
        (p.context server image)))).result.mapError (.template subject) := rfl
  rw [hresult, Except.mapError_eq_ok_iff, Activity.result_join_eq_ok_iff, List.mapM_map,
    mapM_eq_ok_iff]
  rfl

/-! ### Mounts -/

/-- What stands before the first colon of a mount is the name of a volume that the server claims. -/
def Takes (p : Planner κ) (server : Server) (written : String) (volume : Volume) (rest : String) :
    Prop :=
  ∃ source, ':' ∉ source.toList ∧ written = source ++ ":" ++ rest ∧
    p.registry.volume? source = some volume ∧ source ∈ server.volumes

/-- The source of a mount is replaced if it is the name of such a volume, and only then. -/
structure IsMounted (p : Planner κ) (server : Server) (written mount : String) : Prop where
  replaced : ∀ volume rest, p.Takes server written volume rest → mount = volume.path ++ ":" ++ rest
  kept : (¬∃ volume rest, p.Takes server written volume rest) → mount = written

/-- The source before the first colon gives way to the path of a volume, or else it stays. -/
theorem mount_append {p : Planner κ} {server : Server} {source : String}
    (h : ':' ∉ source.toList) (rest : String) :
    p.mount server (source ++ ":" ++ rest) =
      ((p.registry.volume? source).filter fun _ ↦ server.claims source).elim source (·.path) ++
        ":" ++ rest := by
  have htext : (source ++ ":" ++ rest).toList = source.toList ++ ':' :: rest.toList := by
    simp
  rw [mount, htext, Text.splitFirst?_append_cons h]
  simp only [String.ofList_toList]
  cases hvolume : p.registry.volume? source with
  | none => rfl
  | some volume =>
    dsimp only
    cases hclaims : server.claims source with
    | true => simp [Option.filter]
    | false => simp [Option.filter]

theorem isMounted_mount (p : Planner κ) (server : Server) (written : String) :
    p.IsMounted server written (p.mount server written) where
  replaced := by
    rintro volume rest ⟨source, hcolon, rfl, hvolume, hclaims⟩
    have hclaims' : server.claims source = true := List.contains_iff_mem.mpr hclaims
    rw [mount_append hcolon, hvolume, Option.filter_some, if_pos hclaims']
    rfl
  kept hnone := by
    by_cases hcolon : ':' ∈ written.toList
    · obtain ⟨before, after, hsplit, hbefore⟩ := List.eq_append_cons_of_mem hcolon
      have hwritten : written = String.ofList before ++ ":" ++ String.ofList after := by
        simp [← String.toList_inj, hsplit]
      have hsource : ':' ∉ (String.ofList before).toList := by rwa [String.toList_ofList]
      rw [hwritten, mount_append hsource]
      cases hfound : (p.registry.volume? (String.ofList before)).filter fun _ ↦
        server.claims (String.ofList before) with
      | none => rfl
      | some volume =>
        obtain ⟨hvolume, hclaims⟩ := Option.filter_eq_some_iff.mp hfound
        exact absurd ⟨volume, _, _, hsource, hwritten, hvolume, List.contains_iff_mem.mp hclaims⟩
          hnone
    · rw [mount, Text.splitFirst?_of_notMem hcolon]

/-! ### Images -/

/-- What a service declares for its images and a server for all that runs on it, as an image of the
service is deployed on the server. -/
structure Carries (p : Planner κ) (server : Server) (service : Service) (image : Image)
    (deployed : DeployedImage) : Prop where
  sees : p.Sees server image (p.context server image)
  names : ∀ name, name ∈ deployed.environment.map (·.1) ↔
    name ∈ server.environment.map (·.1) ∨ name ∈ service.environment.map (·.1)
  rendered : ∀ name template, (name, template) ∈ service.environment →
    ∃ value, (name, value) ∈ deployed.environment ∧ p.Renders server image template value
  inherited : ∀ name value, (name, value) ∈ server.environment →
    name ∉ service.environment.map (·.1) → (name, value) ∈ deployed.environment
  inOrder : InOrder deployed.environment
  mounts : List.Forall₂ (fun written mount ↦ ∃ text, p.Renders server image written text ∧
    p.IsMounted server text mount) service.volumes deployed.volumes

section Images

variable {p : Planner κ} {server : Server} {service : Service} {image : Image}
  {deployed : DeployedImage}

/-- What is deployed is made of rendered texts. -/
theorem exists_rendered_of_deployImage
    (h : (p.deployImage server service image).result = .ok deployed) :
    ∃ environment volumes,
      List.Forall₂ (p.Renders server image) (service.environment.map (·.2)) environment ∧
      List.Forall₂ (p.Renders server image) service.volumes volumes ∧
      deployed.environment = mergeEnvironment server.environment
        ((service.environment.map (·.1)).zip environment) ∧
      deployed.volumes = volumes.map (p.mount server) := by
  unfold deployImage at h
  dsimp only at h
  rw [Activity.result_andThen, Except.bind_eq_ok_iff] at h
  obtain ⟨⟨ports, proxies, volumes⟩, hjoined, h⟩ := h
  rw [Activity.result_andThen, Except.bind_eq_ok_iff] at h
  obtain ⟨environment, henvironment, h⟩ := h
  obtain ⟨-, -, hvolumes⟩ := Activity.results_of_joinThree hjoined
  refine ⟨environment, volumes, result_renderAll_eq_ok_iff.mp henvironment,
    result_renderAll_eq_ok_iff.mp hvolumes, ?_⟩
  rw [deploy, Activity.result_andThen, Except.bind_eq_ok_iff] at h
  obtain ⟨found, -, h⟩ := h
  split at h
  · cases h
  · obtain rfl := Except.ok.inj h
    exact ⟨rfl, rfl⟩

theorem carries_of_deployImage (hserver : InOrder server.environment)
    (hservice : InOrder service.environment)
    (h : (p.deployImage server service image).result = .ok deployed) :
    p.Carries server service image deployed := by
  obtain ⟨environment, volumes, henvironment, hvolumes, hmerged, hmounts⟩ :=
    exists_rendered_of_deployImage h
  generalize hupper : (service.environment.map (·.1)).zip environment = upper at hmerged
  have hnames : upper.map Prod.fst = service.environment.map (·.1) := by
    rw [← hupper]
    refine List.map_fst_zip (Nat.le_of_eq ?_)
    rw [← henvironment.length_eq, List.length_map, List.length_map]
  have hanswer (name value : String) : upper.lookup name = some value ↔
      ∃ template, service.environment.lookup name = some template ∧
        p.Renders server image template value := hupper ▸ lookup_zip_eq_some_iff henvironment
  have horder : InOrder deployed.environment := hmerged ▸ inOrder_foldl_insertSorted hserver upper
  have hlookup (name : String) : deployed.environment.lookup name =
      (upper.lookup name).or (server.environment.lookup name) :=
    hmerged ▸ lookup_foldl_insertSorted (hnames ▸ hservice.nodup) _ name
  refine ⟨p.sees_context server image, fun name ↦ ?_, fun name template htemplate ↦ ?_,
    fun name value hvalue hname ↦ ?_, horder, ?_⟩
  · rw [← not_iff_not, not_or, ← lookup_eq_none_iff_notMem, ← lookup_eq_none_iff_notMem, ← hnames,
      ← lookup_eq_none_iff_notMem, hlookup, Option.or_eq_none_iff, and_comm]
  · obtain ⟨value, -, hvalue⟩ :=
      exists_right_of_forall₂ henvironment (List.mem_map_of_mem (f := Prod.snd) htemplate)
    have hfound := (hanswer name value).mpr
      ⟨template, (lookup_eq_some_iff_of_nodup hservice.nodup).mpr htemplate, hvalue⟩
    refine ⟨value, (lookup_eq_some_iff_of_nodup horder.nodup).mp ?_, hvalue⟩
    rw [hlookup, hfound, Option.some_or]
  · rw [← hnames, ← lookup_eq_none_iff_notMem] at hname
    rw [← lookup_eq_some_iff_of_nodup horder.nodup, hlookup, hname, Option.none_or,
      lookup_eq_some_iff_of_nodup hserver.nodup]
    exact hvalue
  · rw [hmounts, List.forall₂_map_right_iff]
    exact hvolumes.imp fun _ text htext ↦ ⟨text, htext, p.isMounted_mount server text⟩

end Images

/-! ### An environment over another -/

def stagedServer : Server :=
  ⟨"web-1", "cx22", none, ["ops"], ["api"], ["data"], [], [("REGION", "fsn1"), ("STAGE", "prod")]⟩

/-- One value is taken from the server, and of the volumes that are named one is not claimed. -/
def stagedService : Service :=
  ⟨"api", ["shop/web/api:v1"], ["80:4000:8080"], [],
    [("HOST", "${server.name}"), ("STAGE", "${image.tag}")],
    ["data:/srv", "cache:/tmp", "/etc/${server.name}:/etc/app:ro"]⟩

def stagedImage : Image := ⟨"api", ⟨"ghcr.io", "shop", "api", "v1"⟩⟩

def stagedPlanner : Planner Program.Call :=
  ⟨⟨[stagedServer], [stagedService], [],
      [⟨"data", 10.0, "/mnt/data"⟩, ⟨"cache", 5.0, "/mnt/cache"⟩]⟩,
    ⟨[]⟩, .withoutToken "ghcr.io" "TOKEN", fun _ ↦ pure [], ⟨"ghcr.io", none, none⟩,
    Bindings.globals [], fun files ↦ Bindings.functions files "." Bindings.none, ⟨[], []⟩⟩

def stagedDeployment : DeployedImage :=
  ⟨stagedImage, [⟨some "80", some "4000", "8080", false, []⟩],
    [("HOST", "web-1"), ("REGION", "fsn1"), ("STAGE", "v1")],
    ["/mnt/data:/srv", "cache:/tmp", "/etc/web-1:/etc/app:ro"]⟩

theorem carries_stagedDeployment :
    (stagedPlanner.deployImage stagedServer stagedService stagedImage).result =
        .ok stagedDeployment ∧
      stagedPlanner.Carries stagedServer stagedService stagedImage stagedDeployment := by
  have hserver : InOrder stagedServer.environment := by
    unfold InOrder
    decide
  have hservice : InOrder stagedService.environment := by
    unfold InOrder
    decide
  have hresult : (stagedPlanner.deployImage stagedServer stagedService stagedImage).result =
      .ok stagedDeployment := by
    apply Except.eq_ok_of_toOption
    decide +kernel
  exact ⟨hresult, carries_of_deployImage hserver hservice hresult⟩

end Planner

end ClusterPlan
