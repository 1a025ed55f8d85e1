import ClusterPlan.Bindings.Global
import ClusterPlan.Deployment.Planner
import ClusterPlan.Proofs.Template.Answers

/-!
# Deployments and the files that are seen

The files matter to the deployments of a cluster only through a function that reads them. Services
whose strings do not call it are resolved in the same way whatever the files are, with the same
waits and the same calls of the listing and the inspector.
-/

namespace ClusterPlan

open Activity Entity Template

/-- The strings of a service that are rendered for each of its images. -/
def Entity.Service.strings (service : Service) : List String :=
  service.ports ++ (service.proxies ++ (service.volumes ++ service.environment.map (·.2)))

namespace Planner

variable {κ : Type}

/-- What a function answers depends on the files for one name alone. -/
def ReadsBy (p : Planner κ) (name : String) : Prop :=
  ∀ files other called, called ≠ name → p.functions files called = p.functions other called

/-- No string of a service calls a function when it is rendered for a server and an image. -/
def NeverCalls (p : Planner κ) (name : String) : Prop :=
  ∀ server ∈ p.registry.servers, ∀ service ∈ p.registry.servicesOf server, ∀ images,
    (p.listing.images service.name service.images p.defaults).result = .ok images →
      ∀ image ∈ images, ∀ template ∈ service.strings,
        (render (p.functions p.files) (p.context server image) template).CallsOnly (·.name ≠ name)

/-- The global functions read files by one name. -/
theorem readsBy_fileName {p : Planner κ} {base : String} {others : Functions}
    (h : p.functions = fun files ↦ Bindings.functions files base others) :
    p.ReadsBy Bindings.fileName := by
  intro files other called hcalled
  funext arguments
  rw [h]
  dsimp only [Bindings.functions]
  rw [if_neg hcalled, if_neg hcalled]

section Seeing

variable {p : Planner κ} {name : String} {files : FileTree} {q : κ → Prop}

theorem ReadsBy.determines_renderAll (h : p.ReadsBy name) (files : FileTree)
    (subject : Artifact.Subject) {context : Context} {templates : List String}
    (hcalls : ∀ template ∈ templates,
      (render (p.functions p.files) context template).CallsOnly (·.name ≠ name)) :
    (p.renderAll context subject templates).Determines q
      ((p.seeing files).renderAll context subject templates) := by
  have halike : ∀ x ∈ templates.map (render (p.functions p.files) context),
      x.CallsOnly (AnsweredAlike (p.functions p.files) (p.functions files)) := by
    rw [List.forall_mem_map]
    intro template htemplate call hcall
    exact congrFun (h files p.files call.2.name (hcalls template htemplate call hcall)) _
  exact ((determines_join_map fun template _ ↦
    determines_render (p.functions p.files) (p.functions files) context template).unrecorded
      (callsOnly_join halike) q).mapError _

theorem ReadsBy.determines_deployImage (h : p.ReadsBy name) (files : FileTree) {server : Server}
    {service : Service} {image : Image}
    (hcalls : ∀ template ∈ service.strings,
      (render (p.functions p.files) (p.context server image) template).CallsOnly
        (·.name ≠ name)) :
    (p.deployImage server service image).Determines q
      ((p.seeing files).deployImage server service image) := by
  simp only [Service.strings, List.forall_mem_append] at hcalls
  obtain ⟨hports, hproxies, hvolumes, henvironment⟩ := hcalls
  apply (determines_joinThree (h.determines_renderAll files _ hports)
    (h.determines_renderAll files _ hproxies) (h.determines_renderAll files _ hvolumes)).andThen
  intro rendered _
  apply (h.determines_renderAll files _ henvironment).andThen
  exact fun environment _ ↦ determines_refl _

theorem ReadsBy.determines_deployServer (h : p.ReadsBy name) (files : FileTree)
    (hnever : p.NeverCalls name) {server : Server} (hserver : server ∈ p.registry.servers) :
    (p.deployServer server).Determines q ((p.seeing files).deployServer server) := by
  refine (determines_join_map fun service hservice ↦ ?_).andThen fun _ _ ↦ determines_refl _
  refine (determines_refl _).andThen fun images himages ↦ determines_join_map fun image himage ↦ ?_
  exact h.determines_deployImage files
    (hnever server hserver service hservice images (Except.mapError_eq_ok_iff.mp himages) image
      himage)

theorem ReadsBy.determines_deployAll (h : p.ReadsBy name) (files : FileTree)
    (hnever : p.NeverCalls name) : p.deployAll.Determines q (p.seeing files).deployAll := by
  have hregistry : (p.seeing files).registry = p.registry := rfl
  unfold deployAll
  rw [hregistry]
  split
  · exact determines_refl _
  · exact determines_join_map fun server hserver ↦ h.determines_deployServer files hnever hserver

/-- What has been resolved is resolved again whatever the files have become. -/
theorem ReadsBy.deployAll_eq (h : p.ReadsBy name) (files : FileTree) (hnever : p.NeverCalls name)
    {deployments : List Deployment} (hresult : p.deployAll.result = .ok deployments) :
    (p.seeing files).deployAll = p.deployAll :=
  h.determines_deployAll (q := fun _ ↦ True) files hnever ⟨deployments, hresult⟩ fun _ _ ↦ trivial

end Seeing

end Planner

end ClusterPlan
