import ClusterPlan.Deployment.Planner
import ClusterPlan.Proofs.Outcomes
import ClusterPlan.Proofs.Sequence

/-!
# Resolving all servers

The deployments that are resolved are those of the servers of the registry, in their order. What
resolving fails by is found before anything is written: a reference to nothing, or a service of some
server whose images, ports or strings are not in order, or a server whose images get into each
other's way. The only calls are those that the listing and the inspector make.
-/

namespace ClusterPlan

open Entity

namespace ArtifactError

/-- What is wrong with the deployments of servers, alone or side by side. -/
inductive IsOfDeployments : ArtifactError → Prop where
  | image (service : String) (e : Image.Error) : IsOfDeployments (.image service e)
  | ports (service imageName : String) (e : Proxy.PortError) :
    IsOfDeployments (.ports service imageName e)
  | serviceField (service field image : String) (e : Template.Error) :
    IsOfDeployments (.template (.serviceField service field image) e)
  | duplicateImage (server name : String) (references : List String) :
    IsOfDeployments (.duplicateImage server name references)
  | portConflict (server port : String) (images : List String) :
    IsOfDeployments (.portConflict server port images)
  | routeConflict (e : Proxy.RouteConflict) : IsOfDeployments (.routeConflict e)

end ArtifactError

namespace Planner

variable {κ : Type} (p : Planner κ)

/-! ### Servers -/

theorem eq_of_check {d checked : Deployment} (h : check d = .ok checked) :
    checked = d := by
  obtain ⟨_, -, h⟩ := Except.bind_eq_ok_iff.mp h
  obtain ⟨_, -, h⟩ := Except.bind_eq_ok_iff.mp h
  exact (Except.ok.inj h).symm

theorem server_of_deployServer {server : Server} {d : Deployment}
    (h : (p.deployServer server).result = .ok d) : d.server = server.name := by
  rw [deployServer, Activity.result_andThen, Except.bind_eq_ok_iff] at h
  obtain ⟨images, -, h⟩ := h
  rw [eq_of_check h]

/-- Each server of the registry has one deployment. -/
theorem map_server_of_deployAll {deployments : List Deployment}
    (h : p.deployAll.result = .ok deployments) :
    deployments.map (·.server) = p.registry.servers.map (·.name) := by
  unfold deployAll at h
  split at h
  · cases h
  · rw [Activity.result_join_eq_ok_iff, mapM_eq_ok_iff, List.forall₂_map_left_iff] at h
    generalize p.registry.servers = servers at h ⊢
    induction h with
    | nil => rfl
    | cons hfirst _ ih => rw [List.map_cons, List.map_cons, ih, p.server_of_deployServer hfirst]

/-! ### Failures -/

theorem failsBy_renderAll {q : ArtifactError → Prop} {subject : Artifact.Subject}
    (h : ∀ e, q (.template subject e)) (context : Template.Context) (templates : List String) :
    (p.renderAll context subject templates).FailsBy q :=
  Activity.failsBy_mapError h

theorem failsBy_deploy (server : Server) (service : Service) (image : Image)
    (ports proxies volumes environment : List String) :
    (p.deploy server service image ports proxies volumes environment).FailsBy
      ArtifactError.IsOfDeployments := by
  apply Activity.FailsBy.andThen
  · unfold exposed
    split
    · exact Activity.failsBy_mapError fun e ↦ .image service.name e
    · exact Activity.failsBy_pure []
  · intro found _
    cases Proxy.resolvePorts image.name ports proxies found with
    | error e => exact Activity.failsBy_fail (.ports service.name image.name e)
    | ok resolved => exact Activity.failsBy_pure _

theorem failsBy_deployImage (server : Server) (service : Service) (image : Image) :
    (p.deployImage server service image).FailsBy ArtifactError.IsOfDeployments := by
  have hrender (field : String) (templates : List String) :
      (p.renderAll (p.context server image) (.serviceField service.name field image.name)
        templates).FailsBy ArtifactError.IsOfDeployments :=
    p.failsBy_renderAll (.serviceField _ _ _) _ templates
  apply Activity.FailsBy.andThen
  · exact Activity.failsBy_joinThree (hrender _ _) (hrender _ _) (hrender _ _)
  · intro rendered _
    apply Activity.FailsBy.andThen
    · exact hrender _ _
    · exact fun environment _ ↦ p.failsBy_deploy _ _ _ _ _ _ _

theorem failsBy_deployService (server : Server) (service : Service) :
    (p.deployService server service).FailsBy ArtifactError.IsOfDeployments := by
  apply Activity.FailsBy.andThen
  · exact Activity.failsBy_mapError fun e ↦ .image service.name e
  · intro images _
    apply Activity.failsBy_join
    rw [List.forall_mem_map]
    exact fun image _ ↦ p.failsBy_deployImage server service image

theorem isOfDeployments_of_check {d : Deployment} {e : ArtifactError} (h : check d = .error e) :
    e.IsOfDeployments := by
  rcases Except.bind_eq_error_iff.mp h with h | ⟨_, -, h⟩
  · unfold Deployment.checkImageNames at h
    split at h
    · rw [← Except.error.inj h]
      exact .duplicateImage _ _ _
    · cases h
  · rcases Except.bind_eq_error_iff.mp h with h | ⟨_, -, h⟩
    · unfold Deployment.checkHostPorts at h
      split at h
      · rw [← Except.error.inj h]
        exact .portConflict _ _ _
      · cases h
    · cases h

theorem failsBy_deployServer (server : Server) :
    (p.deployServer server).FailsBy ArtifactError.IsOfDeployments := by
  apply Activity.FailsBy.andThen
  · apply Activity.failsBy_join
    rw [List.forall_mem_map]
    exact fun service _ ↦ p.failsBy_deployService server service
  · exact fun images _ e he ↦ isOfDeployments_of_check he

/-- Resolving fails by a reference to nothing or by a deployment. -/
theorem failsBy_deployAll :
    p.deployAll.FailsBy fun e ↦
      (∃ reference, p.registry.checkReferences = .error reference ∧
        e = .unknownReference reference) ∨ e.IsOfDeployments := by
  unfold deployAll
  split
  next reference hreference => exact Activity.failsBy_fail (.inl ⟨reference, hreference, rfl⟩)
  next =>
    apply Activity.failsBy_join
    rw [List.forall_mem_map]
    exact fun server _ ↦ (p.failsBy_deployServer server).mono fun _ ↦ .inr

/-! ### Calls -/

section Calls

variable {q : κ → Prop}

/-- All calls that the listing and the inspector of a planner make have a property. -/
structure AsksOnly (p : Planner κ) (q : κ → Prop) : Prop where
  packages : ∀ org, (p.listing.packages org).CallsOnly q
  tags : ∀ org package, (p.listing.tags org package).CallsOnly q
  inspector : ∀ reference, (p.inspector reference).CallsOnly q

variable {p}

theorem AsksOnly.expand (h : p.AsksOnly q) (r : Image.Reference) :
    (p.listing.expand r).CallsOnly q := by
  have hrepositories : (p.listing.repositories r).CallsOnly q := by
    unfold Image.Listing.repositories
    split
    · exact (h.packages r.org).andThen fun _ ↦ Activity.callsOnly_pure _
    · exact Activity.callsOnly_pure _
  have htagged (repo : String) : (p.listing.tagged r repo).CallsOnly q := by
    unfold Image.Listing.tagged
    split
    · exact (h.tags r.org repo).andThen fun _ ↦ Activity.callsOnly_pure _
    · exact Activity.callsOnly_pure _
  unfold Image.Listing.expand
  split
  · exact Activity.callsOnly_pure _
  · split
    · exact Activity.callsOnly_fail _
    · split
      · exact Activity.callsOnly_fail _
      · apply hrepositories.andThen
        intro repos
        apply Activity.CallsOnly.andThen
        · apply Activity.callsOnly_join
          rw [List.forall_mem_map]
          exact fun repo _ ↦ htagged repo
        · intro found
          split
          · exact Activity.callsOnly_fail _
          · exact Activity.callsOnly_pure _

theorem AsksOnly.images (h : p.AsksOnly q) (service : String) (written : List String) :
    (p.listing.images service written p.defaults).CallsOnly q := by
  apply Activity.CallsOnly.andThen
  · exact Activity.callsOnly_ofExcept _
  · intro references
    apply Activity.CallsOnly.andThen
    · apply Activity.callsOnly_join
      rw [List.forall_mem_map]
      exact fun reference _ ↦ h.expand reference
    · exact fun _ ↦ Activity.callsOnly_pure _

theorem AsksOnly.deployImage (h : p.AsksOnly q) (server : Server) (service : Service)
    (image : Image) : (p.deployImage server service image).CallsOnly q := by
  have hrender (subject : Artifact.Subject) (templates : List String) :
      (p.renderAll (p.context server image) subject templates).CallsOnly q :=
    Activity.callsOnly_of_calls_eq_nil rfl
  apply Activity.CallsOnly.andThen
  · exact Activity.callsOnly_joinThree (hrender _ _) (hrender _ _) (hrender _ _)
  · intro rendered
    apply (hrender _ _).andThen
    intro environment
    apply Activity.CallsOnly.andThen
    · unfold exposed
      split
      · exact h.inspector image.qualified
      · exact Activity.callsOnly_pure []
    · intro found
      cases Proxy.resolvePorts image.name rendered.1 rendered.2.1 found with
      | error e => exact Activity.callsOnly_fail _
      | ok resolved => exact Activity.callsOnly_pure _

theorem AsksOnly.deployAll (h : p.AsksOnly q) : p.deployAll.CallsOnly q := by
  unfold Planner.deployAll
  split
  · exact Activity.callsOnly_fail _
  · apply Activity.callsOnly_join
    rw [List.forall_mem_map]
    intro server _
    apply Activity.CallsOnly.andThen
    · apply Activity.callsOnly_join
      rw [List.forall_mem_map]
      intro service _
      apply Activity.CallsOnly.andThen
      · exact (h.images service.name service.images).mapError _
      · intro images
        apply Activity.callsOnly_join
        rw [List.forall_mem_map]
        exact fun image _ ↦ h.deployImage server service image
    · exact fun _ ↦ Activity.callsOnly_ofExcept _

end Calls

end Planner

end ClusterPlan
