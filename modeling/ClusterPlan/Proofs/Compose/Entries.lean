import ClusterPlan.Proofs.Compose.Services
import ClusterPlan.Proofs.Deployment.Checks

/-!
# The entries of a manifest

A manifest is meant to hold an entry for each image, under the name of the image, and behind them
one for the proxy where there is anything for it to do. The check of a deployment keeps the names
of its images apart from each other. It does not keep them apart from the name of the proxy, and
an image of this name loses its entry to the proxy.
-/

namespace ClusterPlan.Compose

/-! ### What a manifest is meant to hold -/

/-- The service runs the image, as it is placed on the server. -/
structure Runs (i : DeployedImage) (service : Service) : Prop where
  image : service.image = i.image.qualified
  ports : ∀ entry, entry ∈ service.ports ↔
    ∃ p ∈ i.ports, ∃ bound, p.bound? = some bound ∧ bound ++ ":" ++ p.container = entry
  expose : ∀ container, container ∈ service.expose ↔
    ∃ p ∈ i.ports, p.bound? = none ∧ p.container = container
  environment : service.environment = i.environment
  volumes : service.volumes = i.volumes

theorem runs_imageService (i : DeployedImage) : Runs i (imageService i) where
  image := rfl
  ports _ := mem_published
  expose _ := mem_exposedPorts
  environment := rfl
  volumes := rfl

/-- The entries are those of the images, in their order, and that of the proxy if it has a pool. No
two of them have the same name, and the manifest has them all. -/
structure KeepsImages (d : Deployment) (plan : Proxy.Plan) : Prop where
  manifest : text d plan = written d.server (services d plan)
  entries : ∃ own further, services d plan = own ++ further ∧
    List.Forall₂ (fun i entry ↦ entry.1 = i.image.name ∧ Runs i entry.2) d.images own ∧
    further.map Prod.fst = if plan.isEmpty then [] else [Deployment.proxyName]
  nodup : ((services d plan).map Prod.fst).Nodup

section Entries

variable {d : Deployment} {plan : Proxy.Plan}

theorem map_fst_of_forall₂ {images : List DeployedImage} {own : List (String × Service)}
    (h : List.Forall₂ (fun i entry ↦ entry.1 = i.image.name ∧ Runs i entry.2) images own) :
    own.map Prod.fst = images.map (·.image.name) := by
  induction h with
  | nil => rfl
  | cons h _ ih => rw [List.map_cons, List.map_cons, h.1, ih]

theorem KeepsImages.proxyName_notMem (h : KeepsImages d plan) (hsome : plan.isEmpty = false) :
    Deployment.proxyName ∉ d.images.map (·.image.name) := by
  obtain ⟨own, further, hservices, hown, hfurther⟩ := h.entries
  have hnodup := h.nodup
  rw [hservices, List.map_append, map_fst_of_forall₂ hown, hfurther, hsome] at hnodup
  intro hmem
  exact List.disjoint_of_nodup_append hnodup hmem (.head _)

/-- With names of their own the images keep their entries, and the proxy is put behind them. -/
theorem services_eq_append (hnames : (d.images.map (·.image.name)).Nodup)
    (hfree : plan.isEmpty = true ∨ Deployment.proxyName ∉ d.images.map (·.image.name)) :
    services d plan = d.images.map (fun i ↦ (i.image.name, imageService i)) ++
      if plan.isEmpty then [] else [(Deployment.proxyName, proxyService d plan)] := by
  rw [services_eq, imageServices_eq_map hnames]
  split
  next => rw [List.append_nil]
  next hsome =>
    apply put_of_notMem
    rw [List.map_map]
    exact hfree.resolve_left hsome

theorem nodup_map_fst_services (hnames : (d.images.map (·.image.name)).Nodup)
    (hfree : plan.isEmpty = true ∨ Deployment.proxyName ∉ d.images.map (·.image.name)) :
    ((services d plan).map Prod.fst).Nodup := by
  have hkeys : (services d plan).map Prod.fst = d.images.map (·.image.name) ++
      if plan.isEmpty then [] else [Deployment.proxyName] := by
    rw [services_eq_append hnames hfree, List.map_append, List.map_map, apply_ite (List.map _)]
    rfl
  rw [hkeys]
  split
  next =>
    rw [List.append_nil]
    exact hnames
  next hsome =>
    rw [← List.concat_eq_append]
    exact List.Nodup.concat (hfree.resolve_left hsome) hnames

/-- All images keep their entries exactly if none of them has the name of the proxy, or there is no
proxy. -/
theorem keepsImages_iff (h : d.checkImageNames = .ok ()) :
    KeepsImages d plan ↔
      plan.isEmpty = true ∨ Deployment.proxyName ∉ d.images.map (·.image.name) := by
  have hnames : (d.images.map (·.image.name)).Nodup := Deployment.checkImageNames_eq_ok_iff.mp h
  constructor
  · intro hkeeps
    cases hempty : plan.isEmpty with
    | true => exact .inl rfl
    | false => exact .inr (hkeeps.proxyName_notMem hempty)
  · intro hfree
    have hown : List.Forall₂ (fun i entry ↦ entry.1 = i.image.name ∧ Runs i entry.2) d.images
        (d.images.map fun i ↦ (i.image.name, imageService i)) := by
      rw [List.forall₂_map_right_iff, List.forall₂_same]
      exact fun i _ ↦ ⟨rfl, runs_imageService i⟩
    refine ⟨text_eq_written d plan, ⟨_, _, services_eq_append hnames hfree, hown, ?_⟩,
      nodup_map_fst_services hnames hfree⟩
    rw [apply_ite (List.map _)]
    rfl

end Entries

/-! ### An image of the name of the proxy -/

/-- The name of the image is what is left of `nginx-_-_-_`. -/
def proxyNamed : Deployment :=
  ⟨"web-1", some "10.0.0.1",
    [⟨⟨"nginx", ⟨"ghcr.io", "_", "_", "_"⟩⟩, [⟨some "80", none, "8080", false, []⟩], [], []⟩]⟩

def proxyNamedPlan : Proxy.Plan :=
  ⟨"web-1", [⟨"nginx-8080", .leastConn, [⟨"nginx", "8080"⟩]⟩],
    [⟨"_", "80", [⟨"/", "nginx-8080"⟩]⟩]⟩

/-- The deployment passes its check and the plan is its own, and yet the image has no entry. -/
theorem not_keepsImages_proxyNamed :
    proxyNamed.checkImageNames = .ok () ∧
      Proxy.plan ⟨.leastConn, false⟩ "web-1" proxyNamed.placements = .ok proxyNamedPlan ∧
      ¬KeepsImages proxyNamed proxyNamedPlan := by
  have hchecked : proxyNamed.checkImageNames = .ok () := rfl
  refine ⟨hchecked, rfl, fun hkeeps ↦ ?_⟩
  rcases (keepsImages_iff hchecked).mp hkeeps with hempty | hfree
  · exact absurd hempty (by decide)
  · exact hfree (.head _)

end ClusterPlan.Compose
