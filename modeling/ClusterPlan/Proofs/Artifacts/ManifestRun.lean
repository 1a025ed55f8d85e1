import ClusterPlan.Proofs.Artifacts.Footprint
import ClusterPlan.Proofs.Artifacts.Places
import ClusterPlan.Proofs.Deployment.Plans
import ClusterPlan.Proofs.Files.Standing
import ClusterPlan.Proofs.Proxy.ConfigText

/-!
# What a manifest run leaves behind

Once the manifests of servers with different names have been written, each server has its manifest
and, if its proxy has anything to do, the configuration of the proxy; where the proxy has nothing to
do there is no configuration, whatever an earlier run has left there. Servers are written side by
side, and what stands for one server stays under every step on the files of another, because these
lie in another directory. No other file is changed, made or removed.
-/

namespace ClusterPlan.Artifact

open FileTree (ChangesOnlyAt KeepsDirectories)

/-- The files of a server are those of its deployment and plan, in a directory that is there. -/
structure Stands (layout : Layout) (tree : FileTree) (d : Deployment) (plan : Proxy.Plan) :
    Prop where
  manifest : tree.readText (layout.composeFile d.server) = .ok (Compose.text d plan)
  located : tree.locate (layout.proxyFile d.server) =
    .ok (tree.target (layout.proxyFile d.server))
  config : plan.isEmpty = false →
    ∃ text, Proxy.Nginx.config plan = .ok text ∧
      tree.readText (layout.proxyFile d.server) = .ok text
  absent : plan.isEmpty = true → tree.node? (tree.target (layout.proxyFile d.server)) = none

/-- The files of a server as a run should leave them. -/
structure HasManifests (layout : Layout) (tree : FileTree) (d : Deployment) (plan : Proxy.Plan) :
    Prop where
  manifest : tree.readText (layout.composeFile d.server) = .ok (Compose.text d plan)
  contains_iff : tree.contains (layout.proxyFile d.server) = true ↔ plan.pools ≠ []
  config : plan.pools ≠ [] →
    ∃ text, Proxy.Nginx.config plan = .ok text ∧
      tree.readText (layout.proxyFile d.server) = .ok text

/-- What is left of a run: the files of all servers, and all other files as they were. -/
structure LeavesManifests (layout : Layout) (deployments : List Deployment)
    (plans : List Proxy.Plan) (tree after : FileTree) : Prop where
  servers : List.Forall₂ (HasManifests layout after) deployments plans
  others : ∀ location,
    (∀ path ∈ manifestPaths layout (deployments.map (·.server)), location ≠ tree.target path) →
      ∀ content mode, after.node? location = some (.file content mode) ↔
        tree.node? location = some (.file content mode)

/-! ### Steps on the files of servers -/

section Steps

variable {layout : Layout} {d other : Deployment} {plan otherPlan : Proxy.Plan}
  {step : FileStep} {tree after : FileTree}

theorem mem_steps_writeProxy_of_isEmpty (hempty : plan.isEmpty = true) :
    step ∈ (writeProxy layout d.server plan).steps ↔
      step = .removeIfPresent (layout.proxyFile d.server) := by
  rw [writeProxy, hempty]
  exact List.mem_singleton

theorem writeProxy_of_config (hempty : plan.isEmpty = false) {text : String}
    (htext : Proxy.Nginx.config plan = .ok text) :
    writeProxy layout d.server plan = write (layout.proxyFile d.server) text := by
  rw [writeProxy, hempty, htext]
  rfl

theorem exists_config_of_sound (hempty : plan.isEmpty = false)
    (h : (writeProxy layout d.server plan).Sound) :
    ∃ text, Proxy.Nginx.config plan = .ok text := by
  rw [writeProxy, hempty] at h
  cases htext : Proxy.Nginx.config plan with
  | ok text => exact ⟨text, rfl⟩
  | error e =>
    rw [htext] at h
    exact absurd h (Change.not_sound_fail _)

/-- What is done to the configuration of a proxy. -/
theorem mem_steps_writeProxy (h : step ∈ (writeProxy layout d.server plan).steps) :
    (∃ directory, step = .makeDirectory directory) ∨
      step = .removeIfPresent (layout.proxyFile d.server) ∧ plan.isEmpty = true ∨
        ∃ text, step = .writeText (layout.proxyFile d.server) text ∧ plan.isEmpty = false ∧
          Proxy.Nginx.config plan = .ok text := by
  cases hempty : plan.isEmpty with
  | true => exact .inr (.inl ⟨(mem_steps_writeProxy_of_isEmpty hempty).mp h, rfl⟩)
  | false =>
    rw [writeProxy, hempty] at h
    cases htext : Proxy.Nginx.config plan with
    | error e =>
      rw [htext] at h
      cases h
    | ok text =>
      rw [htext] at h
      rcases mem_steps_write.mp h with ⟨directory, -, rfl⟩ | rfl
      · exact .inl ⟨directory, rfl⟩
      · exact .inr (.inr ⟨text, rfl, rfl, rfl⟩)

theorem mem_steps_writeManifest : step ∈ (writeManifest layout d plan).steps ↔
    step ∈ (write (layout.composeFile d.server) (Compose.text d plan)).steps ∨
      step ∈ (writeProxy layout d.server plan).steps :=
  List.mem_append

/-- Two deployments of one run, with their plans. -/
structure Alongside (d other : Deployment) (plan otherPlan : Proxy.Plan) : Prop where
  name : Path.IsFileName d.server
  otherName : Path.IsFileName other.server
  same : d.server = other.server → d = other ∧ plan = otherPlan

/-- Steps on the files of servers agree with what is written into a manifest. -/
theorem Alongside.agrees_manifest (h : Alongside d other plan otherPlan)
    (hstep : step ∈ (writeManifest layout other otherPlan).steps)
    (htarget : tree.target (layout.composeFile d.server) = tree.target step.path) :
    (FileStep.writeText (layout.composeFile d.server) (Compose.text d plan)).Agrees step := by
  have hproxy : tree.target (layout.composeFile d.server) ≠
      tree.target (layout.proxyFile other.server) := by
    rw [ne_eq, Layout.composeFile, Layout.proxyFile,
      layout.target_serverFile_eq_iff tree h.name h.otherName (by decide) (by decide)]
    exact fun heq ↦ absurd heq.2 (by decide)
  rcases mem_steps_writeManifest.mp hstep with hstep | hstep
  · apply agrees_of_mem_steps_write hstep
    intro hpath
    rw [hpath, Layout.composeFile, Layout.composeFile,
      layout.target_serverFile_eq_iff tree h.name h.otherName (by decide) (by decide)] at htarget
    obtain ⟨rfl, rfl⟩ := h.same htarget.1
    rfl
  · rcases mem_steps_writeProxy hstep with ⟨directory, rfl⟩ | ⟨rfl, -⟩ | ⟨text, rfl, -⟩
    · trivial
    · exact absurd htarget hproxy
    · exact absurd htarget hproxy

/-- They agree with what is written into the configuration of a proxy. -/
theorem Alongside.agrees_config (h : Alongside d other plan otherPlan)
    (hempty : plan.isEmpty = false) {text : String} (htext : Proxy.Nginx.config plan = .ok text)
    (hstep : step ∈ (writeManifest layout other otherPlan).steps)
    (htarget : tree.target (layout.proxyFile d.server) = tree.target step.path) :
    (FileStep.writeText (layout.proxyFile d.server) text).Agrees step := by
  have hsame (hproxy : tree.target (layout.proxyFile d.server) =
      tree.target (layout.proxyFile other.server)) : plan = otherPlan := by
    rw [Layout.proxyFile, Layout.proxyFile,
      layout.target_serverFile_eq_iff tree h.name h.otherName (by decide) (by decide)] at hproxy
    exact (h.same hproxy.1).2
  rcases mem_steps_writeManifest.mp hstep with hstep | hstep
  · apply agrees_of_mem_steps_write hstep
    intro hpath
    rw [hpath, Layout.composeFile, Layout.proxyFile,
      layout.target_serverFile_eq_iff tree h.name h.otherName (by decide) (by decide)] at htarget
    exact absurd htarget.2 (by decide)
  · rcases mem_steps_writeProxy hstep with ⟨directory, rfl⟩ | ⟨rfl, hother⟩ | ⟨text', rfl, -, hother⟩
    · trivial
    · rw [← hsame htarget, hempty] at hother
      cases hother
    · rw [← hsame htarget, htext] at hother
      exact Except.ok.inj hother

/-- What is written for one server agrees with all that is done for another. -/
theorem Alongside.agrees (h : Alongside d other plan otherPlan) {own : FileStep}
    (hown : own ∈ (writeManifest layout d plan).steps) (hadds : own.Adds)
    (hstep : step ∈ (writeManifest layout other otherPlan).steps)
    (htarget : tree.target own.path = tree.target step.path) : own.Agrees step := by
  rcases mem_steps_writeManifest.mp hown with hown | hown
  · rcases mem_steps_write.mp hown with ⟨directory, -, rfl⟩ | rfl
    · exact FileStep.agrees_makeDirectory directory step
    · exact h.agrees_manifest hstep htarget
  · rcases mem_steps_writeProxy hown with ⟨directory, rfl⟩ | ⟨rfl, -⟩ | ⟨text, rfl, hempty, htext⟩
    · exact FileStep.agrees_makeDirectory directory step
    · exact absurd hadds id
    · exact h.agrees_config hempty htext hstep htarget

/-! ### Proxies that have nothing to do -/

/-- Changes at another file of a server leave nothing where nothing was. -/
theorem vacant_of_changesOnlyAt {server otherServer file : String}
    (hserver : Path.IsFileName server) (hother : Path.IsFileName otherServer)
    (hfile : Path.IsFileName file) (hne : ¬(server = otherServer ∧ "nginx.conf" = file))
    (hvacant : tree.Vacant (layout.proxyFile server))
    (hchanges : ChangesOnlyAt [Path.join (layout.serverDirectory otherServer) file] tree after)
    (hkeeps : KeepsDirectories tree after) : after.Vacant (layout.proxyFile server) := by
  have htarget : after.target (layout.proxyFile server) = tree.target (layout.proxyFile server) :=
    FileTree.target_congr hkeeps.workingDirectory _
  constructor
  · rw [htarget]
    exact FileTree.locate_of_keepsDirectories hkeeps hvacant.located
  · rw [htarget]
    apply FileTree.absent_of_changesOnlyAt hchanges (by decide) hvacant.located _ _ hvacant.absent
    · rw [List.forall_mem_singleton, ne_eq, Layout.proxyFile,
        layout.target_serverFile_eq_iff tree hserver hother (by decide) hfile]
      exact hne
    · rw [List.forall_mem_singleton]
      exact layout.mem_passes_serverDirectory_of_ne tree hserver hother (by decide) hfile hne

/-- Where a proxy has nothing to do, no step puts anything in the place of its configuration. -/
theorem Alongside.vacant (h : Alongside d other plan otherPlan) (hempty : plan.isEmpty = true)
    (hstep : step ∈ (writeManifest layout other otherPlan).steps) :
    step.Keeps fun tree after ↦ tree.Vacant (layout.proxyFile d.server) →
      after.Vacant (layout.proxyFile d.server) := by
  intro tree after hperform hvacant
  have hkeeps := FileStep.keepsDirectories_of_perform hperform
  rcases mem_steps_writeManifest.mp hstep with hstep | hstep
  · have hchanges := keeps_write _ _ step hstep tree after hperform
    apply vacant_of_changesOnlyAt h.name h.otherName (by decide) _ hvacant hchanges hkeeps
    exact fun heq ↦ absurd heq.2 (by decide)
  · have hchanges := keeps_writeProxy other.server otherPlan step hstep tree after hperform
    by_cases hserver : d.server = other.server
    · obtain ⟨rfl, rfl⟩ := h.same hserver
      obtain rfl := (mem_steps_writeProxy_of_isEmpty hempty).mp hstep
      rw [FileStep.perform_removeIfPresent_of_vacant hvacant] at hperform
      exact Except.ok.inj hperform ▸ hvacant
    · apply vacant_of_changesOnlyAt h.name h.otherName (by decide) _ hvacant hchanges hkeeps
      exact fun heq ↦ hserver heq.1

/-- A configuration is removed once the manifest beside it has been written. -/
theorem sublist_of_admits_writeManifest (hempty : plan.isEmpty = true) {order : List FileStep}
    (h : (writeManifest layout d plan).Admits order) :
    [.writeText (layout.composeFile d.server) (Compose.text d plan),
      .removeIfPresent (layout.proxyFile d.server)].Sublist order := by
  obtain ⟨before, after, hbefore, hafter, rfl⟩ := h
  have hcompose : .writeText (layout.composeFile d.server) (Compose.text d plan) ∈ before :=
    hbefore.perm.mem_iff.mpr (mem_steps_write.mpr (.inr rfl))
  have hproxy : .removeIfPresent (layout.proxyFile d.server) ∈ after :=
    hafter.perm.mem_iff.mpr ((mem_steps_writeProxy_of_isEmpty hempty).mpr rfl)
  exact (List.singleton_sublist.mpr hcompose).append (List.singleton_sublist.mpr hproxy)

/-- Where the manifest is, the way to the configuration can be followed. -/
theorem locate_proxyFile {text : String}
    (h : tree.readText (layout.composeFile d.server) = .ok text) :
    tree.locate (layout.proxyFile d.server) = .ok (tree.target (layout.proxyFile d.server)) := by
  obtain ⟨_, _, hlocate, -⟩ := FileTree.readText_eq_ok_iff.mp h
  exact FileTree.locate_join_of_locate_join (by decide) (by decide) (by decide) (by decide) hlocate

end Steps

/-! ### All servers -/

/-- Write the files of servers side by side. -/
def writePairs (layout : Layout) (pairs : List (Deployment × Proxy.Plan)) : Writing :=
  Change.join (pairs.map fun (d, plan) ↦ writeManifest layout d plan)

/-- The servers have names of files, each of its own. -/
structure ServersApart (pairs : List (Deployment × Proxy.Plan)) : Prop where
  names : ∀ pair ∈ pairs, Path.IsFileName pair.1.server
  nodup : (pairs.map (·.1.server)).Nodup

section Servers

variable {layout : Layout} {d : Deployment} {plan : Proxy.Plan} {step : FileStep}
  {pairs : List (Deployment × Proxy.Plan)} {tree after : FileTree}

theorem ServersApart.alongside (h : ServersApart pairs) {pair other : Deployment × Proxy.Plan}
    (hpair : pair ∈ pairs) (hother : other ∈ pairs) :
    Alongside pair.1 other.1 pair.2 other.2 := by
  refine ⟨h.names pair hpair, h.names other hother, fun hserver ↦ ?_⟩
  have heq := List.inj_on_of_nodup_map h.nodup hpair hother hserver
  exact ⟨congrArg Prod.fst heq, congrArg Prod.snd heq⟩

theorem mem_steps_writePairs : step ∈ (writePairs layout pairs).steps ↔
    ∃ pair ∈ pairs, step ∈ (writeManifest layout pair.1 pair.2).steps := by
  simp [writePairs, Change.mem_steps_join]

theorem sound_writePairs_iff : (writePairs layout pairs).Sound ↔
    ∀ pair ∈ pairs, (writeManifest layout pair.1 pair.2).Sound := by
  rw [writePairs, Change.sound_join_iff, List.forall_mem_map]

theorem readText_composeFile_of_makes (hapart : ServersApart pairs)
    (h : (writePairs layout pairs).Makes tree after) (hpair : (d, plan) ∈ pairs) :
    after.readText (layout.composeFile d.server) = .ok (Compose.text d plan) := by
  have hstep : .writeText (layout.composeFile d.server) (Compose.text d plan) ∈
      (writePairs layout pairs).steps :=
    mem_steps_writePairs.mpr
      ⟨_, hpair, mem_steps_writeManifest.mpr (.inl (mem_steps_write.mpr (.inr rfl)))⟩
  have hsettled := h.settled hstep trivial fun step hstep htarget ↦ by
    obtain ⟨other, hother, hstep⟩ := mem_steps_writePairs.mp hstep
    exact (hapart.alongside hpair hother).agrees_manifest hstep htarget
  exact FileStep.settled_writeText_iff.mp hsettled

theorem readText_proxyFile_of_makes (hapart : ServersApart pairs)
    (h : (writePairs layout pairs).Makes tree after) (hpair : (d, plan) ∈ pairs)
    (hempty : plan.isEmpty = false) :
    ∃ text, Proxy.Nginx.config plan = .ok text ∧
      after.readText (layout.proxyFile d.server) = .ok text := by
  have hsound := sound_writePairs_iff.mp h.sound (d, plan) hpair
  obtain ⟨text, htext⟩ := exists_config_of_sound hempty hsound.2
  have hwrite : .writeText (layout.proxyFile d.server) text ∈
      (writeManifest layout d plan).steps := by
    rw [mem_steps_writeManifest, writeProxy_of_config hempty htext]
    exact .inr (mem_steps_write.mpr (.inr rfl))
  have hstep : .writeText (layout.proxyFile d.server) text ∈ (writePairs layout pairs).steps :=
    mem_steps_writePairs.mpr ⟨_, hpair, hwrite⟩
  have hsettled := h.settled hstep trivial fun step hstep htarget ↦ by
    obtain ⟨other, hother, hstep⟩ := mem_steps_writePairs.mp hstep
    exact (hapart.alongside hpair hother).agrees_config hempty htext hstep htarget
  exact ⟨text, htext, FileStep.settled_writeText_iff.mp hsettled⟩

theorem vacant_proxyFile_of_makes (hapart : ServersApart pairs)
    (h : (writePairs layout pairs).Makes tree after) (hpair : (d, plan) ∈ pairs)
    (hempty : plan.isEmpty = true) : after.Vacant (layout.proxyFile d.server) := by
  obtain ⟨order, hadmits, hperforms⟩ := h.exists_order
  obtain ⟨own, hown, hsublist⟩ :=
    Change.exists_sublist_of_admits_join (List.mem_map_of_mem hpair) hadmits
  have hsteps := (sublist_of_admits_writeManifest hempty hown).trans hsublist
  apply FileStep.holds_of_performs_pair hperforms hsteps
    (Q := fun tree ↦ tree.locate (layout.proxyFile d.server) =
      .ok (tree.target (layout.proxyFile d.server)))
  · intro before middle hwrite
    exact locate_proxyFile (FileTree.readText_of_writeText hwrite)
  · intro step _ before middle hstep hlocate
    have hkeeps := FileStep.keepsDirectories_of_perform hstep
    rw [FileTree.target_congr hkeeps.workingDirectory]
    exact FileTree.locate_of_keepsDirectories hkeeps hlocate
  · exact fun before middle hlocate ↦ FileStep.vacant_of_perform hlocate
  · intro step hstep
    obtain ⟨other, hother, hstep⟩ :=
      mem_steps_writePairs.mp (hadmits.perm.mem_iff.mp hstep)
    exact (hapart.alongside hpair hother).vacant hempty hstep

/-- Under every schedule the files of all servers stand once all of them are written. -/
theorem stands_of_makes (hapart : ServersApart pairs)
    (h : (writePairs layout pairs).Makes tree after) :
    ∀ pair ∈ pairs, Stands layout after pair.1 pair.2 := by
  rintro ⟨d, plan⟩ hpair
  have hmanifest := readText_composeFile_of_makes hapart h hpair
  exact ⟨hmanifest, locate_proxyFile hmanifest, readText_proxyFile_of_makes hapart h hpair,
    fun hempty ↦ (vacant_proxyFile_of_makes hapart h hpair hempty).absent⟩

theorem Stands.hasManifests (h : Stands layout tree d plan) :
    HasManifests layout tree d plan := by
  have hpools : plan.isEmpty = false ↔ plan.pools ≠ [] := by
    rw [Proxy.Plan.isEmpty, List.isEmpty_eq_false_iff]
  have hcontains : tree.contains (layout.proxyFile d.server) =
      (tree.node? (tree.target (layout.proxyFile d.server))).isSome := by
    unfold FileTree.contains
    rw [h.located]
  refine ⟨h.manifest, ?_, fun hplan ↦ h.config (hpools.mpr hplan)⟩
  rw [hcontains, ← hpools]
  cases hplan : plan.isEmpty with
  | true => simp [h.absent hplan]
  | false =>
    obtain ⟨text, -, hread⟩ := h.config hplan
    obtain ⟨location, mode, hlocate, hnode⟩ := FileTree.readText_eq_ok_iff.mp hread
    obtain rfl := Except.ok.inj (h.located.symm.trans hlocate)
    simp [hnode]

end Servers

section Run

variable {layout : Layout} {options : Proxy.PlanOptions} {deployments : List Deployment}
  {tree after : FileTree}

theorem writeManifests_of_sound (h : (writeManifests layout options deployments).Sound) :
    ∃ plans, planProxies options deployments = .ok plans ∧
      writeManifests layout options deployments = writePairs layout (deployments.zip plans) := by
  unfold writeManifests at h ⊢
  cases hplans : planProxies options deployments with
  | error e =>
    rw [hplans] at h
    exact absurd h (Change.not_sound_fail e)
  | ok plans => exact ⟨plans, rfl, rfl⟩

theorem serversApart_zip {plans : List Proxy.Plan} (hlength : plans.length = deployments.length)
    (hservers : (deployments.map (·.server)).Nodup)
    (hnames : ∀ d ∈ deployments, Naming.isHostname d.server = true) :
    ServersApart (deployments.zip plans) := by
  constructor
  · intro pair hpair
    exact Naming.isFileName_of_isHostname (hnames _ (List.of_mem_zip hpair).1)
  · have hmap : (deployments.zip plans).map (·.1.server) = deployments.map (·.server) :=
      calc
        (deployments.zip plans).map (·.1.server) =
            ((deployments.zip plans).map Prod.fst).map (·.server) := by
          rw [List.map_map]
          rfl
        _ = deployments.map (·.server) := by rw [List.map_fst_zip hlength.ge]
    rwa [hmap]

/-- At the end the files of all servers stand. -/
theorem stands_of_writeManifests (hservers : (deployments.map (·.server)).Nodup)
    (hnames : ∀ d ∈ deployments, Naming.isHostname d.server = true)
    (h : (writeManifests layout options deployments).Makes tree after) :
    ∃ plans, planProxies options deployments = .ok plans ∧
      ∀ pair ∈ deployments.zip plans, Stands layout after pair.1 pair.2 := by
  obtain ⟨plans, hplans, hpairs⟩ := writeManifests_of_sound h.sound
  rw [hpairs] at h
  exact ⟨plans, hplans,
    stands_of_makes (serversApart_zip (length_plans hplans) hservers hnames) h⟩

theorem hasManifests_of_makes (hservers : (deployments.map (·.server)).Nodup)
    (hnames : ∀ d ∈ deployments, Naming.isHostname d.server = true)
    (h : (writeManifests layout options deployments).Makes tree after) :
    ∃ plans, planProxies options deployments = .ok plans ∧
      List.Forall₂ (HasManifests layout after) deployments plans := by
  obtain ⟨plans, hplans, hstands⟩ := stands_of_writeManifests hservers hnames h
  exact ⟨plans, hplans, List.forall₂_iff_zip.mpr
    ⟨(length_plans hplans).symm, fun hpair ↦ (hstands _ hpair).hasManifests⟩⟩

/-- What a manifest run that succeeds leaves behind, whatever files there were before. -/
theorem leavesManifests_of_makes (hservers : (deployments.map (·.server)).Nodup)
    (hnames : ∀ d ∈ deployments, Naming.isHostname d.server = true)
    (h : (writeManifests layout options deployments).Makes tree after) :
    ∃ plans, planProxies options deployments = .ok plans ∧
      LeavesManifests layout deployments plans tree after := by
  obtain ⟨plans, hplans, hmanifests⟩ := hasManifests_of_makes hservers hnames h
  refine ⟨plans, hplans, hmanifests, ?_⟩
  intro location hlocation content mode
  have hchanges := (keeps_writeManifests options deployments).of_makes h
  rcases hchanges.nodes location hlocation with hsame | ⟨hmade, -⟩
  · rw [hsame]
  · rw [hmade.before, hmade.now]
    simp

end Run

/-! ### A leftover configuration -/

/-- Only a direct port, which the proxy has nothing to do with. -/
def privateImage : DeployedImage :=
  ⟨⟨"db", ⟨"ghcr.io", "org", "db", "v1"⟩⟩, [⟨some "5432", none, "5432", true, []⟩], [], []⟩

/-- A port that the proxy forwards for a domain. -/
def proxiedImage : DeployedImage :=
  ⟨⟨"app", ⟨"ghcr.io", "org", "app", "v1"⟩⟩,
    [⟨some "80", some "8080", "8080", false, [⟨"example.com", "/", none⟩]⟩], [], []⟩

/-- Only the first server has a proxy with anything to do. -/
def mixedServers : List Deployment :=
  [⟨"web-1", some "10.0.0.1", [proxiedImage]⟩, ⟨"web-2", none, [privateImage]⟩]

/-- A run before has left a configuration for the second server. -/
def leftoverTree : FileTree where
  nodes :=
    [(["out"], .directory none), (["out", "servers"], .directory none),
      (["out", "servers", "web-2"], .directory none),
      (["out", "servers", "web-2", "nginx.conf"], .file (.text "old") none),
      (["out", "notes"], .file (.text "mine") none)]
  workingDirectory := []

/-- The plan of a proxy with one port of one image. -/
def onePortPlan (server : String) : Proxy.Plan :=
  ⟨server, [⟨"app-org-app-v1-8080", .leastConn, [⟨"10.0.0.1", "8080"⟩]⟩],
    [⟨"example.com", "80", [⟨"/", "app-org-app-v1-8080"⟩]⟩]⟩

def mixedServerPlans : List Proxy.Plan := [onePortPlan "web-1", ⟨"web-2", [], []⟩]

theorem planProxies_mixedServers :
    planProxies ⟨.leastConn, false⟩ mixedServers = .ok mixedServerPlans :=
  planProxies_eq_ok_iff.mpr <|
    .cons ⟨rfl, Deployment.checkProxyPorts_eq_ok_iff.mpr (by decide)⟩ <|
      .cons ⟨rfl, Deployment.checkProxyPorts_eq_ok_iff.mpr (by decide)⟩ .nil

theorem config_onePortPlan :
    Proxy.Nginx.config (onePortPlan "web-1") = .ok (onePortPlan "web-1").written := by
  refine Proxy.Nginx.config_of_blocks (by decide) ?_ ?_
  · exact List.forall_mem_singleton.mpr (Proxy.Nginx.poolText_eq_ok (by decide))
  · refine List.forall_mem_singleton.mpr (Proxy.Nginx.listenerText_eq_ok (by decide) (by decide) ?_)
    exact List.forall_mem_singleton.mpr
      (Proxy.Nginx.locationText_eq_ok (by decide) (by decide))

/-- The steps of a run of both servers, with the texts as they are. -/
def mixedWriting : Writing :=
  Change.join
    [(write "out/servers/web-1/docker-compose.yml"
        (Compose.text ⟨"web-1", some "10.0.0.1", [proxiedImage]⟩ (onePortPlan "web-1"))).andThen
      (write "out/servers/web-1/nginx.conf" (onePortPlan "web-1").written),
    (write "out/servers/web-2/docker-compose.yml"
        (Compose.text ⟨"web-2", none, [privateImage]⟩ ⟨"web-2", [], []⟩)).andThen
      (removeStale "out/servers/web-2/nginx.conf")]

theorem writeManifests_mixedServers :
    writeManifests ⟨"out"⟩ ⟨.leastConn, false⟩ mixedServers = mixedWriting := by
  have hfirst : writeProxy ⟨"out"⟩ "web-1" (onePortPlan "web-1") =
      write "out/servers/web-1/nginx.conf" (onePortPlan "web-1").written := by
    rw [writeProxy, config_onePortPlan]
    rfl
  rw [writeManifests, planProxies_mixedServers]
  change Change.join [(write _ _).andThen (writeProxy _ "web-1" (onePortPlan "web-1")), _] = _
  rw [hfirst]
  rfl

theorem leavesManifests_mixedServers :
    leftoverTree.contains "out/servers/web-2/nginx.conf" = true ∧
      planProxies ⟨.leastConn, false⟩ mixedServers = .ok mixedServerPlans ∧
      ∃ after, (writeManifests ⟨"out"⟩ ⟨.leastConn, false⟩ mixedServers).Makes leftoverTree
          after ∧
        ∃ plans, planProxies ⟨.leastConn, false⟩ mixedServers = .ok plans ∧
          LeavesManifests ⟨"out"⟩ mixedServers plans leftoverTree after := by
  have hresult : (mixedWriting.run Change.inTurn leftoverTree).2.toOption = some () := by
    decide +kernel
  have hmakes : (writeManifests ⟨"out"⟩ ⟨.leastConn, false⟩ mixedServers).Makes leftoverTree _ :=
    ⟨Change.inTurn, Prod.ext rfl <| by
      rw [writeManifests_mixedServers]
      exact Except.eq_ok_of_toOption hresult⟩
  exact ⟨by decide +kernel, planProxies_mixedServers, _, hmakes,
    leavesManifests_of_makes (by decide) (by decide) hmakes⟩

end ClusterPlan.Artifact
