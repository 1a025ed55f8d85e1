import ClusterPlan.Proofs.Artifacts.Checks
import ClusterPlan.Proofs.Artifacts.KeyFiles
import ClusterPlan.Proofs.Artifacts.ManifestRun
import ClusterPlan.Proofs.Deployment.Seeing
import ClusterPlan.Proofs.Files.LastWords
import ClusterPlan.Proofs.Template.Rendering

/-!
# Generating a second time

A generation that has succeeded succeeds again on the tree that it has left, with the same
deployments, and leaves the tree as it was. The manifests are idle then: each of their steps stays
settled under all the others. What is provisioned rests: a step may be overwritten by a later one,
but what has the last word at a place leaves the same there in both runs.

That takes the last words of provisioning to be definite, and it takes no more than that: where two
schedules leave different texts in a file, one run after the other changes it. Where key names are
names of files and neither keys nor items share a file, the last words are definite. Two keys with
halves in one file are enough for them not to be.

The strings of the services are rendered on another tree in the second run. They come to the same if
they do not read any file, which could be one that the first run has written.
-/

namespace ClusterPlan.Artifact

open Entity
open FileTree (KeepsDirectories)

/-- What is provisioned agrees with what is done for the servers in its place. -/
def Detached (layout : Layout) (options : Proxy.PlanOptions) (registry : Registry)
    (deployments : List Deployment) (tree : FileTree) : Prop :=
  ∀ a ∈ (generateProvisioning layout registry).steps,
    ∀ b ∈ (writeManifests layout options deployments).steps,
      tree.target a.path = tree.target b.path → a.Agrees b

/-- Whatever is there before a generation that succeeds, and whatever the schedules are, a second
one succeeds with the same deployments and leaves the tree as it was. -/
def Idempotent {κ : Type} (layout : Layout) (options : Proxy.PlanOptions) (planner : Planner κ)
    (workingDirectory : Location) : Prop :=
  ∀ (tree : FileTree) (first again : Schedules) (deployments : List Deployment),
    tree.workingDirectory = workingDirectory →
    (generateAll layout options planner first tree).result = .ok deployments →
    generateAll layout options planner again
        (generateAll layout options planner first tree).tree =
      generateAll layout options planner first tree

/-! ### Steps of provisioning -/

section Steps

variable {layout : Layout} {registry : Registry} {step : FileStep}

theorem mem_steps_generateProvisioning (h : step ∈ (generateProvisioning layout registry).steps) :
    step ∈ (writeResources layout registry).steps ∨ step ∈ (writeKeys layout registry).steps := by
  obtain ⟨change, hchange, hstep⟩ := Change.mem_steps_join.mp h
  simp only [List.mem_cons, List.not_mem_nil, or_false] at hchange
  rcases hchange with rfl | rfl
  · rcases writeProvisioning_cases layout registry with ⟨e, -, hfail⟩ | hwrite
    · rw [hfail] at hstep
      cases hstep
    · exact .inl (hwrite ▸ hstep)
  · exact .inr hstep

theorem adds_of_mem_steps_write {path text : String} (h : step ∈ (write path text).steps) :
    step.Adds := by
  rcases mem_steps_write.mp h with ⟨directory, -, rfl⟩ | rfl
  · trivial
  · trivial

theorem adds_of_mem_steps_writeHalf {path : String} {mode : Nat} {half : Option String}
    (h : step ∈ (writeHalf path mode half).steps) : step.Adds := by
  cases half with
  | none => cases h
  | some material =>
    rcases List.mem_append.mp h with h | h
    · exact adds_of_mem_steps_write h
    · obtain rfl := List.mem_singleton.mp h
      trivial

theorem adds_of_mem_steps_writeItem {item : Item} (h : step ∈ (item.write layout registry).steps) :
    step.Adds := by
  unfold Item.write at h
  split at h
  · exact adds_of_mem_steps_write h
  · cases h

/-- Provisioning takes nothing away. -/
theorem adds_of_mem_steps (h : step ∈ (generateProvisioning layout registry).steps) :
    step.Adds := by
  rcases mem_steps_generateProvisioning h with h | h
  · obtain ⟨item, -, h⟩ := mem_steps_writeResources.mp h
    exact adds_of_mem_steps_writeItem h
  · rcases List.mem_append.mp h with h | h
    · obtain rfl := List.mem_singleton.mp h
      trivial
    rcases List.mem_append.mp h with h | h
    · obtain rfl := List.mem_singleton.mp h
      trivial
    obtain ⟨change, hchange, h⟩ := Change.mem_steps_join.mp h
    obtain ⟨key, -, rfl⟩ := List.mem_map.mp hchange
    rcases List.mem_append.mp h with h | h
    · exact adds_of_mem_steps_writeHalf h
    · exact adds_of_mem_steps_writeHalf h

end Steps

/-! ### Generations -/

section Generations

variable {κ : Type} {layout : Layout} {options : Proxy.PlanOptions} {planner : Planner κ}
  {schedules : Schedules} {tree middle after : FileTree} {calls : List κ}
  {deployments : List Deployment}

/-- A generation succeeds by provisioning, by resolving what is there then, and by writing it. -/
theorem generateAll_eq_iff :
    generateAll layout options planner schedules tree = ⟨after, calls, .ok deployments⟩ ↔
      ∃ middle,
        (generateProvisioning layout planner.registry).run schedules.provisioning tree =
          (middle, .ok ()) ∧
        (planner.seeing middle).deployAll.result = .ok deployments ∧
        (planner.seeing middle).deployAll.log = calls ∧
        (writeManifests layout options deployments).run schedules.manifests middle =
          (after, .ok ()) := by
  unfold generateAll
  cases (generateProvisioning layout planner.registry).run schedules.provisioning tree with
  | mk middle provisioned =>
    dsimp only
    cases provisioned with
    | error e => simp
    | ok u =>
      simp only [Prod.mk.injEq, and_true, exists_eq_left']
      cases hresolved : (planner.seeing middle).deployAll.result with
      | error e => simp [generateManifests_of_deployAll_eq_error hresolved]
      | ok found =>
        rw [generateManifests_of_deployAll_eq_ok hresolved]
        simp only [Generated.mk.injEq, Except.map_eq_ok_iff, Except.ok.injEq]
        constructor
        · rintro ⟨rfl, rfl, ⟨⟩, hwritten, rfl⟩
          exact ⟨rfl, rfl, Prod.ext rfl hwritten⟩
        · rintro ⟨rfl, rfl, hwritten⟩
          exact ⟨congrArg Prod.fst hwritten, rfl, (), congrArg Prod.snd hwritten, rfl⟩

theorem detached_congr {registry : Registry}
    (h : after.workingDirectory = tree.workingDirectory) :
    Detached layout options registry deployments after ↔
      Detached layout options registry deployments tree := by
  simp only [Detached, FileTree.target_congr h]

/-- Once the files of all servers are written, there is nothing left to write. -/
theorem idle_writePairs {pairs : List (Deployment × Proxy.Plan)} (hapart : ServersApart pairs)
    (h : (writePairs layout pairs).Makes tree after) : (writePairs layout pairs).Idle after := by
  have hsettled {step : FileStep} (hstep : step ∈ (writePairs layout pairs).steps)
      (hadds : step.Adds) : step.Settled after := by
    obtain ⟨pair, hpair, hown⟩ := mem_steps_writePairs.mp hstep
    apply h.settled hstep hadds
    intro other hother htarget
    obtain ⟨otherPair, hotherPair, hother⟩ := mem_steps_writePairs.mp hother
    exact (hapart.alongside hpair hotherPair).agrees hown hadds hother htarget
  have hfits : ∀ step ∈ (writePairs layout pairs).steps, step.Fits after := by
    intro step hstep
    by_cases hadds : step.Adds
    · exact FileStep.fits_of_settled (hsettled hstep hadds) hadds
    · obtain ⟨pair, hpair, hown⟩ := mem_steps_writePairs.mp hstep
      rcases mem_steps_writeManifest.mp hown with hown | hown
      · exact absurd (adds_of_mem_steps_write hown) hadds
      rcases mem_steps_writeProxy hown with ⟨directory, rfl⟩ | ⟨rfl, hempty⟩ | ⟨text, rfl, -⟩
      · exact absurd trivial hadds
      · exact vacant_proxyFile_of_makes hapart h hpair hempty
      · exact absurd trivial hadds
  refine ⟨h.sound, hfits, fun step hstep ↦ ?_⟩
  by_cases hadds : step.Adds
  · exact hsettled hstep hadds
  · exact FileStep.settled_of_not_adds (hfits step hstep) hadds

theorem idle_writeManifests (hdistinct : (deployments.map (·.server)).Nodup)
    (hhostnames : ∀ d ∈ deployments, Naming.isHostname d.server = true)
    (h : (writeManifests layout options deployments).Makes tree after) :
    (writeManifests layout options deployments).Idle after := by
  obtain ⟨plans, hplans, hpairs⟩ := writeManifests_of_sound h.sound
  rw [hpairs] at h ⊢
  exact idle_writePairs (serversApart_zip (length_plans hplans) hdistinct hhostnames) h

/-- Provisioning has been made, and then the manifests have been written. -/
structure Generates (layout : Layout) (options : Proxy.PlanOptions) (registry : Registry)
    (deployments : List Deployment) (tree middle after : FileTree) : Prop where
  provisioned : (generateProvisioning layout registry).Makes tree middle
  written : (writeManifests layout options deployments).Makes middle after

section Generates

variable {registry : Registry}

theorem Generates.workingDirectory
    (h : Generates layout options registry deployments tree middle after) :
    after.workingDirectory = tree.workingDirectory :=
  (((Change.keeps_keepsDirectories _).of_makes h.written).workingDirectory).trans
    ((Change.keeps_keepsDirectories _).of_makes h.provisioned).workingDirectory

/-- What has been provisioned rests while the manifests are written. -/
theorem Generates.rests (h : Generates layout options registry deployments tree middle after)
    (hdetached : Detached layout options registry deployments tree)
    (hdefinite : (generateProvisioning layout registry).Definite tree) :
    (generateProvisioning layout registry).Rests after := by
  have hdirectory := ((Change.keeps_keepsDirectories _).of_makes h.provisioned).workingDirectory
  have hrests := h.provisioned.rests (fun _ hs ↦ adds_of_mem_steps hs) hdefinite
  exact hrests.of_makes h.written ((detached_congr hdirectory).mpr hdetached)

theorem Generates.fits (h : Generates layout options registry deployments tree middle after)
    (hdetached : Detached layout options registry deployments tree) :
    ∀ step ∈ (generateProvisioning layout registry).steps, step.Fits after := by
  intro step hstep
  have hdirectory := ((Change.keeps_keepsDirectories _).of_makes h.provisioned).workingDirectory
  have hfits := h.provisioned.fits (fun _ hs ↦ adds_of_mem_steps hs) step hstep
  exact h.written.stays_fits hfits (adds_of_mem_steps hstep)
    ((detached_congr hdirectory).mpr hdetached step hstep)

/-- Manifests that are idle stay so while it is provisioned once more. -/
theorem idle_of_provisioned (hidle : (writeManifests layout options deployments).Idle tree)
    (hfits : ∀ step ∈ (generateProvisioning layout registry).steps, step.Fits tree)
    (hdetached : Detached layout options registry deployments tree)
    (h : (generateProvisioning layout registry).Makes tree after) :
    (writeManifests layout options deployments).Idle after := by
  apply hidle.of_makes h hfits
  exact fun a ha b hb htarget ↦ (hdetached b hb a ha htarget.symm).symm

end Generates

/-! ### Both runs -/

section Runs

variable (hnames : planner.registry.NamesDistinct) (hhosts : planner.registry.HasHostnames)
  (hreads : planner.ReadsBy Bindings.fileName)
  (hnever : ∀ files, (planner.seeing files).NeverCalls Bindings.fileName)

include hreads hnever in
/-- What is read does not depend on the tree. -/
theorem deployAll_seeing_eq (h : (planner.seeing tree).deployAll.result = .ok deployments)
    (after : FileTree) : (planner.seeing after).deployAll = (planner.seeing tree).deployAll :=
  have hreads' : (planner.seeing tree).ReadsBy Bindings.fileName := hreads
  hreads'.deployAll_eq after (hnever tree) h

include hhosts in
theorem isHostname_of_deployAll
    (hresolved : (planner.seeing tree).deployAll.result = .ok deployments) :
    ∀ d ∈ deployments, Naming.isHostname d.server = true := by
  intro d hd
  have hserver : d.server ∈ deployments.map (·.server) := List.mem_map_of_mem hd
  rw [(planner.seeing tree).map_server_of_deployAll hresolved] at hserver
  exact hhosts d.server hserver

include hnames hhosts in
theorem idle_of_deployAll (hresolved : (planner.seeing tree).deployAll.result = .ok deployments)
    (h : (writeManifests layout options deployments).Makes middle after) :
    (writeManifests layout options deployments).Idle after := by
  have hservers : deployments.map (·.server) = planner.registry.servers.map (·.name) :=
    (planner.seeing tree).map_server_of_deployAll hresolved
  exact idle_writeManifests (hservers ▸ hnames .server) (isHostname_of_deployAll hhosts hresolved) h

include hnames hhosts hreads hnever in
theorem generateAll_again_of_definite
    (h : generateAll layout options planner schedules tree = ⟨after, calls, .ok deployments⟩)
    (hdetached : Detached layout options planner.registry deployments tree)
    (hdefinite : (generateProvisioning layout planner.registry).Definite tree)
    (again : Schedules) :
    generateAll layout options planner again after = ⟨after, calls, .ok deployments⟩ := by
  obtain ⟨middle, hprovisioned, hresolved, hcalls, hwritten⟩ := generateAll_eq_iff.mp h
  have hmakes : Generates layout options planner.registry deployments tree middle after :=
    ⟨⟨_, hprovisioned⟩, ⟨_, hwritten⟩⟩
  have hsame := deployAll_seeing_eq hreads hnever hresolved after
  have hidle := idle_of_deployAll hnames hhosts hresolved hmakes.written
  exact generateAll_eq_iff.mpr ⟨after, (hmakes.rests hdetached hdefinite).run _,
    hsame ▸ hresolved, hsame ▸ hcalls, hidle.run _⟩

include hnames hhosts hreads hnever in
/-- After a generation the manifests stay idle, so a second one compares runs of provisioning. -/
theorem definite_of_idempotent
    (h : generateAll layout options planner schedules tree = ⟨after, calls, .ok deployments⟩)
    (hdetached : Detached layout options planner.registry deployments tree)
    (hidempotent : Idempotent layout options planner tree.workingDirectory) :
    (generateProvisioning layout planner.registry).Definite tree := by
  obtain ⟨middle, hprovisioned, hresolved, hcalls, hwritten⟩ := generateAll_eq_iff.mp h
  have hmakes : Generates layout options planner.registry deployments tree middle after :=
    ⟨⟨_, hprovisioned⟩, ⟨_, hwritten⟩⟩
  have hfits := hmakes.fits hdetached
  have hidle := idle_of_deployAll hnames hhosts hresolved hmakes.written
  rw [← detached_congr hmakes.workingDirectory] at hdetached
  rw [← Change.definite_congr hmakes.workingDirectory]
  apply Change.definite_of_run_run (fun _ hs ↦ adds_of_mem_steps hs) hfits
  intro first again last hfirst
  have hfirstMakes : (generateProvisioning layout planner.registry).Makes after last := ⟨_, hfirst⟩
  have hidleLast := idle_of_provisioned hidle hfits hdetached hfirstMakes
  have hsame := deployAll_seeing_eq hreads hnever hresolved last
  have hgenerated : generateAll layout options planner ⟨first, Change.inTurn⟩ after =
      ⟨last, calls, .ok deployments⟩ :=
    generateAll_eq_iff.mpr
      ⟨last, hfirst, hsame ▸ hresolved, hsame ▸ hcalls, hidleLast.run _⟩
  have hagain := hidempotent after ⟨first, Change.inTurn⟩ ⟨again, Change.inTurn⟩ deployments
    hmakes.workingDirectory (by rw [hgenerated])
  rw [hgenerated] at hagain
  obtain ⟨between, hbetween, -, -, hlast⟩ := generateAll_eq_iff.mp hagain
  have hdirectory := ((Change.keeps_keepsDirectories _).of_makes hfirstMakes).workingDirectory
  have hidleBetween := idle_of_provisioned hidleLast
    (hfirstMakes.fits fun _ hs ↦ adds_of_mem_steps hs)
    ((detached_congr hdirectory).mpr hdetached) ⟨_, hbetween⟩
  rw [hidleBetween.run] at hlast
  exact hbetween.trans hlast

end Runs

/-- Where a generation can succeed at all, and what is provisioned is apart from the files of
servers, generating is idempotent exactly if the last words of provisioning are definite. -/
theorem generateAll_idempotent_iff (hnames : planner.registry.NamesDistinct)
    (hhosts : planner.registry.HasHostnames) (hreads : planner.ReadsBy Bindings.fileName)
    (hnever : ∀ files, (planner.seeing files).NeverCalls Bindings.fileName)
    (h : (generateAll layout options planner schedules tree).result = .ok deployments)
    (hdetached : Detached layout options planner.registry deployments tree) :
    Idempotent layout options planner tree.workingDirectory ↔
      (generateProvisioning layout planner.registry).Definite tree := by
  generalize hmade : generateAll layout options planner schedules tree = made at h
  obtain ⟨after, calls, result⟩ := made
  obtain rfl : result = .ok deployments := h
  constructor
  · exact definite_of_idempotent hnames hhosts hreads hnever hmade hdetached
  · intro hdefinite prior first again found hdirectory hfound
    generalize hgenerated : generateAll layout options planner first prior = generated at hfound ⊢
    obtain ⟨left, asked, result⟩ := generated
    obtain rfl : result = .ok found := hfound
    have hsame : deployments = found := by
      obtain ⟨middle, -, hresolved, -⟩ := generateAll_eq_iff.mp hmade
      obtain ⟨there, -, hfound, -⟩ := generateAll_eq_iff.mp hgenerated
      rw [deployAll_seeing_eq hreads hnever hresolved, hresolved] at hfound
      exact Except.ok.inj hfound
    subst hsame
    rw [← detached_congr hdirectory] at hdetached
    rw [← Change.definite_congr hdirectory] at hdefinite
    exact generateAll_again_of_definite hnames hhosts hreads hnever hgenerated hdetached hdefinite
      again

end Generations

/-! ### Places that are apart -/

/-- What provisioning does. -/
inductive Provisions (layout : Layout) (registry : Registry) : FileStep → Prop where
  | directory (path : String) : Provisions layout registry (.makeDirectory path)
  | resource {item : Item} {json : Json} (hitem : item ∈ items registry)
    (hjson : item.resource registry = .ok json) :
    Provisions layout registry (.writeText (item.file layout) (resourceText json))
  | keyDirectory : Provisions layout registry (.setMode layout.sshDirectory directoryMode)
  | keyText {half : KeyHalf} (hhalf : half ∈ registry.sshKeys.flatMap keyHalves) :
    Provisions layout registry (.writeText (half.file layout) (keyText half.material))
  | keyMode {half : KeyHalf} (hhalf : half ∈ registry.sshKeys.flatMap keyHalves) :
    Provisions layout registry (.setMode (half.file layout) half.mode)

/-- What is done at a file of a server. -/
inductive Serves (layout : Layout) : FileStep → Prop where
  | directory (path : String) : Serves layout (.makeDirectory path)
  | file {step : FileStep} {server file : String} (hserver : Path.IsFileName server)
    (hfile : Path.IsFileName file)
    (hpath : step.path = Path.join (layout.serverDirectory server) file) : Serves layout step

section Apart

variable {layout : Layout} {registry : Registry} {options : Proxy.PlanOptions}
  {deployments : List Deployment} {step other : FileStep} {tree : FileTree}

theorem provisions_of_mem_steps (hkeys : ∀ key ∈ registry.sshKeys, Path.IsFileName key.name)
    (h : step ∈ (generateProvisioning layout registry).steps) :
    Provisions layout registry step := by
  rcases mem_steps_generateProvisioning h with h | h
  · obtain ⟨item, hitem, h⟩ := mem_steps_writeResources.mp h
    unfold Item.write at h
    split at h
    next json hjson =>
      rcases mem_steps_write.mp h with ⟨directory, -, rfl⟩ | rfl
      · exact .directory directory
      · exact .resource hitem hjson
    next => cases h
  · rcases (mem_steps_writeKeys hkeys).mp h with rfl | rfl | ⟨half, hhalf, h⟩
    · exact .directory _
    · exact .keyDirectory
    · rcases List.mem_append.mp h with h | h
      · rcases mem_steps_write.mp h with ⟨directory, -, rfl⟩ | rfl
        · exact .directory directory
        · exact .keyText hhalf
      · obtain rfl := List.mem_singleton.mp h
        exact .keyMode hhalf

theorem serves_of_mem_steps (hnames : ∀ d ∈ deployments, Naming.isHostname d.server = true)
    (h : step ∈ (writeManifests layout options deployments).steps) : Serves layout step := by
  unfold writeManifests at h
  split at h
  next => cases h
  next plans _ =>
    obtain ⟨change, hchange, h⟩ := Change.mem_steps_join.mp h
    obtain ⟨⟨d, plan⟩, hpair, rfl⟩ := List.mem_map.mp hchange
    have hserver := Naming.isFileName_of_isHostname (hnames d (List.of_mem_zip hpair).1)
    rcases mem_steps_writeManifest.mp h with h | h
    · rcases mem_steps_write.mp h with ⟨directory, -, rfl⟩ | rfl
      · exact .directory directory
      · exact .file hserver (by decide) rfl
    · rcases mem_steps_writeProxy h with ⟨directory, rfl⟩ | ⟨rfl, -⟩ | ⟨text, rfl, -⟩
      · exact .directory directory
      · exact .file hserver (by decide) rfl
      · exact .file hserver (by decide) rfl

theorem target_itemFile (item : Item) (tree : FileTree) :
    tree.target (item.file layout) =
      tree.target layout.root ++ ["terraform", item.fileName ++ ".tf.json"] := by
  rw [Item.file, resourceFile, FileTree.target_join (isFileName_resourceFile item),
    Layout.terraformDirectory, FileTree.target_join (by decide), List.append_assoc,
    List.singleton_append]

theorem target_sshDirectory (tree : FileTree) :
    tree.target layout.sshDirectory = tree.target layout.root ++ ["ssh"] :=
  FileTree.target_join (by decide)

theorem KeyHalf.target_file {half : KeyHalf} (h : Path.IsFileName half.name) (tree : FileTree) :
    tree.target (half.file layout) = tree.target layout.root ++ ["ssh", half.name] := by
  rw [file, FileTree.target_join h, target_sshDirectory, List.append_assoc,
    List.singleton_append]

theorem target_itemFile_ne (item : Item) {half : KeyHalf} (h : Path.IsFileName half.name)
    (tree : FileTree) : tree.target (item.file layout) ≠ tree.target (half.file layout) := by
  rw [target_itemFile, KeyHalf.target_file h]
  simp

theorem target_sshDirectory_ne {half : KeyHalf} (h : Path.IsFileName half.name)
    (tree : FileTree) : tree.target layout.sshDirectory ≠ tree.target (half.file layout) := by
  rw [target_sshDirectory, KeyHalf.target_file h]
  simp

/-- What is provisioned does not lie among the files of servers. -/
theorem Provisions.agrees_of_serves (h : Provisions layout registry step)
    (hkeys : ∀ key ∈ registry.sshKeys, Path.IsFileName key.name) (hother : Serves layout other)
    (htarget : tree.target step.path = tree.target other.path) : step.Agrees other := by
  cases hother with
  | directory path => cases step <;> trivial
  | file hserver hfile hpath =>
    rw [hpath, layout.target_serverFile tree hserver hfile] at htarget
    cases h with
    | directory path => exact FileStep.agrees_makeDirectory path other
    | @resource item json hitem hjson =>
      rw [FileStep.path, target_itemFile] at htarget
      simp at htarget
    | keyDirectory =>
      rw [FileStep.path, target_sshDirectory] at htarget
      simp at htarget
    | keyText hhalf | keyMode hhalf =>
      rw [FileStep.path, KeyHalf.target_file (isFileName_of_mem_halves hkeys hhalf)] at htarget
      simp at htarget

theorem Provisions.agrees (h : Provisions layout registry step)
    (hkeys : ∀ key ∈ registry.sshKeys, Path.IsFileName key.name)
    (hnodup : ((registry.sshKeys.flatMap keyHalves).map (·.name)).Nodup)
    (hapart : Apart layout (items registry)) (hother : Provisions layout registry other)
    (htarget : tree.target step.path = tree.target other.path) : step.Agrees other := by
  have hnamed {half : KeyHalf} (hhalf : half ∈ registry.sshKeys.flatMap keyHalves) :
      Path.IsFileName half.name := isFileName_of_mem_halves hkeys hhalf
  have hsame {half half' : KeyHalf} (hhalf : half ∈ registry.sshKeys.flatMap keyHalves)
      (hhalf' : half' ∈ registry.sshKeys.flatMap keyHalves)
      (hfile : tree.target (half.file layout) = tree.target (half'.file layout)) :
      half = half' :=
    List.inj_on_of_nodup_map hnodup hhalf hhalf'
      (KeyHalf.name_eq_of_target (hnamed hhalf) (hnamed hhalf') hfile)
  cases h with
  | directory path => exact FileStep.agrees_makeDirectory path other
  | @resource item json hitem hjson =>
    cases hother with
    | directory path | keyDirectory | keyMode hhalf => trivial
    | resource hitem' hjson' =>
      have hfile := (file_eq_iff layout _ _).mpr (fileName_eq_of_target htarget)
      obtain rfl := hapart.files _ hitem _ hitem' hfile
      rw [Except.ok.inj (hjson.symm.trans hjson')]
      rfl
    | keyText hhalf => exact absurd htarget (target_itemFile_ne item (hnamed hhalf) tree)
  | keyDirectory =>
    cases hother with
    | directory path | resource hitem hjson | keyText hhalf => trivial
    | keyDirectory => rfl
    | keyMode hhalf => exact absurd htarget (target_sshDirectory_ne (hnamed hhalf) tree)
  | keyText hhalf =>
    cases hother with
    | directory path | keyDirectory | keyMode hhalf' => trivial
    | @resource item json hitem hjson =>
      exact absurd htarget.symm (target_itemFile_ne item (hnamed hhalf) tree)
    | keyText hhalf' =>
      obtain rfl := hsame hhalf hhalf' htarget
      rfl
  | keyMode hhalf =>
    cases hother with
    | directory path | resource hitem hjson | keyText hhalf' => trivial
    | keyDirectory => exact absurd htarget.symm (target_sshDirectory_ne (hnamed hhalf) tree)
    | keyMode hhalf' =>
      obtain rfl := hsame hhalf hhalf' htarget
      rfl

theorem detached_of_isFileName (hkeys : ∀ key ∈ registry.sshKeys, Path.IsFileName key.name)
    (hservers : ∀ d ∈ deployments, Naming.isHostname d.server = true) (tree : FileTree) :
    Detached layout options registry deployments tree := fun _ ha _ hb ↦
  (provisions_of_mem_steps hkeys ha).agrees_of_serves hkeys (serves_of_mem_steps hservers hb)

/-- Where neither keys nor items share a file, all that is provisioned agrees. -/
theorem definite_of_apart (hnames : registry.NamesDistinct)
    (hkeys : ∀ key ∈ registry.sshKeys, Path.IsFileName key.name)
    (hclash : ∀ a ∈ registry.sshKeys, ∀ b ∈ registry.sshKeys, ¬Clash a b)
    (hapart : Apart layout (items registry)) (tree : FileTree) :
    (generateProvisioning layout registry).Definite tree := by
  intro one other hone hother s t hs ht
  have hprovisions {order : List FileStep} {step : FileStep}
      (horder : (generateProvisioning layout registry).Admits order)
      (hstep : step.LastIn tree order) : Provisions layout registry step :=
    provisions_of_mem_steps hkeys (horder.perm.mem_iff.mp hstep.mem)
  exact (hprovisions hone hs).agrees hkeys ((nodup_map_name_iff (hnames .sshKey)).mpr hclash)
    hapart (hprovisions hother ht)

/-- The mode of a half is not changed by the other half of its key. -/
theorem lastIn_of_mem_keyHalves {key : SshKey} {half : KeyHalf} {order : List FileStep}
    (hkey : Path.IsFileName key.name) (hhalf : half ∈ keyHalves key)
    (horder : (writeKey layout key).Admits order) :
    (FileStep.setMode (half.file layout) half.mode).LastIn tree order := by
  have hmem (s : FileStep) : s ∈ order ↔ ∃ half ∈ keyHalves key, s ∈ (half.write layout).steps :=
    horder.perm.mem_iff.trans (mem_steps_writeKey hkey)
  apply FileStep.lastIn_of_agrees
  · exact (hmem _).mpr ⟨half, hhalf, List.mem_append_right _ (List.mem_singleton_self _)⟩
  · intro other hother htarget
    obtain ⟨half', hhalf', hother⟩ := (hmem other).mp hother
    rcases List.mem_append.mp hother with hother | hother
    · rcases mem_steps_write.mp hother with ⟨directory, -, rfl⟩ | rfl
      · trivial
      · trivial
    · obtain rfl := List.mem_singleton.mp hother
      have hname : half.name = half'.name :=
        KeyHalf.name_eq_of_target (isFileName_of_mem_keyHalves hkey hhalf)
          (isFileName_of_mem_keyHalves hkey hhalf') htarget
      rw [List.inj_on_of_nodup_map (nodup_keyNames key) hhalf hhalf' hname]
      rfl

/-- Halves of two keys in one file would leave it with either of two modes. -/
theorem not_clash_of_definite (hkeys : ∀ key ∈ registry.sshKeys, Path.IsFileName key.name)
    (hsound : (generateProvisioning layout registry).Sound)
    (h : (generateProvisioning layout registry).Definite tree) :
    ∀ a ∈ registry.sshKeys, ∀ b ∈ registry.sshKeys, ¬Clash a b := by
  intro a ha b hb hclash
  have hmem : writeKeys layout registry ∈
      [writeProvisioning layout registry, writeKeys layout registry] := .tail _ (.head _)
  have hwriting : (writeKeys layout registry).Sound := Change.sound_join_iff.mp hsound _ hmem
  have hjoin : (Change.join (registry.sshKeys.map (writeKey layout))).Definite tree :=
    ((h.of_mem_join hsound hmem).second hwriting.1).second hwriting.2.1
  have hall := Change.sound_join_iff.mp hwriting.2.2
  have hone := List.mem_map_of_mem (f := writeKey layout) ha
  have hother := List.mem_map_of_mem (f := writeKey layout) hb
  obtain ⟨one, hadmitsOne⟩ := (hall _ hone).exists_admits
  obtain ⟨other, hadmitsOther⟩ := (hall _ hother).exists_admits
  obtain ⟨secret, hsecret⟩ := Option.isSome_iff_exists.mp hclash.hasPrivate
  obtain ⟨shown, hshown⟩ := Option.isSome_iff_exists.mp hclash.hasPublic
  have hprivate : ⟨a.name, privateMode, secret⟩ ∈ keyHalves a := by
    simp [keyHalves, hsecret]
  have hpublic : ⟨b.name ++ ".pub", publicMode, shown⟩ ∈ keyHalves b := by
    simp [keyHalves, hshown]
  have hmodes : privateMode = publicMode :=
    hjoin.agrees_of_join hwriting.2.2 hone hother hadmitsOne hadmitsOther
      (lastIn_of_mem_keyHalves (hkeys a ha) hprivate hadmitsOne)
      (lastIn_of_mem_keyHalves (hkeys b hb) hpublic hadmitsOther)
      (by simp only [FileStep.path, KeyHalf.file, hclash.name])
  exact absurd hmodes (by decide)

end Apart

/-- Where key names are names of files and a generation can succeed, keys that clash are enough for
a second one to make a difference. -/
theorem not_clash_of_idempotent {κ : Type} {planner : Planner κ} {schedules : Schedules}
    {layout : Layout} {options : Proxy.PlanOptions} {deployments : List Deployment}
    {tree : FileTree} (hnames : planner.registry.NamesDistinct)
    (hhosts : planner.registry.HasHostnames) (hreads : planner.ReadsBy Bindings.fileName)
    (hnever : ∀ files, (planner.seeing files).NeverCalls Bindings.fileName)
    (h : (generateAll layout options planner schedules tree).result = .ok deployments)
    (hkeys : ∀ key ∈ planner.registry.sshKeys, Path.IsFileName key.name)
    (hidempotent : Idempotent layout options planner tree.workingDirectory) :
    ∀ a ∈ planner.registry.sshKeys, ∀ b ∈ planner.registry.sshKeys, ¬Clash a b := by
  generalize hmade : generateAll layout options planner schedules tree = made at h
  obtain ⟨after, calls, result⟩ := made
  obtain rfl : result = .ok deployments := h
  obtain ⟨middle, hprovisioned, hresolved, -⟩ := generateAll_eq_iff.mp hmade
  have hmakes : (generateProvisioning layout planner.registry).Makes tree middle :=
    ⟨_, hprovisioned⟩
  have hdetached : Detached layout options planner.registry deployments tree :=
    detached_of_isFileName hkeys (isHostname_of_deployAll hhosts hresolved) tree
  exact not_clash_of_definite hkeys hmakes.sound
    (definite_of_idempotent hnames hhosts hreads hnever hmade hdetached hidempotent)

/-! ### A cluster that is generated again -/

def privateServer : Server := ⟨"web-1", "cx22", none, ["ops"], ["db"], [], [], []⟩

/-- The proxy has nothing to do with the only port. -/
def privateService : Service :=
  ⟨"db", ["org/shop/db:v1"], ["5432:5432:5432"], [], [("HOST", "$\x7bserver.name\x7d")], []⟩

def privateCluster : Registry where
  servers := [privateServer]
  services := [privateService]
  sshKeys := [⟨"ops", "root", some "secret", some "public"⟩]
  volumes := []

def privatePlanner : Planner Program.Call :=
  ⟨privateCluster, ⟨[]⟩, .withoutToken "ghcr.io" "TOKEN", fun _ ↦ pure [], ⟨"ghcr.io", none, none⟩,
    Bindings.globals [], fun files ↦ Bindings.functions files "." Bindings.none, ⟨[], []⟩⟩

/-- A run before has left a configuration of the proxy. -/
def outdatedTree : FileTree where
  nodes :=
    [(["out"], .directory none), (["out", "servers"], .directory none),
      (["out", "servers", "web-1"], .directory none),
      (["out", "servers", "web-1", "nginx.conf"], .file (.text "old") none)]
  workingDirectory := []

def privateDeployment : Deployment :=
  ⟨"web-1", none,
    [⟨⟨"db", ⟨"org", "shop", "db", "v1"⟩⟩, [⟨some "5432", none, "5432", true, []⟩],
      [("HOST", "web-1")], []⟩]⟩

theorem neverCalls_privatePlanner (files : FileTree) :
    (privatePlanner.seeing files).NeverCalls Bindings.fileName := by
  intro server hserver service hservice images _ image _ template htemplate
  obtain rfl := List.mem_singleton.mp hserver
  obtain rfl := List.mem_singleton.mp hservice
  change template ∈ ["5432:5432:5432", "$\x7bserver.name\x7d"] at htemplate
  rcases List.mem_cons.mp htemplate with rfl | htemplate
  · exact Activity.callsOnly_pure _
  · obtain rfl := List.mem_singleton.mp htemplate
    have hparse : Template.Expr.parse "server.name" = .ok (.member (.ident "server") "name") := by
      with_unfolding_all rfl
    refine Template.callsOnly_render _ _ (Template.ofSegments_of_lex_eq_dynamic hparse rfl) ?_
    intro source tree hpiece
    obtain ⟨rfl, rfl⟩ := Template.Piece.expr.inj (List.mem_singleton.mp hpiece)
    exact (Activity.callsOnly_ofExcept _).andThen fun _ ↦ Activity.callsOnly_ofExcept _

theorem idempotent_privateCluster :
    (generateAll ⟨"out"⟩ ⟨.leastConn, false⟩ privatePlanner .inTurn outdatedTree).result =
        .ok [privateDeployment] ∧
      Idempotent ⟨"out"⟩ ⟨.leastConn, false⟩ privatePlanner outdatedTree.workingDirectory := by
  have hresult : (generateAll ⟨"out"⟩ ⟨.leastConn, false⟩ privatePlanner .inTurn
      outdatedTree).result = .ok [privateDeployment] := by
    apply Except.eq_ok_of_toOption
    decide +kernel
  have hnames : privateCluster.NamesDistinct := by
    intro kind
    cases kind with
    | server | service | sshKey | volume => decide
  have hhosts : privateCluster.HasHostnames := by
    intro name hname
    rw [List.mem_singleton.mp hname]
    decide
  have hclash : ∀ a ∈ privateCluster.sshKeys, ∀ b ∈ privateCluster.sshKeys, ¬Clash a b := by
    intro a ha b hb hclash
    obtain rfl := List.mem_singleton.mp ha
    obtain rfl := List.mem_singleton.mp hb
    exact ne_append_pub _ hclash.name
  have hpairs : Terraform.attachmentPairs privateCluster = [] := rfl
  have hunambiguous : Unambiguous privateCluster := by
    constructor
    · rw [hpairs]
      exact List.forall_mem_nil _
    · exact List.forall_mem_nil _
  have hapart : Apart ⟨"out"⟩ (items privateCluster) :=
    apart_iff.mpr fun a ha b hb ↦
      eq_of_sharesFile ⟨by decide, by decide, by decide⟩ hunambiguous ha hb
  have hdetached : Detached ⟨"out"⟩ ⟨.leastConn, false⟩ privateCluster [privateDeployment]
      outdatedTree :=
    detached_of_isFileName (by decide) (by decide) _
  have hdefinite : (generateProvisioning ⟨"out"⟩ privateCluster).Definite outdatedTree :=
    definite_of_apart hnames (by decide) hclash hapart _
  exact ⟨hresult, (generateAll_idempotent_iff hnames hhosts (Planner.readsBy_fileName rfl)
    neverCalls_privatePlanner hresult hdetached).mpr hdefinite⟩

/-! ### Two keys in one file -/

def suffixedPlanner : Planner Program.Call := { privatePlanner with registry := suffixedKeys }

theorem not_idempotent_suffixedKeys :
    suffixedPlanner.registry.IsMade ∧
      (∀ files, (suffixedPlanner.seeing files).NeverCalls Bindings.fileName) ∧
      (generateAll ⟨"out"⟩ ⟨.leastConn, false⟩ suffixedPlanner .inTurn emptyWork).result = .ok [] ∧
      ¬Idempotent ⟨"out"⟩ ⟨.leastConn, false⟩ suffixedPlanner emptyWork.workingDirectory := by
  have hnever (files : FileTree) :
      (suffixedPlanner.seeing files).NeverCalls Bindings.fileName :=
    fun server hserver ↦ absurd hserver List.not_mem_nil
  have hresult : (generateAll ⟨"out"⟩ ⟨.leastConn, false⟩ suffixedPlanner .inTurn
      emptyWork).result = .ok [] := by
    apply Except.eq_ok_of_toOption
    decide +kernel
  refine ⟨isMade_suffixedKeys, hnever, hresult, fun hidempotent ↦ ?_⟩
  have hnames : suffixedKeys.NamesDistinct := isMade_suffixedKeys.namesDistinct
  have hhosts : suffixedKeys.HasHostnames := fun _ hname ↦ absurd hname List.not_mem_nil
  exact not_clash_of_idempotent hnames hhosts (Planner.readsBy_fileName rfl) hnever hresult
    (by decide) hidempotent suffixedKey (.head _) plainKey (.tail _ (.head _)) ⟨rfl, rfl, rfl⟩

end ClusterPlan.Artifact
