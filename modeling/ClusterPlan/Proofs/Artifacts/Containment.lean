import ClusterPlan.Proofs.Artifacts.Footprint
import ClusterPlan.Proofs.Artifacts.Places
import ClusterPlan.Bindings.Global
import ClusterPlan.Proofs.Registry.Names

/-!
# The bounds of the output directory

The files of items and of servers lie below the output directory whatever the names in the document
are: the names of items are made of identifiers, and servers have the names of hosts. Only the names
of keys are put behind the directory of keys as they are written. A name such as `../../stray` leads
out of it, and nothing checks for that, so a generation stays below the output directory exactly
when the files of all keys do.
-/

namespace ClusterPlan.Artifact

open Entity

/-- A generation works below the output directory only, and changes nothing outside of it. -/
structure StaysBelow (layout : Layout) (registry : Registry) (tree : FileTree) : Prop where
  paths : ∀ path ∈ outputPaths layout registry, tree.Below layout.root path
  changes : ∀ (κ : Type) (options : Proxy.PlanOptions) (planner : Planner κ)
    (schedules : Schedules), planner.registry = registry →
      tree.ConfinedTo layout.root (generateAll layout options planner schedules tree).tree

section StaysBelow

variable {layout : Layout} {registry : Registry} {tree : FileTree}

theorem below_itemFile (item : Item) : tree.Below layout.root (item.file layout) :=
  (layout.below_terraformDirectory tree).join (isFileName_resourceFile item)

theorem below_serverFiles {server : String} (h : Naming.isHostname server = true) :
    ∀ path ∈ serverFiles layout server, tree.Below layout.root path := by
  have hserver := layout.below_serverDirectory tree (Naming.isFileName_of_isHostname h)
  simp only [serverFiles, List.forall_mem_cons]
  exact ⟨hserver.join (by decide), hserver.join (by decide), nofun⟩

/-- Only the files of keys can lead out of the output directory. -/
theorem below_outputPaths (h : registry.HasHostnames)
    (hkeys : ∀ key ∈ registry.sshKeys, ∀ path ∈ keyFiles layout key,
      tree.Below layout.root path) :
    ∀ path ∈ outputPaths layout registry, tree.Below layout.root path := by
  intro path hpath
  simp only [outputPaths, provisioningPaths, manifestPaths, List.mem_append, List.mem_cons,
    List.mem_map, List.mem_flatMap] at hpath
  rcases hpath with (⟨item, -, rfl⟩ | rfl | ⟨key, hkey, hpath⟩) | ⟨server, hserver, hpath⟩
  · exact below_itemFile item
  · exact layout.below_sshDirectory tree
  · exact hkeys key hkey path hpath
  · exact below_serverFiles (h server (List.mem_map.mpr hserver)) path hpath

theorem staysBelow_of_below (h : registry.IsLoaded)
    (hkeys : ∀ key ∈ registry.sshKeys, ∀ path ∈ keyFiles layout key,
      tree.Below layout.root path) : StaysBelow layout registry tree := by
  have hpaths := below_outputPaths h.hasHostnames hkeys
  refine ⟨hpaths, fun κ options planner schedules hplanner ↦ ?_⟩
  apply FileTree.confinedTo_of_changesOnlyAt (changesOnlyAt_generateAll schedules tree)
  rw [hplanner]
  exact hpaths

/-! ### Names of keys -/

/-- The files of a key that has the name of a file. -/
theorem below_keyFiles {key : SshKey} (h : Path.IsFileName key.name) :
    ∀ path ∈ keyFiles layout key, tree.Below layout.root path := by
  have hprivate : tree.Below layout.root (layout.privateKey key.name) :=
    (layout.below_sshDirectory tree).join h
  have hpublic : tree.Below layout.root (layout.publicKey key.name) := by
    rw [layout.publicKey_eq h]
    exact (layout.below_sshDirectory tree).join (Layout.isFileName_public h)
  intro path hpath
  rcases List.mem_append.mp hpath with hpath | hpath
  · obtain ⟨_, -, rfl⟩ := Option.map_eq_some_iff.mp (Option.mem_toList.mp hpath)
    exact hprivate
  · obtain ⟨_, -, rfl⟩ := Option.map_eq_some_iff.mp (Option.mem_toList.mp hpath)
    exact hpublic

/-- Where the names of all keys are names of files, everything stays below the output directory. -/
theorem staysBelow_of_isFileName (h : registry.IsLoaded)
    (hkeys : ∀ key ∈ registry.sshKeys, Path.IsFileName key.name) :
    StaysBelow layout registry tree :=
  staysBelow_of_below h fun key hkey ↦ below_keyFiles (hkeys key hkey)

/-! ### The bounds -/

/-- A registry that comes out of a text is generated below the output directory exactly when the
files of all its keys lie there. -/
theorem staysBelow_iff (h : registry.IsLoaded) (layout : Layout) (tree : FileTree) :
    StaysBelow layout registry tree ↔
      ∀ key ∈ registry.sshKeys, ∀ path ∈ keyFiles layout key, tree.Below layout.root path := by
  constructor
  · intro hstays key hkey path hpath
    apply hstays.paths
    exact List.mem_append_left _ (List.mem_append_right _
      (List.mem_cons_of_mem _ (List.mem_flatMap_of_mem hkey hpath)))
  · exact staysBelow_of_below h

end StaysBelow

/-! ### A key that lies elsewhere -/

def strayKeyDocument : String := "ssh_keys:\n  ../../stray:\n    private_key: secret\n"

def strayKey : SshKey := ⟨"../../stray", "root", some "secret", none⟩

/-- A directory to work in, with nothing in it. -/
def emptyWork : FileTree :=
  ⟨[(["home"], .directory none), (["home", "work"], .directory none)], ["home", "work"]⟩

def plainRenderer : Document.Renderer := ⟨.strict, Bindings.none, ⟨[]⟩⟩

/-- The key is accepted, and its private half is written next to the output directory. -/
theorem not_staysBelow_strayKey :
    ∃ registry, (Registry.load plainRenderer strayKeyDocument).result = .ok registry ∧
      ¬StaysBelow ⟨"out"⟩ registry emptyWork ∧
      (∃ tree, (generateProvisioning ⟨"out"⟩ registry).Makes emptyWork tree) ∧
      ∀ tree, (generateProvisioning ⟨"out"⟩ registry).Makes emptyWork tree →
        tree.readText "stray" = .ok "secret\n" := by
  have hfields : (Registry.load plainRenderer strayKeyDocument).result.toOption.map
      (fun r ↦ (r.servers, r.services, r.sshKeys, r.volumes.length)) =
      some ([], [], [strayKey], 0) := by decide +kernel
  obtain ⟨⟨servers, services, keys, volumes⟩, hregistry, hall⟩ := Option.map_eq_some_iff.mp hfields
  simp only [Prod.mk.injEq, List.length_eq_zero_iff] at hall
  obtain ⟨rfl, rfl, rfl, rfl⟩ := hall
  have hload := Except.eq_ok_of_toOption hregistry
  refine ⟨_, hload, fun h ↦ ?_, ?_, fun tree hmakes ↦ ?_⟩
  · have hloaded : Registry.IsLoaded ⟨[], [], [strayKey], []⟩ := .inr ⟨plainRenderer, _, hload⟩
    have hbelow := (staysBelow_iff hloaded ⟨"out"⟩ emptyWork).mp h strayKey
      (List.mem_singleton_self strayKey) "out/ssh/../../stray" (by decide)
    exact absurd hbelow.target (by decide)
  · have hresult : ((generateProvisioning ⟨"out"⟩ ⟨[], [], [strayKey], []⟩).run Change.inTurn
        emptyWork).2.toOption = some () := by decide +kernel
    exact ⟨_, Change.inTurn, Prod.ext rfl (Except.eq_ok_of_toOption hresult)⟩
  · have hstep : .writeText "out/ssh/../../stray" "secret\n" ∈
        (generateProvisioning ⟨"out"⟩ ⟨[], [], [strayKey], []⟩).steps := by decide +kernel
    have hsettled := hmakes.settled hstep trivial (by decide +kernel)
    obtain ⟨location, mode, hlocate, hnode⟩ :=
      FileTree.readText_eq_ok_iff.mp (FileStep.settled_writeText_iff.mp hsettled)
    have hkeeps := (Change.keeps_keepsDirectories _).of_makes hmakes
    have hlocation : location = ["home", "work", "stray"] := by
      rw [FileTree.eq_target_of_locate hlocate, FileTree.target_congr hkeeps.workingDirectory]
      decide
    have hstray : emptyWork.locate "stray" = .ok ["home", "work", "stray"] := by rfl
    rw [FileTree.readText_eq_ok_iff]
    exact ⟨_, mode, FileTree.locate_of_keepsDirectories hkeeps hstray, hlocation ▸ hnode⟩

end ClusterPlan.Artifact
