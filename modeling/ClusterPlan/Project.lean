import ClusterPlan.Bindings.Global
import ClusterPlan.Command.Error
import ClusterPlan.Deployment.Planner
import ClusterPlan.Artifacts.Layout
import ClusterPlan.Artifacts.Writing
import ClusterPlan.Rollout.Run

/-!
# Projects

A project is a cluster document with the settings that go with it, as a command finds them among the
files and in the environment.
-/

namespace ClusterPlan

/-- What a run meets beside the files. -/
structure Surroundings where
  environment : List (String × String)
  programs : Programs
  packages : Settings.Registry → (token : String) → Image.Listing Program.Call
  schedule : Rollout.Schedule
  writing : Artifact.Schedules

/-- The options of all commands that read a cluster document. -/
structure ProjectOptions where
  config : String
  output : Option String
  settings : String
  allowOverride : Bool
  deriving Repr, DecidableEq

structure Project where
  settings : Settings
  layout : Layout
  registry : Registry
  base : String
  environment : List (String × String)
  defaults : Image.Defaults
  listing : Image.Listing Program.Call
  options : Proxy.PlanOptions

namespace Project

/-- The variable that names the repository that a run is made for. -/
def repositoryVariable : String := "GITHUB_REPOSITORY"

/-! ### Loading -/

def loadSettings (files : FileTree) (path : String) : Except CommandError Settings :=
  (Settings.load files path).mapError (.settings path)

/-- The output directory; an option wins over the settings. -/
def layoutOf (output : Option String) (settings : Settings) : Layout :=
  ⟨output.getD settings.outputDirectory⟩

/-- The directory next to whose files a document lies. -/
def baseOf (config : String) : String :=
  match Path.parent? config with
  | none => "."
  | some "" => "."
  | some parent => parent

/-- What the functions of a document answer beside these files. -/
def functionsAt (base : String) (files : FileTree) : Template.Functions :=
  Bindings.functions files base Bindings.none

def loadRegistry (environment : List (String × String)) (files : FileTree) (config : String) :
    Except CommandError Registry := do
  let text ← (files.readText config).mapError (.config config)
  let renderer : Document.Renderer :=
    ⟨.strict, functionsAt (baseOf config) files, Bindings.globals environment⟩
  (Registry.load renderer text).result.mapError (.document config)

/-- The defaults of image references: what is set, and then the repository of the run. -/
def defaultsOf (environment : List (String × String)) (settings : Settings.Registry) :
    Image.Defaults :=
  let own := Image.Defaults.of settings.org settings.repo
  match environment.lookup repositoryVariable with
  | some slug => own.or (Image.Defaults.ofSlug slug)
  | none => own

/-- Packages are listed with a token only. -/
def listingOf (around : Surroundings) (settings : Settings.Registry) :
    Image.Listing Program.Call :=
  match around.environment.lookup settings.tokenVariable with
  | none => .withoutToken settings.host settings.tokenVariable
  | some "" => .withoutToken settings.host settings.tokenVariable
  | some token => around.packages settings token

def planOptions (settings : Settings.Proxy) (allowOverride : Bool) :
    Except CommandError Proxy.PlanOptions := do
  let strategy ← (Proxy.Strategy.parse settings.defaultStrategy).mapError .strategy
  return ⟨strategy, allowOverride || settings.allowOverride⟩

def load (around : Surroundings) (o : ProjectOptions) (files : FileTree) :
    Except CommandError Project := do
  let settings ← loadSettings files o.settings
  let registry ← loadRegistry around.environment files o.config
  let options ← planOptions settings.proxy o.allowOverride
  return ⟨settings, layoutOf o.output settings, registry, baseOf o.config, around.environment,
    defaultsOf around.environment settings.registry, listingOf around settings.registry, options⟩

/-! ### What a project is asked for -/

/-- The provisioning state among the files. -/
def state (p : Project) (files : FileTree) : Except CommandError State :=
  (State.load files p.layout.stateFile).mapError (.state p.layout.stateFile)

/-- The planner of a project in a session, whose programs inspect images. -/
def planner (p : Project) (programs : Programs) (s : Session) (state : State) :
    Planner Program.Call :=
  ⟨p.registry, state, p.listing, Image.Docker.inspector programs s.calls, p.defaults,
    Bindings.globals p.environment, functionsAt p.base, s.files⟩

end Project

end ClusterPlan
