import ClusterPlan.Bindings.Server
import ClusterPlan.Deployment.Checks
import ClusterPlan.Image.Docker
import ClusterPlan.Image.Resolver
import ClusterPlan.Proxy.Resolved
import ClusterPlan.Registry.References
import ClusterPlan.Template.Render

/-!
# Resolving deployments

The services of every server are resolved into images, and their strings are rendered for each
server and image, with both bound beside the globals. Servers, services and images are resolved
side by side.
-/

namespace ClusterPlan

/-- All that deployments are resolved from. What functions answer depends on the files as they are
when services are resolved. -/
structure Planner (κ : Type) where
  registry : Registry
  state : State
  listing : Image.Listing κ
  inspector : Image.Inspector κ
  defaults : Image.Defaults
  globals : Template.Context
  functions : FileTree → Template.Functions
  files : FileTree

namespace Planner

open Entity

variable {κ : Type}

def imageName : String := "image"

/-- The same planner, with the files as they are. -/
def seeing (p : Planner κ) (files : FileTree) : Planner κ := { p with files }

/-- What the strings of a service see. -/
def context (p : Planner κ) (server : Server) (image : Image) : Template.Context :=
  (p.globals.put Bindings.serverName
      (Bindings.server server (p.state.server? server.name))).put
    imageName image.toValue

def renderAll (p : Planner κ) (context : Template.Context) (subject : Artifact.Subject)
    (templates : List String) : Activity κ ArtifactError (List String) :=
  let render := Template.render (p.functions p.files) context
  ((Activity.join (templates.map render)).unrecorded).mapError (.template subject)

/-- A mount of a volume that the server claims has the path of the volume as its source. -/
def mount (p : Planner κ) (server : Server) (written : String) : String :=
  match Text.splitFirst? ':' written.toList with
  | none => written
  | some (source, rest) =>
    let source := String.ofList source
    match p.registry.volume? source with
    | some volume =>
      if server.claims source then volume.path ++ ":" ++ String.ofList rest else written
    | none => written

/-- The environment of a server under that of a service. -/
def mergeEnvironment (server service : List (String × String)) : List (String × String) :=
  service.foldl (fun merged (name, value) ↦ insertSorted name value merged) server

/-- The ports that an image exposes, where nothing else tells its ports. -/
def exposed (p : Planner κ) (service : Service) (image : Image) (ports proxies : List String) :
    Activity κ ArtifactError (List String) :=
  if Proxy.needsInspection ports proxies then
    (p.inspector image.qualified).mapError (.image service.name)
  else pure []

/-- The ports of an image and its mounts, from their rendered texts. -/
def deploy (p : Planner κ) (server : Server) (service : Service) (image : Image)
    (ports proxies volumes environment : List String) : Activity κ ArtifactError DeployedImage :=
  (p.exposed service image ports proxies).andThen fun exposed ↦
    match Proxy.resolvePorts image.name ports proxies exposed with
    | .error e => .fail (.ports service.name image.name e)
    | .ok resolved =>
      let values := (service.environment.map (·.1)).zip environment
      pure ⟨image, resolved, mergeEnvironment server.environment values,
        volumes.map (p.mount server)⟩

/-- An image of a service on a server. -/
def deployImage (p : Planner κ) (server : Server) (service : Service) (image : Image) :
    Activity κ ArtifactError DeployedImage :=
  let context := p.context server image
  let render (field : String) (templates : List String) :
      Activity κ ArtifactError (List String) :=
    p.renderAll context (.serviceField service.name field image.name) templates
  (Activity.joinThree (render "ports" service.ports) (render "proxies" service.proxies)
      (render "volumes" service.volumes)).andThen fun (ports, proxies, volumes) ↦
    (render "environment" (service.environment.map (·.2))).andThen fun environment ↦
      p.deploy server service image ports proxies volumes environment

def deployService (p : Planner κ) (server : Server) (service : Service) :
    Activity κ ArtifactError (List DeployedImage) :=
  ((p.listing.images service.name service.images p.defaults).mapError
      (.image service.name)).andThen fun images ↦
    Activity.join (images.map (p.deployImage server service))

def check (d : Deployment) : Except ArtifactError Deployment := do
  d.checkImageNames
  d.checkHostPorts
  return d

def deployServer (p : Planner κ) (server : Server) : Activity κ ArtifactError Deployment :=
  (Activity.join ((p.registry.servicesOf server).map (p.deployService server))).andThen
    fun images ↦
      .ofExcept (check
        ⟨server.name, (p.state.server? server.name).map (·.address), images.flatten⟩)

/-- The deployments of all servers. -/
def deployAll (p : Planner κ) : Activity κ ArtifactError (List Deployment) :=
  match p.registry.checkReferences with
  | .error e => .fail (.unknownReference e)
  | .ok () => Activity.join (p.registry.servers.map p.deployServer)

end Planner

end ClusterPlan
