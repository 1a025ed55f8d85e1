import ClusterPlan.Deployment.Checks
import ClusterPlan.Yaml.Writer

/-!
# Compose manifests

The manifest of one server: a service for each image, under the name of the image, and one for the
proxy if there is anything for it to do.
-/

namespace ClusterPlan.Compose

/-- A service; lists without members are not written. -/
structure Service where
  image : String
  ports : List String
  expose : List String
  environment : List (String × String)
  volumes : List String
  dependsOn : List String
  deriving Repr, DecidableEq

def proxyImage : String := "nginx:1.27-alpine"

def restartPolicy : String := "unless-stopped"

/-- The ports of an image that are bound on the server, each with its container port. -/
def published (ports : List Proxy.Port) : List String :=
  Proxy.Plan.addNew [] (ports.filterMap fun p ↦ p.bound?.map fun bound ↦
    bound ++ ":" ++ p.container)

/-- The container ports of an image that are bound nowhere. -/
def exposedPorts (ports : List Proxy.Port) : List String :=
  Proxy.Plan.addNew [] ((ports.filter (·.bound?.isNone)).map (·.container))

def imageService (d : DeployedImage) : Service :=
  ⟨d.image.qualified, published d.ports, exposedPorts d.ports, d.environment, d.volumes, []⟩

def proxyService (d : Deployment) (plan : Proxy.Plan) : Service :=
  ⟨proxyImage, plan.listenPorts.map fun port ↦ port ++ ":" ++ port, [], [],
    ["./nginx.conf:/etc/nginx/nginx.conf:ro"], d.images.map (·.image.name)⟩

/-- Put a service in the place of one of the same name, or else at the end. -/
def put (name : String) (service : Service) : List (String × Service) → List (String × Service)
  | [] => [(name, service)]
  | (n, s) :: rest =>
    if n = name then (name, service) :: rest else (n, s) :: put name service rest

def services (d : Deployment) (plan : Proxy.Plan) : List (String × Service) :=
  let images := d.images.foldl (fun services i ↦ put i.image.name (imageService i) services) []
  if plan.isEmpty then images else put Deployment.proxyName (proxyService d plan) images

/-! ### Text -/

def listField (name : String) (items : List String) : List (Yaml × Yaml) :=
  if items.isEmpty then [] else [(.string name, .sequence (items.map .string))]

def mapField (name : String) (entries : List (String × String)) : List (Yaml × Yaml) :=
  if entries.isEmpty then []
  else [(.string name, .mapping (entries.map fun (k, v) ↦ (.string k, .string v)))]

def Service.toYaml (s : Service) : Yaml :=
  .mapping ([(.string "image", .string s.image), (.string "restart", .string restartPolicy)] ++
    listField "ports" s.ports ++ listField "expose" s.expose ++
    mapField "environment" s.environment ++ listField "volumes" s.volumes ++
    listField "depends_on" s.dependsOn)

def toYaml (services : List (String × Service)) : Yaml :=
  .mapping [(.string "services", .mapping (services.map fun (name, s) ↦
    (.string name, s.toYaml)))]

/-- The manifest of a deployment behind its proxy. -/
def text (d : Deployment) (plan : Proxy.Plan) : String :=
  "# Generated by shipyard for " ++ d.server ++ ". Do not edit.\n" ++
    (toYaml (services d plan)).write

end ClusterPlan.Compose
