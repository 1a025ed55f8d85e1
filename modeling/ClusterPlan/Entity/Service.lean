import ClusterPlan.Entity.Options

/-!
# Services

Groups of images that are deployed together. Their texts stay as written until the service is
placed on a server.
-/

namespace ClusterPlan.Entity

structure Service where
  name : String
  images : List String
  ports : List String
  proxies : List String
  environment : List (String × String)
  volumes : List String
  deriving Repr, DecidableEq

namespace Service

def fields : List String := ["images", "ports", "proxies", "environment", "volumes"]

def images? (options : Options) : Except Complaint (List String) :=
  match options.requiredTexts "images" false with
  | .error e => .error e
  | .ok images => if images.any Text.isBlankText then .error .blankImage else .ok images

def ofOptions (name : String) (options : Options) : Except Complaint Service := do
  options.checkKnown fields
  return {
    name
    images := ← images? options
    ports := ← options.texts "ports" true
    proxies := ← options.texts "proxies" false
    environment := ← options.textMap "environment"
    volumes := ← options.texts "volumes" false }

def build (name : String) (options : Yaml) : Except Invalid Service :=
  built .service name (Options.ofYaml options >>= ofOptions name)

end Service

end ClusterPlan.Entity
