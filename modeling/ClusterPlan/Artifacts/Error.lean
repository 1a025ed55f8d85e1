import ClusterPlan.Files.Tree
import ClusterPlan.Image.Error
import ClusterPlan.Proxy.Plan
import ClusterPlan.Proxy.Declaration
import ClusterPlan.Registry.References
import ClusterPlan.Template.Error

/-!
# What artifacts can fail by
-/

namespace ClusterPlan

/-- What a template was rendered for. -/
inductive Artifact.Subject where
  | serviceField (service field image : String)
  | mountScript (volume : String)
  | proxyConfig (server : String)
  deriving Repr, DecidableEq

def Artifact.Subject.text : Artifact.Subject → String
  | serviceField service field image =>
    "service \"" ++ service ++ "\" " ++ field ++ " for " ++ image
  | mountScript volume => "mount script of volume \"" ++ volume ++ "\""
  | proxyConfig server => "nginx config of " ++ server

inductive ArtifactError where
  | unknownReference (e : UnknownReference)
  | misowned (e : Registry.Misowned)
  | image (service : String) (e : Image.Error)
  | ports (service imageName : String) (e : Proxy.PortError)
  | template (subject : Artifact.Subject) (e : Template.Error)
  | duplicateImage (server name : String) (references : List String)
  | portConflict (server port : String) (images : List String)
  | routeConflict (e : Proxy.RouteConflict)
  | noConnectableKey (server : String)
  | unwritable (path : String) (fault : FileFault)

/-- What the file system reports is not put into words here. -/
def ArtifactError.message? : ArtifactError → Option String
  | unknownReference e => some e.message
  | misowned e => some e.message
  | image service e => e.message?.map fun text ↦ "service \"" ++ service ++ "\": " ++ text
  | ports service imageName e =>
    some ("service \"" ++ service ++ "\", image " ++ imageName ++ ": " ++ e.message)
  | template subject e => some (subject.text ++ ": " ++ e.message)
  | duplicateImage server name references =>
    some ("server \"" ++ server ++ "\": image name " ++ name ++
      " is produced by more than one image (" ++ ", ".intercalate references ++ ")")
  | portConflict server port images =>
    some ("server \"" ++ server ++ "\": host port " ++ port ++ " is claimed by " ++
      ", ".intercalate images)
  | routeConflict e => some e.message
  | noConnectableKey server =>
    some ("server \"" ++ server ++
      "\" mounts volumes but none of its ssh keys has a private key")
  | unwritable .. => none

end ClusterPlan
