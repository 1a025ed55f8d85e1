import ClusterPlan.Image.ExposedPorts
import ClusterPlan.Program.Basic

/-!
# What can go wrong with images
-/

namespace ClusterPlan.Image

/-- Parts of a reference that can be missing or hold a star. -/
inductive Part where
  | registry
  | organization
  | repository
  deriving Repr, DecidableEq

def Part.name : Part → String
  | registry => "registry"
  | organization => "organization"
  | repository => "repository"

inductive Flaw where
  | emptyTag
  | emptySegment
  deriving Repr, DecidableEq

def Flaw.message : Flaw → String
  | emptyTag => "empty tag"
  | emptySegment => "empty path segment"

/-- Why an image could not be inspected. -/
inductive InspectionFault where
  | report (fault : ExposedPorts.Fault)
  | missing (program : String)
  | exited (program command : String) (code : Option Int) (errors : String)
  | other (text : String)

def InspectionFault.message? : InspectionFault → Option String
  | report fault => fault.message?
  | missing program => some ("failed to execute " ++ program ++ ": " ++ Program.missingText)
  | exited program command code errors =>
    some (program ++ " " ++ command ++ " exited with " ++ Program.codeText code ++ ": " ++ errors)
  | other text => some text

inductive Error where
  | empty
  | invalid (reference : String) (flaw : Flaw)
  | missingDefault (reference : String) (part : Part)
  | unsupportedWildcard (reference : String) (part : Part)
  | unsupportedRegistry (registry supported : String)
  | missingCredentials (tokenVariable : String)
  | status (code : Nat) (url : String)
  | noMatch (reference : String)
  | inspection (image : String) (fault : InspectionFault)

def Error.message? : Error → Option String
  | empty => some "empty image reference"
  | invalid reference flaw =>
    some ("invalid image reference \"" ++ reference ++ "\": " ++ flaw.message)
  | missingDefault reference part =>
    some ("image reference \"" ++ reference ++ "\" has no " ++ part.name ++ " and no default " ++
      part.name ++ " is configured")
  | unsupportedWildcard reference part =>
    some ("wildcards in the " ++ part.name ++ " of \"" ++ reference ++ "\" are not supported")
  | unsupportedRegistry registry supported =>
    some ("wildcard listing is only supported on " ++ supported ++ ", not " ++ registry)
  | missingCredentials tokenVariable =>
    some ("listing packages requires a token in $" ++ tokenVariable)
  | status code url => some ("registry returned " ++ toString code ++ " for " ++ url)
  | noMatch reference => some ("no image matches \"" ++ reference ++ "\"")
  | inspection image fault =>
    fault.message?.map fun text ↦ "inspecting " ++ image ++ " failed: " ++ text

end ClusterPlan.Image
