import ClusterPlan.Template.Value
import ClusterPlan.Yaml.Basic

/-!
# Complaints about entities

The four kinds of entities, and what can be wrong with the options of one: each complaint names a
field, what was expected there, and what was found.
-/

namespace ClusterPlan

/-- The types that options are described by. -/
def Yaml.typeName : Yaml → String
  | null => "null"
  | bool _ => "boolean"
  | number _ => "number"
  | string _ => "string"
  | sequence _ => "list"
  | mapping _ => "mapping"
  | tagged .. => "tagged value"

namespace Entity

inductive Kind where
  | server
  | service
  | sshKey
  | volume
  deriving Repr, DecidableEq

namespace Kind

/-- The key of a document under which the entities of a kind stand. -/
def sectionName : Kind → String
  | server => "servers"
  | service => "services"
  | sshKey => "ssh_keys"
  | volume => "volumes"

def name : Kind → String
  | server => "server"
  | service => "service"
  | sshKey => "ssh key"
  | volume => "volume"

end Kind

inductive Complaint where
  | notMapping (found : Yaml)
  | notHostname
  | unknownField (field : String) (known : List String)
  | wrongType (field expected : String) (found : Yaml)
  | missing (field expected : String)
  | blankText (field : String)
  | emptyList (field : String)
  | wrongItem (field : String) (found : Yaml)
  | wrongPort (field : String) (found : Yaml)
  | wrongKey (field : String) (found : Yaml)
  | wrongEntry (field key : String) (found : Yaml)
  | blankImage
  | noKeyHalf
  | notPositive (size : Float)
  | notAbsolute (path : String)
  | duplicate

namespace Complaint

def field : Complaint → String
  | notMapping _ => "(options)"
  | notHostname | duplicate => "name"
  | unknownField field _ | wrongType field _ _ | missing field _ | blankText field
  | emptyList field | wrongItem field _ | wrongPort field _ | wrongKey field _ => field
  | wrongEntry field key _ => field ++ "." ++ key
  | blankImage => "images"
  | noKeyHalf => "private_key"
  | notPositive _ => "size"
  | notAbsolute _ => "path"

def expected (kind : Kind) : Complaint → String
  | notMapping _ => "a mapping"
  | notHostname => "a hostname matching [a-z0-9][a-z0-9-]*[a-z0-9]"
  | unknownField _ known => "one of " ++ ", ".intercalate known
  | wrongType _ expected _ => expected
  | missing _ expected => expected
  | blankText _ => "a non-empty string"
  | emptyList _ => "a non-empty list"
  | wrongItem _ _ => "a list of strings"
  | wrongPort _ _ => "a list of ports (1-65535)"
  | wrongKey _ _ => "string keys"
  | wrongEntry .. => "a string"
  | blankImage => "non-empty image references"
  | noKeyHalf => "private_key or public_key"
  | notPositive _ => "a number greater than 0"
  | notAbsolute _ => "an absolute path"
  | duplicate => "a name unique among " ++ kind.sectionName

def received (name : String) : Complaint → String
  | notMapping found => found.typeName
  | notHostname => "\"" ++ name ++ "\""
  | unknownField .. => "an unknown field"
  | wrongType _ _ found => found.typeName
  | missing .. => "nothing"
  | blankText _ => "an empty string"
  | emptyList _ => "an empty list"
  | wrongItem _ found => "a list containing " ++ found.typeName
  | wrongPort _ found => found.description
  | wrongKey _ found => found.typeName
  | wrongEntry _ _ found => found.typeName
  | blankImage => "an empty string"
  | noKeyHalf => "neither"
  | notPositive size => Decimal.Layout.plain.write size
  | notAbsolute path => "\"" ++ path ++ "\""
  | duplicate => "a duplicate"

end Complaint

/-- A complaint about the entity of a kind and a name. -/
structure Invalid where
  kind : Kind
  name : String
  complaint : Complaint

def Invalid.message (e : Invalid) : String :=
  e.kind.name ++ " \"" ++ e.name ++ "\": field \"" ++ e.complaint.field ++ "\" expected " ++
    e.complaint.expected e.kind ++ ", received " ++ e.complaint.received e.name

end Entity

end ClusterPlan
