import ClusterPlan.Image.Error
import ClusterPlan.Image.Glob
import ClusterPlan.Text.Lowercase

/-!
# References to images

A reference is written as `[registry/]organization/repository:tag`, as `repository:tag` or as a tag
alone. Parts that are left out come from defaults; a path without a tag has the tag `latest`. Every
part but the registry may hold stars.
-/

namespace ClusterPlan.Image

def defaultRegistry : String := "ghcr.io"

def defaultTag : String := "latest"

/-- What the parts are that a reference leaves out. -/
structure Defaults where
  url : String
  org : Option String
  repo : Option String
  deriving Repr, DecidableEq

namespace Defaults

def of (org repo : Option String) : Defaults := ⟨defaultRegistry, org, repo⟩

/-- The parts of a text `owner/repository`, in lower case. -/
def ofSlug (slug : String) : Defaults :=
  match Text.splitFirst? '/' slug.toList with
  | some (org@(_ :: _), repo@(_ :: _)) =>
    of (some (Text.lowercase (String.ofList org))) (some (Text.lowercase (String.ofList repo)))
  | _ => of none none

/-- Unset parts are filled from other defaults. -/
def or (defaults other : Defaults) : Defaults :=
  ⟨defaults.url, defaults.org <|> other.org, defaults.repo <|> other.repo⟩

end Defaults

structure Reference where
  url : String
  org : String
  repo : String
  tag : String
  deriving Repr, DecidableEq

namespace Reference

def text (r : Reference) : String := r.url ++ "/" ++ r.org ++ "/" ++ r.repo ++ ":" ++ r.tag

def hasWildcard (r : Reference) : Bool :=
  Glob.isWildcard r.org || Glob.isWildcard r.repo || Glob.isWildcard r.tag

/-- The reference with another repository and tag. -/
def withTag (r : Reference) (repo tag : String) : Reference := { r with repo, tag }

/-- The path and the tag of a written reference. Only a colon after the last slash is in front of a
tag. Where there is neither, all of it is the tag. -/
def pathAndTag (cs : List Char) : List Char × List Char :=
  match Text.splitLast? ':' cs with
  | some (path, tag) =>
    if tag.contains '/' then (cs, defaultTag.toList) else (path, tag)
  | none => if cs.contains '/' then (cs, defaultTag.toList) else ([], cs)

def segments (path : List Char) : List (List Char) :=
  if path.isEmpty then [] else Text.splitAt '/' path

/-- The parts that the segments of a path stand for. -/
def ofSegments (written : String) (defaults : Defaults) (tag : String) :
    List String → Except Error Reference
  | [] =>
    match defaults.org, defaults.repo with
    | none, _ => .error (.missingDefault written .organization)
    | some _, none => .error (.missingDefault written .repository)
    | some org, some repo => .ok ⟨defaults.url, org, repo, tag⟩
  | [repo] =>
    match defaults.org with
    | none => .error (.missingDefault written .organization)
    | some org => .ok ⟨defaults.url, org, repo, tag⟩
  | [org, repo] => .ok ⟨defaults.url, org, repo, tag⟩
  | url :: org :: repo => .ok ⟨url, org, "/".intercalate repo, tag⟩

def parseTrimmed (written : String) (defaults : Defaults) : Except Error Reference :=
  let (path, tag) := pathAndTag written.toList
  if written.isEmpty then .error .empty
  else if tag.isEmpty then .error (.invalid written .emptyTag)
  else if (segments path).any (·.isEmpty) then .error (.invalid written .emptySegment)
  else
    match ofSegments written defaults (String.ofList tag)
      ((segments path).map String.ofList) with
    | .error e => .error e
    | .ok r =>
      if Glob.isWildcard r.url then .error (.unsupportedWildcard written .registry) else .ok r

def parse (written : String) (defaults : Defaults) : Except Error Reference :=
  parseTrimmed (Text.trim written) defaults

end Reference

end ClusterPlan.Image
