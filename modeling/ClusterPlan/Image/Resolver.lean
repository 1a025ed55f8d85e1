import ClusterPlan.Activity
import ClusterPlan.Image.Basic

/-!
# Resolving references

A reference with stars stands for all packages and tags that its patterns match among those that a
registry lists. A reference without stars stands for itself, and nothing is asked.
-/

namespace ClusterPlan.Image

/-- The packages of the organizations of one registry, and the tags of packages. -/
structure Listing (κ : Type) where
  host : String
  packages : (org : String) → Activity κ Error (List String)
  tags : (org package : String) → Activity κ Error (List String)

namespace Listing

variable {κ : Type}

/-- A registry that cannot be asked, for want of the token in a variable. -/
def withoutToken (host tokenVariable : String) : Listing κ :=
  ⟨host, fun _ ↦ .fail (.missingCredentials tokenVariable),
    fun _ _ ↦ .fail (.missingCredentials tokenVariable)⟩

def repositories (listing : Listing κ) (r : Reference) : Activity κ Error (List String) :=
  if Glob.isWildcard r.repo then
    (listing.packages r.org).andThen fun packages ↦ pure (Glob.keep r.repo packages)
  else pure [r.repo]

/-- The references into one repository. -/
def tagged (listing : Listing κ) (r : Reference) (repo : String) :
    Activity κ Error (List Reference) :=
  if Glob.isWildcard r.tag then
    (listing.tags r.org repo).andThen fun tags ↦
      pure ((Glob.keep r.tag tags).map (r.withTag repo))
  else pure [r.withTag repo r.tag]

def expandWildcards (listing : Listing κ) (r : Reference) : Activity κ Error (List Reference) :=
  (listing.repositories r).andThen fun repos ↦
    (Activity.join (repos.map (listing.tagged r))).andThen fun found ↦
      if found.flatten.isEmpty then .fail (.noMatch r.text) else pure found.flatten

/-- The concrete references that a reference stands for. -/
def expand (listing : Listing κ) (r : Reference) : Activity κ Error (List Reference) :=
  if !r.hasWildcard then pure [r]
  else if Glob.isWildcard r.org then .fail (.unsupportedWildcard r.text .organization)
  else if r.url ≠ listing.host then .fail (.unsupportedRegistry r.url listing.host)
  else listing.expandWildcards r

end Listing

def parseAll (defaults : Defaults) : List String → Except Error (List Reference)
  | [] => .ok []
  | written :: rest =>
    match Reference.parse written defaults with
    | .error e => .error e
    | .ok r => (parseAll defaults rest).map (r :: ·)

/-- The references without repetitions, each in the place of its first occurrence. -/
def distinct (kept : List Reference) : List Reference → List Reference
  | [] => kept
  | r :: rest => distinct (if kept.contains r then kept else kept ++ [r]) rest

/-- The images that the references of a service stand for. -/
def Listing.images {κ : Type} (listing : Listing κ) (service : String) (written : List String)
    (defaults : Defaults) : Activity κ Error (List Image) :=
  (Activity.ofExcept (parseAll defaults written)).andThen fun references ↦
    (Activity.join (references.map listing.expand)).andThen fun found ↦
      pure ((distinct [] found.flatten).map (⟨service, ·⟩))

end ClusterPlan.Image
