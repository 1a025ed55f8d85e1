import ClusterPlan.Text.Lowercase

/-!
# Names of artifacts

Names that are valid as host names, as names of compose services and as identifiers of resources,
made from arbitrary names.
-/

namespace ClusterPlan.Naming

/-- Lower case letters and digits, the characters that every artifact name keeps. -/
def isPlain (c : Char) : Bool := ('a' ≤ c && c ≤ 'z') || c.isDigit

/-- The longest label of a domain name. -/
def labelLimit : Nat := 63

/-- At least two characters, letters, digits and dashes, with no dash at either end. -/
def isHostname (name : String) : Bool :=
  match name.toList with
  | first :: rest =>
    match rest.getLast? with
    | some last =>
      isPlain first && isPlain last && rest.all fun c ↦ isPlain c || c == '-'
    | none => false
  | [] => false

/-- Replace every other character by a dash, a run of them by one. -/
def dashed : List Char → List Char → List Char
  | reversed, [] => reversed.reverse
  | reversed, c :: rest =>
    if isPlain c then dashed (c :: reversed) rest
    else if reversed.head? == some '-' then dashed reversed rest
    else dashed ('-' :: reversed) rest

def dropDashes (cs : List Char) : List Char := cs.dropWhile (· == '-')

def dropEndDashes (cs : List Char) : List Char := (dropDashes cs.reverse).reverse

/-- In lower case, with one dash for each run of other characters, none of them at an end, and no
longer than a label. -/
def sanitize (name : String) : String :=
  let out := dashed [] (name.toList.flatMap Text.lowercaseChar)
  let trimmed := dropEndDashes (dropDashes out)
  String.ofList (dropEndDashes (trimmed.take labelLimit))

/-- A sanitized name with underscores for dashes, which never starts with a digit. -/
def identifier (name : String) : String :=
  let id := (sanitize name).toList.map fun c ↦ if c = '-' then '_' else c
  match id with
  | [] => "r_"
  | c :: _ => if c.isDigit then "r_" ++ String.ofList id else String.ofList id

end ClusterPlan.Naming
