import ClusterPlan.Image.Reference
import ClusterPlan.Naming
import ClusterPlan.Template.Value

/-!
# Images

A concrete image of a service. Its name is the name of its compose service: it carries all parts of
the reference, the default registry left out.
-/

namespace ClusterPlan

structure Image where
  service : String
  reference : Image.Reference
  deriving Repr, DecidableEq

namespace Image

open Template

def hostPart (r : Reference) : String :=
  if r.url = defaultRegistry then "" else r.url ++ "-"

def name (image : Image) : String :=
  let r := image.reference
  Naming.sanitize
    (image.service ++ "-" ++ hostPart r ++ r.org ++ "-" ++ r.repo ++ "-" ++ r.tag)

/-- The reference in full, as a container runtime takes it. -/
def qualified (image : Image) : String := image.reference.text

/-- The binding of an image. -/
def toValue (image : Image) : Value :=
  let r := image.reference
  Value.ofFields
    [("name", .string image.name), ("service", .string image.service), ("url", .string r.url),
      ("org", .string r.org), ("repo", .string r.repo), ("tag", .string r.tag),
      ("reference", .string image.qualified)]

end Image

end ClusterPlan
