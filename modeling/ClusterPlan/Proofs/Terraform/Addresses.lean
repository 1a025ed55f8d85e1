import ClusterPlan.Proofs.Sequence
import ClusterPlan.Terraform.Resource

/-!
# Addresses in documents

A resource is found in a document under its type and its identifier. A document whose types are all
different has exactly the resources that it is made from.
-/

namespace ClusterPlan

namespace Json

/-- The value at the end of a path of names. -/
def at? (json : Json) : List String → Option Json
  | [] => some json
  | name :: rest => (json.get? name).bind (·.at? rest)

theorem get?_single (name : String) (value : Json) (other : String) :
    (Terraform.single name value).get? other = if name = other then some value else none := by
  rw [Terraform.single, get?, List.reverse_singleton, List.find?_singleton]
  split
  next h =>
    rw [if_pos (beq_iff_eq.mp h)]
    rfl
  next h =>
    rw [if_neg fun heq ↦ h (beq_iff_eq.mpr heq)]
    rfl

end Json

namespace Terraform

/-- The type of a resource and its identifier. -/
abbrev Address : Type := String × String

/-- Whether a document has a resource at an address. -/
def Holds (json : Json) (address : Address) : Prop :=
  (json.at? ["resource", address.1, address.2]).isSome

/-- The address of a resource as it is put into a document. -/
def addressOf (resource : String × String × List (String × Json)) : Address :=
  (resource.1, resource.2.1)

section Resources

variable {all : List (String × String × List (String × Json))}

theorem at?_resources (type id : String) (path : List String) :
    (resources all).at? ("resource" :: type :: id :: path) =
      (all.reverse.find? (·.1 == type)).bind fun r ↦
        if r.2.1 = id then (Json.object r.2.2).at? path else none := by
  have htype : ((fun field : String × Json ↦ field.1 == type) ∘
      fun (type, id, fields) ↦ (type, single id (.object fields))) = (·.1 == type) := rfl
  rw [Json.at?, resources, Json.get?_single, if_pos rfl, Option.bind_some, Json.at?, Json.get?,
    ← List.map_reverse, List.find?_map, Option.map_map, Option.bind_map, htype]
  congr 1
  funext r
  rw [Function.comp_apply, Function.comp_apply, Json.at?, Json.get?_single]
  split
  · rfl
  · rfl

theorem find?_reverse_of_mem (h : (all.map (·.1)).Nodup)
    {r : String × String × List (String × Json)} (hr : r ∈ all) :
    all.reverse.find? (·.1 == r.1) = some r := by
  have hreverse : (all.reverse.map (·.1)).Nodup := by rwa [List.map_reverse, List.nodup_reverse]
  exact (find?_eq_some_iff_of_nodup hreverse).mpr ⟨List.mem_reverse.mpr hr, rfl⟩

/-- What a document has under the address of a resource is this resource. -/
theorem at?_of_mem (h : (all.map (·.1)).Nodup) {type id : String} {fields : List (String × Json)}
    (hr : (type, id, fields) ∈ all) (path : List String) :
    (resources all).at? ("resource" :: type :: id :: path) = (Json.object fields).at? path := by
  rw [at?_resources, find?_reverse_of_mem h hr, Option.bind_some, if_pos rfl]

theorem at?_resources_singleton (type id : String) (fields : List (String × Json))
    (path : List String) :
    (resources [(type, id, fields)]).at? ("resource" :: type :: id :: path) =
      (Json.object fields).at? path := by
  apply at?_of_mem
  · exact List.nodup_singleton type
  · exact .head _

theorem holds_resources_iff (h : (all.map (·.1)).Nodup) (address : Address) :
    Holds (resources all) address ↔ address ∈ all.map addressOf := by
  rw [Holds, at?_resources, List.mem_map]
  constructor
  · intro hsome
    obtain ⟨json, hjson⟩ := Option.isSome_iff_exists.mp hsome
    obtain ⟨r, hfound, hr⟩ := Option.bind_eq_some_iff.mp hjson
    have hbeq := List.find?_some hfound
    have htype : r.1 = address.1 := beq_iff_eq.mp hbeq
    refine ⟨r, List.mem_reverse.mp (List.mem_of_find?_eq_some hfound), ?_⟩
    split at hr
    next hid => exact Prod.ext htype hid
    next => cases hr
  · intro hmem
    obtain ⟨r, hr, haddress⟩ := hmem
    rw [← haddress, addressOf, find?_reverse_of_mem h hr, Option.bind_some, if_pos rfl]
    rfl

end Resources

end Terraform

end ClusterPlan
