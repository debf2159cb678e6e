import ClusterNet.OrderedMap

/-!
# Tags and cluster identity

Objects of a control plane carry tags, pairs of a scope and a value. The tags that this program
puts on an object say which cluster it belongs to.

## Main definitions

* `ControlPlane.Tag` — a tag;
* `ControlPlane.TagSet` — tags by scope, the last one of a scope being the one that counts;
* `ControlPlane.sameTags` — whether two lists of tags make the same set;
* `ControlPlane.ClusterIdentity` — the cluster that an object belongs to.
-/

namespace ClusterNet

namespace ControlPlane

/-- A value under a scope. -/
structure Tag where
  /-- The scope. -/
  scope : String
  /-- The value. -/
  value : String
deriving DecidableEq, Repr, Inhabited

/-- Tags by scope. -/
abbrev TagSet := OrderedMap String String

/-- The tags of a list by scope: the last one of a scope counts. -/
def TagSet.ofTags (tags : List Tag) : TagSet :=
  OrderedMap.ofList (tags.map fun t => (t.scope, t.value))

/-- Whether two lists of tags make the same set. -/
def sameTags (a b : List Tag) : Bool :=
  decide (TagSet.ofTags a = TagSet.ofTags b)

/-- The scope under which the garden is tagged. -/
def gardenScope : String := "garden"

/-- The scope under which the cluster is tagged. -/
def clusterScope : String := "cluster"

/-- The garden and the cluster that a set of objects belongs to. -/
structure ClusterIdentity where
  /-- The garden. -/
  gardenId : String
  /-- The cluster within the garden. -/
  clusterName : String
deriving DecidableEq, Repr, Inhabited

namespace ClusterIdentity

/-- The tags put on every object of the cluster. -/
def tags (i : ClusterIdentity) : List Tag :=
  [⟨gardenScope, i.gardenId⟩, ⟨clusterScope, i.clusterName⟩]

/-- Whether the tags say that an object belongs to the cluster. -/
def isTagged (i : ClusterIdentity) (tags : List Tag) : Bool :=
  let set := TagSet.ofTags tags
  set.find? gardenScope == some i.gardenId && set.find? clusterScope == some i.clusterName

end ClusterIdentity

end ControlPlane

end ClusterNet
