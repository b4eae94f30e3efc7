/-!
# Instance names

An instance is named by four segments: project, location, cluster and instance.
A segment is any text that is not empty and holds no slash, so the written name
and the name of the cluster above it determine their segments.
-/

namespace InstanceLink

/-- Whether a text can be one segment of a resource name. -/
def isSegment (s : String) : Bool := !s.isEmpty && !s.toList.contains '/'

/-- One segment of a resource name. -/
structure Segment where
  text : String
  valid : isSegment text = true
  deriving DecidableEq

/-- The full name of an instance. -/
structure InstanceName where
  project : Segment
  location : Segment
  cluster : Segment
  /-- The last segment, the instance within its cluster. -/
  leaf : Segment
  deriving DecidableEq

namespace Segment

/-- A text as a segment, when it can be one. -/
def ofText? (s : String) : Option Segment := if h : isSegment s = true then some ⟨s, h⟩ else none

/-- A segment is read back from its own text. -/
theorem ofText?_text (s : Segment) : ofText? s.text = some s := by
  simp only [ofText?, s.valid, dite_true]

/-- Segments with the same text are the same. -/
theorem eq_of_text_eq {a b : Segment} (h : a.text = b.text) : a = b := by
  cases a
  cases b
  cases h
  rfl

end Segment

namespace InstanceName

/-- The marks that stand before the four segments. -/
def projectMark : String := "projects/"

/-- The mark between project and location. -/
def locationMark : String := "/locations/"

/-- The mark between location and cluster. -/
def clusterMark : String := "/clusters/"

/-- The mark between cluster and instance. -/
def leafMark : String := "/instances/"

/-- The written name of the cluster an instance belongs to. -/
def clusterName (n : InstanceName) : String :=
  projectMark ++ n.project.text ++ locationMark ++ n.location.text ++ clusterMark ++
    n.cluster.text

/-- The written name. -/
def text (n : InstanceName) : String := n.clusterName ++ leafMark ++ n.leaf.text

/-- The written name is the cluster's name with the instance behind it. -/
theorem text_eq (n : InstanceName) : n.text = n.clusterName ++ leafMark ++ n.leaf.text := rfl

end InstanceName

end InstanceLink
