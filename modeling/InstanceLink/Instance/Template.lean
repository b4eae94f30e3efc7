import InstanceLink.Instance.Name

/-!
# The shape of a written name

A written name is matched against the four marks with a part of at least one
character before or between them. Each part is as short as the rest of the match
allows, and no part holds a line break.
-/

namespace InstanceLink.Template

/-- The shortest part that is followed by a mark and a rest that matches. `taken`
holds the characters of the part so far, newest first. -/
def upTo {α : Type} (mark : List Char) (next : List Char → Option α) (taken : List Char) :
    List Char → Option (List Char × α)
  | [] => none
  | c :: rest =>
    if c = '\n' then none
    else
      let here :=
        if mark.isPrefixOf rest then
          (next (rest.drop mark.length)).map fun found => ((c :: taken).reverse, found)
        else none
      match here with
      | some found => some found
      | none => upTo mark next (c :: taken) rest

/-- The last part: everything up to the end, or up to a single final line break. -/
def toEnd (cs : List Char) : Option (List Char) :=
  let part := if cs.getLast? = some '\n' then cs.dropLast else cs
  if part.isEmpty || part.contains '\n' then none else some part

/-- The four parts of a name. -/
structure Parts where
  project : String
  location : String
  cluster : String
  leaf : String
  deriving DecidableEq, Repr

/-- The parts of a text that has the shape of a name. -/
def parts? (s : String) : Option Parts :=
  let cs := s.toList
  let start := InstanceName.projectMark.toList
  if start.isPrefixOf cs then
    let cluster := upTo InstanceName.leafMark.toList toEnd []
    let location := upTo InstanceName.clusterMark.toList cluster []
    let project := upTo InstanceName.locationMark.toList location []
    (project (cs.drop start.length)).map fun (project, location, cluster, leaf) =>
      ⟨String.ofList project, String.ofList location, String.ofList cluster, String.ofList leaf⟩
  else none

end InstanceLink.Template
