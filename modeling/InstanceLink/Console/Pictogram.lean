import InstanceLink.Console.PictogramData
import InstanceLink.Text.Words
import InstanceLink.Text.Hex
import InstanceLink.Text.LowerCase

/-!
# Pictograms in texts

A name between colons is replaced by the pictogram it stands for. Behind the name
may stand the wish to draw it as text or as a picture. A name that stands for
nothing stays as it is, and the search goes on behind it.
-/

namespace InstanceLink.Console

/-- The pictograms by name. -/
def pictograms : List (String × String) :=
  (Text.words pictogramData).filterMap fun entry =>
    match entry.splitOn "=" with
    | [name, codes] =>
      some (name, String.ofList ((codes.splitOn "-").map fun code =>
        Char.ofNat ((Text.readHex? code.toList).getD 0)))
    | _ => none

/-- The ways of drawing a pictogram that can be asked for, with the characters that
ask a screen for them. -/
def drawings : List (List Char × Char) :=
  [("-emoji:".toList, '\ufe0f'), ("-text:".toList, '\ufe0e')]

/-- A name behind a colon: the name, the drawing asked for, and what follows the
closing colon. A blank ends the search. -/
def readName? (name : List Char) : List Char → Option (List Char × Option Char × List Char)
  | [] => none
  | c :: rest =>
    match drawings.find? fun d => d.1.isPrefixOf (c :: rest) with
    | some (mark, drawing) => some (name.reverse, some drawing, (c :: rest).drop mark.length)
    | none =>
      if c = ':' then some (name.reverse, none, rest)
      else if Text.isBlank c then none
      else readName? (c :: name) rest

/-- The pictogram of a name. -/
def pictogram? (name : List Char) : Option (List Char) :=
  (pictograms.lookup (String.ofList (Text.lower name))).map String.toList

/-- Replace the names in a text, with fuel for its length. -/
def replaceNames : Nat → List Char → List Char
  | 0, cs => cs
  | _, [] => []
  | fuel + 1, c :: cs =>
    if c = ':' then
      match readName? [] cs with
      | none => c :: replaceNames fuel cs
      | some (name, drawing, rest) =>
        let shown :=
          match pictogram? name with
          | some picture => picture ++ drawing.toList
          | none => c :: cs.take (cs.length - rest.length)
        shown ++ replaceNames fuel rest
    else c :: replaceNames fuel cs

/-- A text with its names replaced. -/
def withPictograms (cs : List Char) : List Char := replaceNames cs.length cs

/-- A text without a colon has no names. -/
theorem withPictograms_of_no_colon {cs : List Char} (h : ':' ∉ cs) : withPictograms cs = cs := by
  unfold withPictograms
  induction cs with
  | nil => rfl
  | cons c cs ih =>
    simp only [List.mem_cons, not_or] at h
    simp [replaceNames, Ne.symm h.1, ih h.2]

end InstanceLink.Console
