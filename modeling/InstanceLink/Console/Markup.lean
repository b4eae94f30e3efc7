import InstanceLink.Console.Pictogram
import InstanceLink.Console.Style

/-!
# Markup

Tags in square brackets turn styles on and off. Rendering takes the tags out of a
text, replaces names of pictograms and drops control characters; a tag that closes
what is not open is refused. Escaping puts a backslash before everything that would
be a tag.
-/

namespace InstanceLink.Console

/-- Why a text with markup cannot be rendered. -/
inductive MarkupFault where
  /-- A tag closes a style that is not open. -/
  | unmatched (tag : String) (position : Nat)
  /-- A tag closes the last style when none is open. -/
  | nothingOpen (position : Nat)
  deriving DecidableEq, Repr

/-- The wording of a fault. -/
def MarkupFault.message : MarkupFault → String
  | .unmatched tag position =>
    "closing tag '" ++ tag ++ "' at position " ++ toString position ++
      " doesn't match any open tag"
  | .nothingOpen position =>
    "closing tag '[/]' at position " ++ toString position ++ " has nothing to close"

/-- Whether a tag may start with a character. -/
def startsTag (c : Char) : Bool :=
  ('a' ≤ c && c ≤ 'z') || c = '#' || c = '/' || c = '@'

/-- The inside of a tag behind its opening bracket, and what follows the closing
one. No further bracket opens inside a tag. -/
def readTag? (cs : List Char) : Option (List Char × List Char) :=
  match cs with
  | [] => none
  | c :: rest =>
    if startsTag c then
      let inside : Char → Bool := fun d => d != ']' && d != '['
      match rest.dropWhile inside with
      | ']' :: tail => some (c :: rest.takeWhile inside, tail)
      | _ => none
    else none

/-- A tag with the backslashes before it: their number, the inside, and what
follows. -/
def readEscapedTag? (cs : List Char) : Option (Nat × List Char × List Char) :=
  let isSlash : Char → Bool := fun c => c = '\\'
  match cs.dropWhile isSlash with
  | '[' :: tail =>
    (readTag? tail).map fun (body, rest) => ((cs.takeWhile isSlash).length, body, rest)
  | _ => none

/-- The parts of a text with markup. -/
inductive MarkupPart where
  | text (chars : List Char)
  /-- A tag at a position: its name and what stands behind an equals sign. -/
  | tag (position : Nat) (name : List Char) (parameters : Option (List Char))
  deriving DecidableEq, Repr

/-- Characters read so far as a part, unless there are none. -/
def pending (plain : List Char) : List MarkupPart :=
  if plain.isEmpty then [] else [.text plain.reverse]

/-- The inside of a tag split at its first equals sign. -/
def splitTag (body : List Char) : List Char × Option (List Char) :=
  (body.takeWhile fun c => c != '=',
    match body.dropWhile fun c => c != '=' with
    | [] => none
    | _ :: parameters => some parameters)

/-- The parts of a tag behind some backslashes. Each pair of them stands for one; a
single one left over makes plain text of the tag. -/
def tagParts (position slashes : Nat) (body : List Char) : List MarkupPart :=
  let pairs := slashes / 2
  let literal := if pairs = 0 then [] else [MarkupPart.text (List.replicate pairs '\\')]
  if slashes % 2 = 1 then literal ++ [.text ('[' :: body ++ [']'])]
  else
    let (name, parameters) := splitTag body
    literal ++ [.tag (position + 2 * pairs) name parameters]

/-- The parts of a text from a position on, behind what was read of plain text. -/
def partsFrom (position : Nat) (plain cs : List Char) : Nat → List MarkupPart
  | 0 => pending plain
  | fuel + 1 =>
    match cs with
    | [] => pending plain
    | c :: rest =>
      match readEscapedTag? (c :: rest) with
      | some (slashes, body, tail) =>
        let after := position + (cs.length - tail.length)
        pending plain ++ tagParts position slashes body ++ partsFrom after [] tail fuel
      | none => partsFrom (position + 1) (c :: plain) rest fuel

/-- The parts of a text. -/
def parts (cs : List Char) : List MarkupPart := partsFrom 0 [] cs (cs.length + 1)

/-- A bracket that is escaped without being part of a tag is a bracket. -/
def unescapeBrackets : List Char → List Char
  | '\\' :: '[' :: rest => '[' :: unescapeBrackets rest
  | c :: rest => c :: unescapeBrackets rest
  | [] => []

/-- Control characters that are not written: bell, backspace, vertical tabulation,
form feed and carriage return. -/
def isDropped (c : Char) : Bool := [7, 8, 11, 12, 13].contains c.toNat

/-- A part of plain text as it is shown. -/
def shown (cs : List Char) : List Char :=
  (withPictograms (unescapeBrackets cs)).filter fun c => !isDropped c

/-- Close the style that a tag names, the innermost of that name. -/
def close? (styles : List String) (name : String) : Option (List String) :=
  if styles.contains name then some (styles.erase name) else none

/-- A tag as it was written. -/
def tagText (name : List Char) (parameters : Option (List Char)) : String :=
  String.ofList ('[' :: name ++ (parameters.elim [] fun p => '=' :: p) ++ [']'])

/-- Open or close a style, with the open ones from the innermost. -/
def applyTag (styles : List String) (position : Nat) (name : List Char)
    (parameters : Option (List Char)) : Except MarkupFault (List String) :=
  match name with
  | '/' :: rest =>
    let closed := String.ofList (Text.trimBy Text.isBlank rest)
    if closed.isEmpty then
      match styles with
      | _ :: styles => .ok styles
      | [] => .error (.nothingOpen position)
    else
      match close? styles (styleName closed) with
      | some styles => .ok styles
      | none => .error (.unmatched (tagText name parameters) position)
  | name => .ok (styleName (String.ofList name) :: styles)

/-- The text of some parts. -/
def renderParts (styles : List String) : List MarkupPart → Except MarkupFault (List Char)
  | [] => .ok []
  | .text chars :: rest => (renderParts styles rest).map (shown chars ++ ·)
  | .tag position name parameters :: rest => do
    let styles ← applyTag styles position name parameters
    renderParts styles rest

/-- The text that markup shows. -/
def render (cs : List Char) : Except MarkupFault (List Char) := renderParts [] (parts cs)

/-- Plain text from a position on with every tag in it escaped. -/
def escapeFrom (cs : List Char) : Nat → List Char
  | 0 => cs
  | fuel + 1 =>
    match cs with
    | [] => []
    | c :: rest =>
      match readEscapedTag? (c :: rest) with
      | some (slashes, body, tail) =>
        List.replicate (2 * slashes + 1) '\\' ++ '[' :: body ++ ']' :: escapeFrom tail fuel
      | none => c :: escapeFrom rest fuel

/-- A text that ends in one backslash gets a second one. -/
def guardEnd (cs : List Char) : List Char :=
  match cs.reverse with
  | ['\\'] => ['\\', '\\']
  | '\\' :: c :: _ => if c = '\\' then cs else cs ++ ['\\']
  | _ => cs

/-- A plain text as markup that shows it. -/
def escape (cs : List Char) : List Char := guardEnd (escapeFrom cs cs.length)

end InstanceLink.Console
