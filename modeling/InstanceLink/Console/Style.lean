import InstanceLink.Number.Reader
import InstanceLink.Text.Hex
import InstanceLink.Text.LowerCase
import InstanceLink.Text.Words

/-!
# Names of styles

A style is written as words: attributes and their negations, a colour, a colour of
the ground behind it, and an address to link to. Two writings of one style have the
same canonical name, so a style that is opened under one name can be closed under
another. A text that describes no style stands for itself, apart from case.
-/

namespace InstanceLink.Console

/-- The names of attributes, each with the name it goes by. -/
def attributeNames : List (String × String) :=
  [("dim", "dim"), ("d", "dim"), ("bold", "bold"), ("b", "bold"), ("italic", "italic"),
    ("i", "italic"), ("underline", "underline"), ("u", "underline"), ("blink", "blink"),
    ("blink2", "blink2"), ("reverse", "reverse"), ("r", "reverse"), ("conceal", "conceal"),
    ("c", "conceal"), ("strike", "strike"), ("s", "strike"), ("underline2", "underline2"),
    ("uu", "underline2"), ("frame", "frame"), ("encircle", "encircle"),
    ("overline", "overline"), ("o", "overline")]

/-- Attributes in the order of a canonical name. -/
def attributeOrder : List String :=
  ["bold", "dim", "italic", "underline", "blink", "blink2", "reverse", "conceal", "strike",
    "underline2", "frame", "encircle", "overline"]

/-- The colours that have names. -/
def colourNames : String := "
  black red green yellow blue magenta cyan white bright_black bright_red bright_green
  bright_yellow bright_blue bright_magenta bright_cyan bright_white grey0 gray0 navy_blue
  dark_blue blue3 blue1 dark_green deep_sky_blue4 dodger_blue3 dodger_blue2 green4 spring_green4
  turquoise4 deep_sky_blue3 dodger_blue1 green3 spring_green3 dark_cyan light_sea_green
  deep_sky_blue2 deep_sky_blue1 spring_green2 cyan3 dark_turquoise turquoise2 green1
  spring_green1 medium_spring_green cyan2 cyan1 dark_red deep_pink4 purple4 purple3 blue_violet
  orange4 grey37 gray37 medium_purple4 slate_blue3 royal_blue1 chartreuse4 dark_sea_green4
  pale_turquoise4 steel_blue steel_blue3 cornflower_blue chartreuse3 cadet_blue sky_blue3
  steel_blue1 pale_green3 sea_green3 aquamarine3 medium_turquoise chartreuse2 sea_green2
  sea_green1 aquamarine1 dark_slate_gray2 dark_magenta dark_violet purple light_pink4 plum4
  medium_purple3 slate_blue1 yellow4 wheat4 grey53 gray53 light_slate_grey light_slate_gray
  medium_purple light_slate_blue dark_olive_green3 dark_sea_green light_sky_blue3 sky_blue2
  dark_sea_green3 dark_slate_gray3 sky_blue1 chartreuse1 light_green pale_green1
  dark_slate_gray1 red3 medium_violet_red magenta3 dark_orange3 indian_red hot_pink3
  medium_orchid3 medium_orchid medium_purple2 dark_goldenrod light_salmon3 rosy_brown grey63
  gray63 medium_purple1 gold3 dark_khaki navajo_white3 grey69 gray69 light_steel_blue3
  light_steel_blue yellow3 dark_sea_green2 light_cyan3 light_sky_blue1 green_yellow
  dark_olive_green2 dark_sea_green1 pale_turquoise1 deep_pink3 magenta2 hot_pink2 orchid
  medium_orchid1 orange3 light_pink3 pink3 plum3 violet light_goldenrod3 tan misty_rose3
  thistle3 plum2 khaki3 light_goldenrod2 light_yellow3 grey84 gray84 light_steel_blue1 yellow2
  dark_olive_green1 honeydew2 light_cyan1 red1 deep_pink2 deep_pink1 magenta1 orange_red1
  indian_red1 hot_pink dark_orange salmon1 light_coral pale_violet_red1 orchid2 orchid1 orange1
  sandy_brown light_salmon1 light_pink1 pink1 plum1 gold1 navajo_white1 misty_rose1 thistle1
  yellow1 light_goldenrod1 khaki1 wheat1 cornsilk1 grey100 gray100 grey3 gray3 grey7 gray7
  grey11 gray11 grey15 gray15 grey19 gray19 grey23 gray23 grey27 gray27 grey30 gray30 grey35
  gray35 grey39 gray39 grey42 gray42 grey46 gray46 grey50 gray50 grey54 gray54 grey58 gray58
  grey62 gray62 grey66 gray66 grey70 gray70 grey74 gray74 grey78 gray78 grey82 gray82 grey85
  gray85 grey89 gray89 grey93 gray93"

/-- The number between an opening text and a closing bracket. -/
def numberIn? (opening s : String) : Option Nat :=
  if s.startsWith opening && s.endsWith ")" then
    let body := (s.toList.drop opening.length).dropLast
    if body.isEmpty || 3 < body.length then none
    else if body.all Char.isDigit then some (Number.digitsValue body) else none
  else none

/-- Whether three numbers between commas make up a colour. -/
def isTriple (s : String) : Bool :=
  match s.splitOn "," with
  | [r, g, b] => [r, g, b].all fun part =>
    match Number.readInt? part with
    | some n => 0 ≤ n && n ≤ 255
    | none => false
  | _ => false

/-- Whether a word in lower case is a colour. -/
def isColour (s : String) : Bool :=
  s = "default" || (Text.words colourNames).contains s ||
    (s.length = 7 && s.startsWith "#" &&
      (s.toList.drop 1).all fun c => (Text.hexValue? c).isSome) ||
    (numberIn? "color(" s).any (fun n => n ≤ 255) ||
    (s.startsWith "rgb(" && s.endsWith ")" &&
      isTriple (String.ofList ((s.toList.drop 4).dropLast)))

/-- A style as far as its words were read. -/
structure StyleDraft where
  /-- Attributes that were turned on or off; the latest is first. -/
  attributes : List (String × Bool)
  colour : Option String
  ground : Option String
  link : Option String

namespace StyleDraft

/-- A style without properties. -/
def plain : StyleDraft := ⟨[], none, none, none⟩

/-- A text in lower case. -/
def lowered (s : String) : String := String.ofList (Text.lower s.toList)

/-- The words of a style, read one by one; nothing when one of them is no part of a
style. -/
def read? (d : StyleDraft) : List String → Option StyleDraft
  | [] => some d
  | word :: rest =>
    let word := lowered word
    match word, rest with
    | "on", ground :: rest =>
      if isColour (lowered ground) then { d with ground := some (lowered ground) }.read? rest
      else none
    | "on", [] => none
    | "not", negated :: rest =>
      match attributeNames.lookup negated with
      | some name => { d with attributes := (name, false) :: d.attributes }.read? rest
      | none => none
    | "not", [] => none
    | "link", link :: rest => { d with link := some link }.read? rest
    | "link", [] => none
    | word, rest =>
      match attributeNames.lookup word with
      | some name => { d with attributes := (name, true) :: d.attributes }.read? rest
      | none => if isColour word then { d with colour := some word }.read? rest else none

/-- The words of a canonical name. -/
def canonicalWords (d : StyleDraft) : List String :=
  (attributeOrder.filterMap fun name => (d.attributes.lookup name).map fun on =>
    if on then name else "not " ++ name) ++
    d.colour.toList ++ (d.ground.toList.flatMap fun g => ["on", g]) ++
    (d.link.toList.flatMap fun l => ["link", l])

/-- The name of a style without properties. -/
def plainName : String := "none"

end StyleDraft

/-- The canonical name of a style. -/
def styleName (s : String) : String :=
  let parts := Text.words s
  if parts = [StyleDraft.plainName] then StyleDraft.plainName
  else
    match StyleDraft.plain.read? parts with
    | some d =>
      if d.canonicalWords.isEmpty then StyleDraft.plainName
      else " ".intercalate d.canonicalWords
    | none => StyleDraft.lowered (Text.strip s)

end InstanceLink.Console
