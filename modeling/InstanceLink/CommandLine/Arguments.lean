import InstanceLink.CommandLine.Flag
import InstanceLink.Number.Reader
import InstanceLink.Text.Quoted

/-!
# Reading arguments

Every argument is sorted first: a flag under one of its spellings or under a unique
abbreviation, an unknown flag, a value, or the mark that ends all flags. Then flags
take effect in the order given, each with the value it takes; the first fault or
request for help ends the reading. Values that no flag takes are refused at the end.
-/

namespace InstanceLink.CommandLine

/-- Why arguments are refused. -/
inductive ArgumentFault where
  /-- An abbreviation of several spellings. -/
  | ambiguous (given : String) (spellings : List String)
  /-- A value for a flag that takes none. -/
  | uselessValue (flag : Flag) (given : String)
  /-- No value for a flag that takes one. -/
  | missingValue (flag : Flag)
  /-- A value that is no whole number. -/
  | notWhole (flag : Flag) (given : String)
  /-- A value that is no decimal number. -/
  | notDecimal (flag : Flag) (given : String)
  /-- Arguments that nothing takes. -/
  | unrecognized (given : List String)
  deriving DecidableEq, Repr

/-- A fault of one flag in words. -/
def aboutFlag (f : Flag) (what : String) : String := "argument " ++ f.label ++ ": " ++ what

/-- The wording of a fault. -/
def ArgumentFault.message : ArgumentFault → String
  | .ambiguous given spellings =>
    "ambiguous option: " ++ given ++ " could match " ++ ", ".intercalate spellings
  | .uselessValue f given => aboutFlag f ("ignored explicit argument " ++ Text.quoted given)
  | .missingValue f => aboutFlag f "expected one argument"
  | .notWhole f given => aboutFlag f ("invalid int value: " ++ Text.quoted given)
  | .notDecimal f given => aboutFlag f ("invalid float value: " ++ Text.quoted given)
  | .unrecognized given => "unrecognized arguments: " ++ " ".intercalate given

/-- What is attached to a flag in its own argument. -/
inductive Attached where
  | nothing
  /-- Text behind an equals sign. -/
  | assigned (text : List Char)
  /-- Text right behind a flag of a single letter. -/
  | glued (text : List Char)
  deriving DecidableEq, Repr

/-- What an argument is. -/
inductive ArgumentKind where
  | value
  /-- The mark behind which there are no flags. -/
  | mark
  | unknownFlag
  | flag (flag : Flag) (short : Bool) (attached : Attached)
  deriving DecidableEq, Repr

/-- Whether a spelling is a single letter behind a dash. -/
def isShort (spelling : String) : Bool := spelling.length = 2

/-- Digits of any script. -/
def allDigits (cs : List Char) : Bool := cs.all fun c => (Text.decimalValue? c).isSome

/-- Whether an argument is a negative number in plain notation: digits, or a fraction.
A line mark at the end does not count. -/
def isNegativeNumber (cs : List Char) : Bool :=
  let cs := if cs.getLast? = some '\n' then cs.dropLast else cs
  match cs with
  | '-' :: body =>
    match body.dropWhile fun c => c != '.' with
    | [] => !body.isEmpty && allDigits body
    | _ :: fraction =>
      allDigits (body.takeWhile fun c => c != '.') && !fraction.isEmpty && allDigits fraction
  | _ => false

/-- An argument split at its first equals sign. -/
def splitAssigned (cs : List Char) : String × Attached :=
  (String.ofList (cs.takeWhile fun c => c != '='),
    match cs.dropWhile fun c => c != '=' with
    | [] => .nothing
    | _ :: text => .assigned text)

/-- The flags an argument may abbreviate. -/
def abbreviated (cs : List Char) : List (String × ArgumentKind) :=
  match cs with
  | '-' :: '-' :: _ =>
    let (front, attached) := splitAssigned cs
    (Flag.spelled.filter fun entry => entry.1.startsWith front).map fun (spelling, f) =>
      (spelling, .flag f false attached)
  | dash :: letter :: text =>
    let front := String.ofList [dash, letter]
    (Flag.spelled.filter fun entry => entry.1 = front).map fun (spelling, f) =>
      (spelling, .flag f true (.glued text))
  | _ => []

/-- What an argument that is not spelled out is. -/
def kindOfRest (s : String) : Except ArgumentFault ArgumentKind :=
  match abbreviated s.toList with
  | [(_, kind)] => .ok kind
  | [] =>
    if isNegativeNumber s.toList || s.toList.contains ' ' then .ok .value else .ok .unknownFlag
  | several => .error (.ambiguous s (several.map Prod.fst))

/-- What an argument is. -/
def kindOf (s : String) : Except ArgumentFault ArgumentKind :=
  if !s.startsWith "-" || s.length = 1 then .ok .value
  else
    match Flag.spelled.lookup s with
    | some f => .ok (.flag f (isShort s) .nothing)
    | none =>
      match splitAssigned s.toList with
      | (_, .nothing) => kindOfRest s
      | (front, attached) =>
        match Flag.spelled.lookup front with
        | some f => .ok (.flag f (isShort front) attached)
        | none => kindOfRest s

/-- The mark behind which there are no flags. -/
def endMark : String := "--"

/-- All arguments with what they are. -/
def kinds : List String → Except ArgumentFault (List (String × ArgumentKind))
  | [] => .ok []
  | s :: rest =>
    if s = endMark then .ok ((s, .mark) :: rest.map fun v => (v, .value))
    else do
      let kind ← kindOf s
      return (s, kind) :: (← kinds rest)

/-- The settings that arguments make. -/
structure Settings where
  instanceText : Option String
  timeout : Binary64
  maxWorkers : Option Int
  retry : Bool
  json : Bool
  verbose : Bool
  deriving DecidableEq

/-- The timeout in seconds when none is given. -/
def standardTimeout : Nat := 30

/-- The settings without any argument. -/
def Settings.standard : Settings :=
  ⟨none, Binary64.ofDecimal false standardTimeout 0, none, false, false, false⟩

/-- What ends the reading of arguments early. -/
inductive ArgumentStop where
  | help
  | version
  | refused (fault : ArgumentFault)
  deriving DecidableEq, Repr

/-- The effect of a flag that takes no value. -/
def Settings.turnOn (s : Settings) : Flag → Except ArgumentStop Settings
  | .help => .error .help
  | .version => .error .version
  | .retry => .ok { s with retry := true }
  | .json => .ok { s with json := true }
  | .verbose => .ok { s with verbose := true }
  | f => .error (.refused (.missingValue f))

/-- The effect of a flag with its value. -/
def Settings.give (s : Settings) (f : Flag) (value : String) : Except ArgumentStop Settings :=
  match f with
  | .instanceName => .ok { s with instanceText := some value }
  | .timeout =>
    match Number.readDecimal? value with
    | some x => .ok { s with timeout := x }
    | none => .error (.refused (.notDecimal f value))
  | .maxWorkers =>
    match Number.readInt? value with
    | some n => .ok { s with maxWorkers := some n }
    | none => .error (.refused (.notWhole f value))
  | f => .error (.refused (.uselessValue f value))

/-- The flags bundled in one argument behind a first one of a single letter, and the
rest of it from a letter on that is no flag. -/
def bundled (f : Flag) (isAssigned : Bool) (text : List Char) :
    Except ArgumentFault (List Flag × Option String) :=
  match text with
  | [] => .error (.uselessValue f "")
  | c :: rest =>
    if isAssigned || c = '-' then .error (.uselessValue f (String.ofList text))
    else
      match Flag.spelled.lookup (String.ofList ['-', c]) with
      | none => .ok ([f], some (String.ofList ('-' :: text)))
      | some next =>
        match rest with
        | [] => .ok ([f, next], none)
        | '=' :: value => (bundled next true value).map fun (row, left) => (f :: row, left)
        | d :: more => (bundled next false (d :: more)).map fun (row, left) => (f :: row, left)

/-- A flag of which something is attached takes effect; what is no flag is left. -/
def Settings.attach (s : Settings) (f : Flag) (short : Bool) (isAssigned : Bool)
    (text : List Char) : Except ArgumentStop (Settings × List String) :=
  if f.takesValue then (s.give f (String.ofList text)).map fun s => (s, [])
  else if short then
    match bundled f isAssigned text with
    | .error fault => .error (.refused fault)
    | .ok (row, left) => (row.foldlM Settings.turnOn s).map fun s => (s, left.toList)
  else .error (.refused (.uselessValue f (String.ofList text)))

/-- Arguments take effect one after the other. The result holds what nothing takes. -/
def readFrom (s : Settings) (left : List String) :
    List (String × ArgumentKind) → Except ArgumentStop (Settings × List String)
  | [] => .ok (s, left)
  | (_, .flag f short (.assigned text)) :: rest => do
    let (s, more) ← s.attach f short true text
    readFrom s (left ++ more) rest
  | (_, .flag f short (.glued text)) :: rest => do
    let (s, more) ← s.attach f short false text
    readFrom s (left ++ more) rest
  | [(_, .flag f _ .nothing)] => do
    if f.takesValue then .error (.refused (.missingValue f))
    else return (← s.turnOn f, left)
  | (_, .flag f _ .nothing) :: (value, kind) :: rest => do
    if f.takesValue then
      if kind = .value then readFrom (← s.give f value) left rest
      else .error (.refused (.missingValue f))
    else readFrom (← s.turnOn f) left ((value, kind) :: rest)
  | (given, _) :: rest => readFrom s (left ++ [given]) rest

/-- The settings that arguments make, or what ends their reading. -/
def readArguments (arguments : List String) : Except ArgumentStop Settings := do
  match kinds arguments with
  | .error fault => .error (.refused fault)
  | .ok sorted =>
    let (s, left) ← readFrom .standard [] sorted
    if left.isEmpty then return s else .error (.refused (.unrecognized left))

/-- No arguments make the standard settings. -/
theorem readArguments_nil : readArguments [] = .ok .standard := rfl

end InstanceLink.CommandLine
