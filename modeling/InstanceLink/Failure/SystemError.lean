import InstanceLink.Field.Value

/-!
# Failures of the operating system

Classes of system failures, the class of an error number, and the text of a
failure: the number in brackets, what went wrong, and the file concerned.
-/

namespace InstanceLink

/-- The classes of system failures. -/
inductive SystemKind where
  | general
  | blocking
  | brokenPipe
  | childProcess
  /-- A broken connection of no closer kind. -/
  | connection
  | connectionAborted
  | connectionRefused
  | connectionReset
  | fileExists
  | fileNotFound
  | interrupted
  | isDirectory
  | notDirectory
  | permission
  | processNotFound
  | timedOut
  /-- A failure of the secure transport. -/
  | secureTransport
  deriving DecidableEq, Repr

namespace SystemKind

/-- The error numbers with a class of their own. -/
def byNumber : List (Int × SystemKind) :=
  [(1, .permission), (2, .fileNotFound), (3, .processNotFound), (4, .interrupted),
    (10, .childProcess), (11, .blocking), (13, .permission), (17, .fileExists),
    (20, .notDirectory), (21, .isDirectory), (32, .brokenPipe), (103, .connectionAborted),
    (104, .connectionReset), (108, .brokenPipe), (110, .timedOut), (111, .connectionRefused),
    (114, .blocking), (115, .blocking)]

/-- The error number that a value stands for. -/
def number? : FieldValue → Option Int
  | .int number => some number
  | .bool value => some (if value then 1 else 0)
  | _ => none

/-- The class of a general failure that names an error number and a text, and at most
three further arguments. -/
def ofArguments : List FieldValue → SystemKind
  | number :: _ :: more =>
    if more.length ≤ 3 then ((number? number).bind fun n => byNumber.lookup n).getD .general
    else .general
  | _ => .general

/-- Whether the third argument of a failure names a file. For a call that would block
it may count characters instead. -/
def namesFile (kind : SystemKind) : FieldValue → Bool
  | .null => false
  | .int _ | .bool _ => kind != .blocking
  | _ => true

/-- The files concerned, from the arguments behind the text of a failure: the first
of them and the third. -/
def filesText (kind : SystemKind) : List FieldValue → String
  | [] => ""
  | file :: more =>
    if kind.namesFile file then
      ": " ++ file.literal ++
        match more with
        | [_, .null] => ""
        | [_, second] => " -> " ++ second.literal
        | _ => ""
    else ""

end SystemKind

/-- A failure's arguments without any known form: none is empty, one stands for
itself, several are a group. -/
def argumentsText : List FieldValue → String
  | [] => ""
  | [value] => value.display
  | values => FieldValue.literalGroup values

/-- The text of a system failure. -/
def SystemKind.text (kind : SystemKind) (arguments : List FieldValue) : String :=
  match arguments with
  | number :: reason :: more =>
    if 3 < more.length then argumentsText arguments
    else if kind = .secureTransport then
      match reason, more with
      | .text reason, _ => reason
      | reason, file :: _ =>
        FieldValue.literalGroup (if kind.namesFile file then [number, reason] else arguments)
      | _, [] => FieldValue.literalGroup arguments
    else "[Errno " ++ number.display ++ "] " ++ reason.display ++ kind.filesText more
  | values =>
    if kind = .secureTransport then FieldValue.literalGroup values else argumentsText values

end InstanceLink
