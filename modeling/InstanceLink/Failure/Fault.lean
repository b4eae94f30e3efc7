import InstanceLink.Certificate.DistinguishedName
import InstanceLink.Certificate.Reader
import InstanceLink.Failure.CallError
import InstanceLink.Failure.SystemError
import InstanceLink.Instance.Reader
import InstanceLink.Key.Pem

/-!
# Faults

Everything that can be raised while a connection is prepared: classified
connector errors, error answers, faults of the library's own parts, and failures
of the world outside. A fault from outside may be of a class that belongs to several
families at once and raises a further fault when it is asked for its text or its code.
-/

namespace InstanceLink

/-- The classes of connector errors. -/
inductive ConnectorClass where
  /-- The request can never succeed as issued. -/
  | terminal
  /-- The request may succeed when it is repeated. -/
  | transient
  /-- Neither was decided. -/
  | bare
  deriving DecidableEq, Repr

/-- What can be seen of every fault of a class of its own, over a type of causes. -/
structure OwnClassOf (Cause : Type) where
  /-- Its text, or the fault that writing it raises. -/
  text : Except Cause String
  /-- Whether it reports cancelled work. -/
  isCancelled : Bool
  /-- Whether it reports a deadline that passed. -/
  isDeadline : Bool
  /-- Whether it is a failure of the operating system, as every passed deadline is. -/
  isSystem : Bool

namespace OwnClassOf

variable {Cause : Type}

/-- The fault that writing a fault raises. -/
def textFault? (x : OwnClassOf Cause) : Option Cause :=
  match x.text with
  | .ok _ => none
  | .error cause => some cause

/-- The text of a fault, which is empty where writing it raises a fault. -/
def shownText (x : OwnClassOf Cause) : String := x.text.toOption.getD ""

end OwnClassOf

/-- The sorts of connector errors, over a type of causes. -/
inductive ConnectorSortOf (Cause : Type) where
  | known (kind : ConnectorClass)
  /-- A class of its own below the known ones, which may be both terminal and transient. Its
  classification is asked for apart: whether that is the terminal one, or the fault that asking
  raises. -/
  | own (traits : OwnClassOf Cause) (isTerminal isTransient : Bool)
    (classification : Except Cause Bool)

instance {Cause : Type} : Coe ConnectorClass (ConnectorSortOf Cause) := ⟨.known⟩

/-- The closest of the known classes that a sort belongs to. -/
def ConnectorSortOf.kind {Cause : Type} : ConnectorSortOf Cause → ConnectorClass
  | .known kind => kind
  | .own _ true _ _ => .terminal
  | .own _ false true _ => .transient
  | .own _ false false _ => .bare

/-- A connector error over a type of causes. -/
structure ConnectorErrorOf (Cause : Type) where
  sort : ConnectorSortOf Cause
  message : String
  status : StatusCode
  cause : Option Cause
  /-- Whether the error was raised while its cause was handled. -/
  chained : Bool

namespace ConnectorErrorOf

variable {Cause : Type}

/-- The closest of the known classes that an error belongs to. -/
def kind (e : ConnectorErrorOf Cause) : ConnectorClass := e.sort.kind

/-- What can be seen of an error of a class of its own. -/
def own? (e : ConnectorErrorOf Cause) : Option (OwnClassOf Cause) :=
  match e.sort with
  | .known _ => none
  | .own traits _ _ _ => some traits

/-- Whether an error belongs to the transient ones. -/
def isTransient (e : ConnectorErrorOf Cause) : Bool :=
  match e.sort with
  | .known kind => kind = .transient
  | .own _ _ isTransient _ => isTransient

/-- The fault that writing an error raises. -/
def textFault? (e : ConnectorErrorOf Cause) : Option Cause := e.own?.bind OwnClassOf.textFault?

/-- The text of an error: its message, unless its class writes another. -/
def text (e : ConnectorErrorOf Cause) : String := e.own?.elim e.message OwnClassOf.shownText

end ConnectorErrorOf

/-- The families of outside failures that are told apart, over a type of causes. -/
inductive OutsideFamilyOf (Cause : Type) where
  /-- A request to stop the whole program; ordinary handlers let it pass. -/
  | stop
  /-- A cancelled piece of work. -/
  | cancelled
  /-- A missing key, whose text is quoted. -/
  | lookup
  | plain
  /-- A class of its own, below those that ordinary handlers catch. It may be an error answer,
  with its status code and its HTTP code, and a remote call that can be asked for a code, which
  counts when it is a status code; asking raises a fault where it gives none. -/
  | own (traits : OwnClassOf Cause)
    (answer : Option (Except Cause (Option StatusCode × Option Int)))
    (code : Option (Except Cause (Option StatusCode)))

/-- A fault. -/
inductive Fault where
  /-- An error answer of the Admin API. -/
  | call (error : CallError)
  /-- A failed remote call. `coded` tells whether it can be asked for a code, and
  `status` is its answer when that is a status code. -/
  | remote (coded : Bool) (status : Option StatusCode) (message : String)
  | connector (error : ConnectorErrorOf Fault)
  /-- Octets or a text that are no certificate. -/
  | certificate (cause : CertificateRefusal)
  /-- A response without any certificate. -/
  | emptyChain
  /-- A construction with faulty fields. -/
  | fields (report : FieldReport)
  /-- A text that is no instance name. -/
  | instanceName (cause : InstanceRefusal)
  /-- Numbers that are no public key. -/
  | keyNumbers (cause : RsaKey.Refusal)
  /-- A text that is no public key. -/
  | keyText (cause : KeyBlock.Refusal)
  /-- A name that cannot be decoded. -/
  | distinguishedName (cause : NameRefusal)
  /-- An instant in the year zero. -/
  | yearZero
  /-- A rule of the domain that was broken, by its wording. -/
  | rule (message : String)
  /-- A deadline that passed. -/
  | deadline
  /-- A deadline too far off to be waited for; whole seconds say so differently. -/
  | distantDeadline (whole : Bool)
  /-- Work that was cancelled. -/
  | cancelledWork
  /-- A class was asked of an error that has none. -/
  | unclassified
  /-- An element was asked of an empty list. -/
  | noElement
  /-- Work offered to an executor that was shut down. -/
  | executorClosed
  /-- A secure transport refused its certificates, by the reason it gives. -/
  | transport (reason : String)
  | system (kind : SystemKind) (arguments : List FieldValue)
  /-- Any other failure of the world outside, by its name. -/
  | outside (family : OutsideFamilyOf Fault) (name : String) (arguments : List FieldValue)
  deriving Inhabited

/-- A family of outside failures. -/
abbrev OutsideFamily := OutsideFamilyOf Fault

/-- What can be seen of a fault of a class of its own. -/
abbrev OwnClass := OwnClassOf Fault

/-- A classified failure. -/
abbrev ConnectorError := ConnectorErrorOf Fault

/-- Whether the classification of an error is the terminal one, or the fault that asking for it
raises: an error of the general class has none. -/
def ConnectorErrorOf.classification (e : ConnectorError) : Except Fault Bool :=
  match e.sort with
  | .known .terminal => .ok true
  | .known .transient => .ok false
  | .known .bare => .error .unclassified
  | .own _ _ _ classification => classification

namespace Fault

/-- Whether ordinary handlers let a fault pass. -/
def isStop : Fault → Bool
  | .outside .stop _ _ => true
  | _ => false

/-- What can be seen of a fault of a class of its own. -/
def own? : Fault → Option OwnClass
  | .connector error => error.own?
  | .outside (.own traits _ _) _ _ => some traits
  | _ => none

/-- Whether a fault reports cancelled work. -/
def isCancelled : Fault → Bool
  | .cancelledWork => true
  | .outside .cancelled _ _ => true
  | fault => fault.own?.any OwnClassOf.isCancelled

/-- Whether a fault reports a deadline that passed. -/
def isDeadline : Fault → Bool
  | .deadline => true
  | .system .timedOut _ => true
  | fault => fault.own?.any OwnClassOf.isDeadline

/-- Whether a fault is a failure of the operating system. -/
def isSystem : Fault → Bool
  | .system _ _ => true
  | .transport _ => true
  | .deadline => true
  | fault => fault.own?.any fun traits => traits.isSystem || traits.isDeadline

/-- Whether a fault is a classified failure, whatever its class. -/
def isConnector : Fault → Bool
  | .connector _ => true
  | _ => false

/-- The fault that writing a fault raises. -/
def textFault? (fault : Fault) : Option Fault := fault.own?.bind OwnClassOf.textFault?

/-- The text of a fault, which is empty where writing it raises a fault. -/
def text : Fault → String
  | .call error => error.text
  | .remote _ _ message => message
  | .connector error => error.text
  | .certificate cause => cause.message
  | .emptyChain => "Admin API returned an empty certificate chain"
  | .fields report => report.text
  | .instanceName cause => cause.message
  | .keyNumbers cause => cause.message
  | .keyText cause => cause.message
  | .distinguishedName cause => cause.message
  | .yearZero => "year 0 is out of range"
  | .rule message => message
  | .deadline => ""
  | .distantDeadline whole =>
    if whole then "timestamp too large to convert to C _PyTime_t"
    else "timestamp out of range for platform time_t"
  | .cancelledWork => ""
  | .unclassified => "'ConnectorError' object has no attribute 'classification'"
  | .noElement => "list index out of range"
  | .executorClosed => "cannot schedule new futures after shutdown"
  | .transport reason => reason
  | .system kind arguments => kind.text arguments
  | .outside (.own traits _ _) _ _ => traits.shownText
  | .outside .lookup _ [value] => value.literal
  | .outside _ _ arguments => argumentsText arguments

end Fault

end InstanceLink
