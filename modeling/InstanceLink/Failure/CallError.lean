import InstanceLink.Failure.StatusCode
import InstanceLink.Field.Value

/-!
# Error answers of the Admin API

An error answer is of a kind; the kind fixes an HTTP code, a status code, both or
neither. Answers known by their HTTP code or status code alone get the kind of
that code.
-/

namespace InstanceLink

/-- The kinds of error answers. -/
inductive CallKind where
  | aborted
  | alreadyExists
  | badGateway
  | badRequest
  | cancelled
  | clientError
  | conflict
  | dataLoss
  | deadlineExceeded
  | failedPrecondition
  | forbidden
  | gatewayTimeout
  | general
  | internalServerError
  | invalidArgument
  | lengthRequired
  | methodNotAllowed
  | methodNotImplemented
  | movedPermanently
  | notFound
  | notModified
  | outOfRange
  | permissionDenied
  | preconditionFailed
  | redirection
  | requestRangeNotSatisfiable
  | resourceExhausted
  | resumeIncomplete
  | serverError
  | serviceUnavailable
  | temporaryRedirect
  | tooManyRequests
  | unauthenticated
  | unauthorized
  | unknown
  deriving DecidableEq, Repr

namespace CallKind

/-- The HTTP code of a kind. -/
def http? : CallKind → Option Int
  | .aborted => some 409
  | .alreadyExists => some 409
  | .badGateway => some 502
  | .badRequest => some 400
  | .cancelled => some 499
  | .conflict => some 409
  | .deadlineExceeded => some 504
  | .failedPrecondition => some 400
  | .forbidden => some 403
  | .gatewayTimeout => some 504
  | .internalServerError => some 500
  | .invalidArgument => some 400
  | .lengthRequired => some 411
  | .methodNotAllowed => some 405
  | .methodNotImplemented => some 501
  | .movedPermanently => some 301
  | .notFound => some 404
  | .notModified => some 304
  | .outOfRange => some 400
  | .permissionDenied => some 403
  | .preconditionFailed => some 412
  | .requestRangeNotSatisfiable => some 416
  | .resourceExhausted => some 429
  | .resumeIncomplete => some 308
  | .serviceUnavailable => some 503
  | .temporaryRedirect => some 307
  | .tooManyRequests => some 429
  | .unauthenticated => some 401
  | .unauthorized => some 401
  | _ => none

/-- The status code of a kind. -/
def status? : CallKind → Option StatusCode
  | .aborted => some .aborted
  | .alreadyExists => some .alreadyExists
  | .cancelled => some .cancelled
  | .dataLoss => some .dataLoss
  | .deadlineExceeded => some .deadlineExceeded
  | .failedPrecondition => some .failedPrecondition
  | .internalServerError => some .internal
  | .invalidArgument => some .invalidArgument
  | .methodNotImplemented => some .unimplemented
  | .notFound => some .notFound
  | .outOfRange => some .outOfRange
  | .permissionDenied => some .permissionDenied
  | .resourceExhausted => some .resourceExhausted
  | .serviceUnavailable => some .unavailable
  | .unauthenticated => some .unauthenticated
  | .unknown => some .unknown
  | _ => none

/-- The kinds of HTTP codes. -/
def byHttp : List (Int × CallKind) :=
  [(301, .movedPermanently), (304, .notModified), (307, .temporaryRedirect),
    (308, .resumeIncomplete), (400, .badRequest), (401, .unauthorized),
    (403, .forbidden), (404, .notFound), (405, .methodNotAllowed),
    (409, .conflict), (411, .lengthRequired), (412, .preconditionFailed),
    (416, .requestRangeNotSatisfiable), (429, .tooManyRequests), (499, .cancelled),
    (500, .internalServerError), (501, .methodNotImplemented), (502, .badGateway),
    (503, .serviceUnavailable), (504, .gatewayTimeout)]

/-- The kind of a status code; success has the general kind. -/
def ofStatus : StatusCode → CallKind
  | .cancelled => .cancelled
  | .unknown => .unknown
  | .invalidArgument => .invalidArgument
  | .deadlineExceeded => .deadlineExceeded
  | .notFound => .notFound
  | .alreadyExists => .alreadyExists
  | .permissionDenied => .permissionDenied
  | .resourceExhausted => .resourceExhausted
  | .failedPrecondition => .failedPrecondition
  | .aborted => .aborted
  | .outOfRange => .outOfRange
  | .unimplemented => .methodNotImplemented
  | .internal => .internalServerError
  | .unavailable => .serviceUnavailable
  | .dataLoss => .dataLoss
  | .unauthenticated => .unauthenticated
  | .ok => .general

end CallKind

/-- An error answer. -/
structure CallError where
  kind : CallKind
  http : Option Int
  status : Option StatusCode
  message : String
  /-- Codes and messages of the single faults behind the answer. -/
  entries : List (FieldValue × FieldValue)
  /-- Further values the answer carries. -/
  details : List FieldValue

namespace CallError

/-- An answer of a kind, with the codes of that kind. -/
def ofKind (kind : CallKind) (message : String) : CallError :=
  ⟨kind, kind.http?, kind.status?, message, [], []⟩

/-- An answer known by its HTTP code. -/
def ofHttp (http : Int) (message : String) : CallError :=
  match CallKind.byHttp.lookup http with
  | some kind => ofKind kind message
  | none => ⟨.general, some http, none, message, [], []⟩

/-- An answer known by its status code. -/
def ofStatus (status : StatusCode) (message : String) : CallError :=
  { ofKind (CallKind.ofStatus status) message with status := some status }

/-- The text of an answer: its HTTP code, its message, and then its details or
else its single faults, one a line. -/
def text (e : CallError) : String :=
  let head := (e.http.elim "None" toString) ++ " " ++ e.message
  if !e.details.isEmpty then head ++ " " ++ (FieldValue.list e.details).literal
  else if !e.entries.isEmpty then
    head ++ " " ++ "\n".intercalate
      (e.entries.map fun (code, message) => code.display ++ ": " ++ message.display)
  else head

end CallError

end InstanceLink
