/-!
# Status codes

The seventeen status codes of remote calls, and the code an HTTP answer stands
for when it carries none of its own.
-/

namespace InstanceLink

/-- A status code of a remote call. -/
inductive StatusCode where
  | ok
  | cancelled
  | unknown
  | invalidArgument
  | deadlineExceeded
  | notFound
  | alreadyExists
  | permissionDenied
  | resourceExhausted
  | failedPrecondition
  | aborted
  | outOfRange
  | unimplemented
  | internal
  | unavailable
  | dataLoss
  | unauthenticated
  deriving DecidableEq, Repr

namespace StatusCode

/-- The written name of a code. -/
def name : StatusCode → String
  | .ok => "OK"
  | .cancelled => "CANCELLED"
  | .unknown => "UNKNOWN"
  | .invalidArgument => "INVALID_ARGUMENT"
  | .deadlineExceeded => "DEADLINE_EXCEEDED"
  | .notFound => "NOT_FOUND"
  | .alreadyExists => "ALREADY_EXISTS"
  | .permissionDenied => "PERMISSION_DENIED"
  | .resourceExhausted => "RESOURCE_EXHAUSTED"
  | .failedPrecondition => "FAILED_PRECONDITION"
  | .aborted => "ABORTED"
  | .outOfRange => "OUT_OF_RANGE"
  | .unimplemented => "UNIMPLEMENTED"
  | .internal => "INTERNAL"
  | .unavailable => "UNAVAILABLE"
  | .dataLoss => "DATA_LOSS"
  | .unauthenticated => "UNAUTHENTICATED"

/-- Every code. -/
def all : List StatusCode :=
  [.ok, .cancelled, .unknown, .invalidArgument, .deadlineExceeded, .notFound, .alreadyExists,
    .permissionDenied, .resourceExhausted, .failedPrecondition, .aborted, .outOfRange,
    .unimplemented, .internal, .unavailable, .dataLoss, .unauthenticated]

/-- The list of codes is complete. -/
theorem mem_all (code : StatusCode) : code ∈ all := by cases code <;> decide

/-- The code with a written name. -/
def ofName? (s : String) : Option StatusCode := all.find? fun code => code.name = s

/-- The code an HTTP answer stands for. -/
def ofHttp (http : Int) : StatusCode :=
  if http = 400 then .invalidArgument
  else if http = 401 then .unauthenticated
  else if http = 403 then .permissionDenied
  else if http = 404 then .notFound
  else if http = 409 then .aborted
  else if http = 429 then .resourceExhausted
  else if http = 500 then .internal
  else if http = 501 then .unimplemented
  else if http = 503 then .unavailable
  else if http = 504 then .deadlineExceeded
  else .unknown

/-- The codes that say a request can never succeed as issued. -/
def isTerminal : StatusCode → Bool
  | .notFound | .permissionDenied | .invalidArgument => true
  | _ => false

end StatusCode

end InstanceLink
