import InstanceLink.Console.Markup
import InstanceLink.Failure.Fault
import InstanceLink.Log.Logger

/-!
# Log calls

What the calls of a logger meet: the level in force, and the handlers up its path. A record below
the level reaches no handler. A handler that reads markup raises a fault over a message that is
none, and the call is left by it.
-/

namespace InstanceLink

/-- The fault of a text that is no markup, as it is raised. -/
def Console.MarkupFault.fault (cause : Console.MarkupFault) : Fault :=
  .outside .plain "MarkupError" [.text cause.message]

/-- The fault that a handler raises over a message. -/
def LogHandler.fault? (message : String) : LogHandler → Option Fault
  | .console _ true _ =>
    match Console.render message.toList with
    | .ok _ => none
    | .error cause => some cause.fault
  | .plain | .console _ false _ => none

/-- What the calls of one logger meet. -/
structure LogSink where
  /-- The number of the level in force. -/
  threshold : Int
  /-- The handlers, in the order in which a record reaches them. -/
  handlers : List LogHandler

namespace LogSink

/-- A logger that hands its records to nobody. -/
def silent : LogSink := ⟨Loggers.defaultLevel, []⟩

/-- The fault that a log call is left by. -/
def fault? (sink : LogSink) (r : LogRecord) : Option Fault :=
  if r.isShown sink.threshold then sink.handlers.findSome? (LogHandler.fault? r.message) else none

/-- A record below the level in force leaves no call by a fault. -/
theorem fault?_of_not_isShown {sink : LogSink} {r : LogRecord}
    (h : r.isShown sink.threshold = false) : sink.fault? r = none :=
  if_neg (Bool.eq_false_iff.mp h)

/-- A log call is left by nothing but the fault of a text that is no markup. -/
theorem exists_cause_of_fault? {sink : LogSink} {r : LogRecord} {fault : Fault}
    (h : sink.fault? r = some fault) : ∃ cause : Console.MarkupFault, fault = cause.fault := by
  rw [fault?] at h
  split at h
  · obtain ⟨handler, _, hf⟩ := List.exists_of_findSome?_eq_some h
    cases handler with
    | plain => contradiction
    | console format markup traces =>
      cases markup with
      | false => contradiction
      | true =>
        rw [LogHandler.fault?] at hf
        split at hf
        · contradiction
        next cause _ => exact ⟨cause, (Option.some.inj hf).symm⟩
  · contradiction

/-- A message that every console can show leaves no call by a fault. -/
theorem fault?_of_render {r : LogRecord} {cs : List Char}
    (h : Console.render r.message.toList = .ok cs) (sink : LogSink) : sink.fault? r = none := by
  have hhandler : ∀ handler : LogHandler, handler.fault? r.message = none := by
    intro handler
    cases handler with
    | plain => rfl
    | console format markup traces => cases markup <;> simp [LogHandler.fault?, h]
  rw [fault?]
  split
  · exact List.findSome?_eq_none_iff.mpr fun handler _ => hhandler handler
  · rfl

/-- A console that reads markup leaves a call by a fault over a closing tag that closes nothing. -/
example : (fault? ⟨10, [.console "%(message)s" true true]⟩ ⟨.warning, "gone [/x]"⟩).isSome = true :=
  by decide +kernel

end LogSink

namespace Loggers

/-- The handlers of a logger and of those up its path. -/
def handlersUp (ls : Loggers) (fuel : Nat) (cs : List Char) : List LogHandler :=
  (ls.find (String.ofList cs)).handlers ++
    match fuel, parent? cs with
    | fuel + 1, some up => handlersUp ls fuel up
    | _, _ => []

/-- What the calls of a logger meet. -/
def sink (ls : Loggers) (name : String) : LogSink :=
  ⟨ls.effectiveLevel name.length name.toList, ls.handlersUp name.length name.toList⟩

end Loggers

end InstanceLink
