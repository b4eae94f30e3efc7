import InstanceLink.Instance.Name
import InstanceLink.Log.Sink

/-!
# What a fetcher logs

The events of a fetcher and the record of each. Only a fetch and its failure name what the
outside chose; the record of closing is the same for all, and every console shows it.
-/

namespace InstanceLink

/-- What a fetcher logs. -/
inductive FetchEvent where
  | fetching (name : InstanceName)
  /-- A fetch, by its position, is about to fail. -/
  | failing (fetch : Nat) (name : InstanceName) (error : ConnectorError)
  | closing

namespace FetchEvent

/-- The record of a fetch that is about to fail. -/
def failureRecord (name : InstanceName) (error : ConnectorError) : LogRecord :=
  ⟨.warning, "Failed to fetch connection info for " ++ name.text ++ ": " ++ error.text⟩

/-- The log record of an event. -/
def record : FetchEvent → LogRecord
  | .fetching name => ⟨.debug, "Fetching connection info for " ++ name.text⟩
  | .failing _ name error => failureRecord name error
  | .closing => ⟨.debug, "Closing AlloyDB Admin API client"⟩

/-- The record of closing is shown by every console. -/
theorem fault?_closing (sink : LogSink) : sink.fault? closing.record = none :=
  LogSink.fault?_of_render (r := closing.record) rfl sink

end FetchEvent

end InstanceLink
