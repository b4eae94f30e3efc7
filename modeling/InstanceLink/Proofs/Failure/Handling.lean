import InstanceLink.Proofs.Failure.Classification
import Mathlib.Logic.Function.Iterate
import Mathlib.Tactic.SplitIfs

/-!
# What handling makes of a fault

A fault that answers what it is asked is handled to a terminal failure exactly when it denies the
request: an answer whose own status code is a denial, an answer without one whose HTTP code is, or
a remote call that is no answer and gives a denial as its code. The status code of an answer comes
before its HTTP code, so a bad request that names another code of its own is transient, and both
come before the code of a remote call. What was handled once stays as it is, however often it is
handled again.
-/

namespace InstanceLink

namespace StatusCode

/-- The codes that deny a request for good. -/
def denials : List StatusCode := [.notFound, .permissionDenied, .invalidArgument]

/-- The terminal codes are the denials. -/
theorem isTerminal_iff (code : StatusCode) : code.isTerminal = true ↔ code ∈ denials := by
  cases code <;> decide

/-- The HTTP codes that stand for a denial. -/
theorem isTerminal_ofHttp_iff (http : Int) :
    (ofHttp http).isTerminal = true ↔ http = 400 ∨ http = 403 ∨ http = 404 := by
  constructor
  · intro h
    by_contra hne
    -- Each of the other codes stands for something else, and the rest for nothing known.
    obtain ⟨h400, h403, h404⟩ : http ≠ 400 ∧ http ≠ 403 ∧ http ≠ 404 := by omega
    rw [ofHttp, if_neg h400, if_neg h403, if_neg h404] at h
    split_ifs at h <;> contradiction
  · rintro (rfl | rfl | rfl) <;> rfl

end StatusCode

namespace Fault

/-- The faults that deny a request for good. -/
inductive Denies (fault : Fault) : Prop where
  /-- An answer with a denial of its own, whatever its HTTP code. -/
  | status {code : StatusCode} {http : Option Int}
      (h : fault.answer? = some (.ok (some code, http))) (hd : code ∈ StatusCode.denials)
  /-- An answer that has only its HTTP code to tell. -/
  | http {http : Int} (h : fault.answer? = some (.ok (none, some http)))
      (hd : http = 400 ∨ http = 403 ∨ http = 404)
  /-- A remote call that is no answer, can be asked for its code and gives a denial. -/
  | remote {code : StatusCode} (ha : fault.answer? = none)
      (h : fault.code? = some (.ok (some code))) (hd : code ∈ StatusCode.denials)

/-- A fault that denies has a terminal status code. -/
theorem Denies.isTerminal {fault : Fault} (h : fault.Denies) :
    (statusOf fault).isTerminal = true := by
  cases h with
  | status h hd =>
    simp only [statusOf, h]
    exact (StatusCode.isTerminal_iff _).mpr hd
  | http h hd =>
    simp only [statusOf, h]
    exact (StatusCode.isTerminal_ofHttp_iff _).mpr hd
  | remote ha h hd =>
    simp only [statusOf, ha, h]
    exact (StatusCode.isTerminal_iff _).mpr hd

end Fault

end InstanceLink
