import InstanceLink.Proofs.Fetch.Moving

/-!
# Where the ends of calls come from

A call ends with what it was answered, with the fault of the key its request needs, or by
a cancellation. A property of all the ends that a row of steps can supply is a property of
the ends of every fetch that the row leads to.
-/

namespace InstanceLink

namespace Call

variable {α : Type} {P : Outcome α → Prop} {c : Call α}

/-- The end of a call, if it is over, has a property. -/
def EndsIn (P : Outcome α → Prop) (c : Call α) : Prop := ∀ o, c.outcome? = some o → P o

/-- A call returns a value exactly when it was answered that value. -/
theorem answered_eq_returned_iff {reply : Except Fault α} {value : α} :
    answered reply = .returned value ↔ reply = .ok value := by
  cases reply <;> simp [answered]

/-- A call that is not over has no end to speak of. -/
theorem EndsIn.of_open (ho : c.outcome? = none) : c.EndsIn P := by
  intro o h
  rw [ho] at h
  contradiction

/-- A call that is over has the end it has. -/
theorem EndsIn.of_over {o : Outcome α} (hs : c.state = .over o) (hp : P o) : c.EndsIn P := by
  intro o' h
  rw [outcome?, hs] at h
  cases h
  exact hp

/-- Taking a call up ends nothing. -/
theorem EndsIn.begin (h : c.EndsIn P) : c.begin.EndsIn P := by
  obtain ⟨state, notified⟩ := c
  cases state with
  | queued => exact .of_open rfl
  | _ => exact h

/-- Sending ends a call only where its request cannot be built. -/
theorem EndsIn.send (h : c.EndsIn P) {request : Except Fault Request}
    (hr : ∀ fault, request = .error fault → P (.raised fault)) : (c.send request).EndsIn P := by
  obtain ⟨state, notified⟩ := c
  cases state with
  | begun =>
    cases request with
    | ok request => exact .of_open rfl
    | error fault => exact .of_over rfl (hr fault rfl)
  | _ => exact h

/-- A reply ends a call as it is answered. -/
theorem EndsIn.finish (h : c.EndsIn P) {reply : Except Fault α} (hr : P (answered reply)) :
    (c.finish reply).EndsIn P := by
  obtain ⟨state, notified⟩ := c
  cases state with
  | sent => exact .of_over rfl hr
  | _ => exact h

/-- A cancellation ends a call as cancelled or not at all. -/
theorem EndsIn.cancel (h : c.EndsIn P) (hc : P .cancelled) : c.cancel.EndsIn P := by
  obtain ⟨state, notified⟩ := c
  cases state with
  | queued => exact .of_over rfl hc
  | _ => exact h

/-- A call keeps to a property of its end if the fault of the request that it asks with, the
reply that it meets, and a cancellation do. -/
theorem EndsIn.moves {d : Call α} {asks : Except Fault Request → Prop}
    {meets : Except Fault α → Prop} (h : c.EndsIn P) (hmoves : c.Moves asks meets d)
    (hasks : ∀ fault, asks (.error fault) → P (.raised fault))
    (hmeets : ∀ reply, meets reply → P (answered reply)) (hc : P .cancelled) : d.EndsIn P := by
  cases hmoves with
  | stay => exact h
  | begin => exact h.begin
  | send request hr => exact h.send fun fault hf => hasks fault (hf ▸ hr)
  | finish reply hr => exact h.finish (hmeets reply hr)
  | cancel => exact h.cancel hc
  | notify => exact h

end Call

/-- The end that a reply brings has a property, by the call it belongs to. -/
def Reply.EndsIn (P : Outcome MetadataResponse → Prop) (Q : Outcome CertificateResponse → Prop) :
    Reply → Prop
  | .metadata reply => P (Call.answered reply)
  | .certificate reply => Q (Call.answered reply)

/-- The request of a certificate call cannot be built for want of a key only. -/
theorem certificateRequest_eq_error_iff {name : InstanceName} {key : ClientKey} {fault : Fault} :
    certificateRequest name key = .error fault ↔ key = .error fault := by
  cases key <;> simp [certificateRequest, Except.map]

namespace Fetch

/-- The ends of both calls, as far as they are over, have a property each. -/
structure Ends (P : Outcome MetadataResponse → Prop) (Q : Outcome CertificateResponse → Prop)
    (f : Fetch) : Prop where
  metadata : f.metadata.EndsIn P
  certificate : f.certificate.EndsIn Q

variable {P : Outcome MetadataResponse → Prop} {Q : Outcome CertificateResponse → Prop} {f : Fetch}

/-- A fresh fetch has no ends. -/
theorem ends_fresh (name : InstanceName) (key : ClientKey) (sink : LogSink) :
    (fresh name key sink).Ends P Q :=
  ⟨.of_open rfl, .of_open rfl⟩

/-- A move ends a call by a cancellation, by the fault of the key, or by the reply it
brings. -/
theorem Ends.move (h : f.Ends P Q) (hp : P .cancelled) (hq : Q .cancelled)
    (hkey : ∀ fault, f.key = .error fault → Q (.raised fault)) {st : Session.Step}
    (hreply : ∀ i reply, st = .finish i reply → reply.EndsIn P Q) : (st.move f).Ends P Q := by
  have hmoved := st.movedBy f
  refine ⟨h.metadata.moves hmoved.metadata nofun ?_ hp,
    h.certificate.moves hmoved.certificate ?_ ?_ hq⟩
  · rintro reply ⟨i, hst⟩
    exact hreply i (.metadata reply) hst
  · exact fun fault hr => hkey fault (certificateRequest_eq_error_iff.mp hr.symm)
  · rintro reply ⟨i, hst⟩
    exact hreply i (.certificate reply) hst

end Fetch

namespace Session

variable {P : Outcome MetadataResponse → Prop} {Q : Outcome CertificateResponse → Prop}
  {sink : LogSink} {row : List Step} {i : Nat} {f : Fetch}

/-- A property of all the ends that a row of steps can supply to a fetch is kept by its
ends through the row. -/
theorem ends_steps {s : Session} (hf : s.fetches[i]? = some f) (h : f.Ends P Q)
    (hp : P .cancelled) (hq : Q .cancelled)
    (hkey : ∀ fault, f.key = .error fault → Q (.raised fault))
    (hreply : ∀ reply, .finish i reply ∈ row → reply.EndsIn P Q) :
    ∃ g, (s.steps row).fetches[i]? = some g ∧ g.key = f.key ∧ g.Ends P Q := by
  refine kept_by_steps (P := fun g => g.key = f.key ∧ g.Ends P Q) ?_ hf ⟨rfl, h⟩
  rintro g st hst hi ⟨hgk, hg⟩
  refine ⟨(st.movedBy g).key.trans hgk, hg.move hp hq (hgk ▸ hkey) ?_⟩
  rintro j reply rfl
  cases hi
  exact hreply reply hst

/-- A property of all the ends that a run can supply to a fetch is one of its ends. -/
theorem ends_of_steps (hf : ((fresh sink).steps row).fetches[i]? = some f)
    (hp : P .cancelled) (hq : Q .cancelled)
    (hkey : ∀ fault, f.key = .error fault → Q (.raised fault))
    (hreply : ∀ reply, .finish i reply ∈ row → reply.EndsIn P Q) : f.Ends P Q := by
  refine fetch_of_steps (P := fun g _ => g.key = f.key → g.Ends P Q) ?_ ?_ hf rfl
  · exact fun name key _ => Fetch.ends_fresh name key sink
  · intro g events st hst hi hg hk
    rw [(st.movedBy g).key] at hk
    refine (hg hk).move hp hq (hk ▸ hkey) ?_
    rintro j reply rfl
    cases hi
    exact hreply reply hst

end Session

namespace Fetch

/-- Each end of a fetch is a cancellation or was supplied in a row of steps by a reply; that
of the certificate call may also be the fault of the key, as it was raised. -/
structure Supplied (row : List Session.Step) (i : Nat) (f : Fetch) : Prop where
  metadata : ∀ m, f.metadata.outcome? = some m → m = .cancelled ∨
    ∃ reply, .finish i (.metadata reply) ∈ row ∧ m = Call.answered reply
  certificate : ∀ c, f.certificate.outcome? = some c → c = .cancelled ∨
    (∃ fault, f.key = .error fault ∧ c = .raised fault) ∨
    ∃ reply, .finish i (.certificate reply) ∈ row ∧ c = Call.answered reply

end Fetch

/-- The ends of a fetch are supplied by the run that leads to it. -/
theorem Session.supplied_of_steps {sink : LogSink} {row : List Session.Step} {i : Nat} {f : Fetch}
    (hf : ((Session.fresh sink).steps row).fetches[i]? = some f) : f.Supplied row i := by
  have hends : f.Ends
      (fun m => m = .cancelled ∨
        ∃ reply, .finish i (.metadata reply) ∈ row ∧ m = Call.answered reply)
      (fun c => c = .cancelled ∨ (∃ fault, f.key = .error fault ∧ c = .raised fault) ∨
        ∃ reply, .finish i (.certificate reply) ∈ row ∧ c = Call.answered reply) := by
    refine ends_of_steps hf (.inl rfl) (.inl rfl) (fun fault h => .inr (.inl ⟨fault, h, rfl⟩)) ?_
    intro reply hr
    cases reply with
    | metadata reply => exact .inr ⟨reply, hr, rfl⟩
    | certificate reply => exact .inr (.inr ⟨reply, hr, rfl⟩)
  exact ⟨hends.metadata, hends.certificate⟩

end InstanceLink
