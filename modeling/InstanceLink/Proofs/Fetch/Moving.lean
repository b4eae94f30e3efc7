import InstanceLink.Proofs.Fetch.Progress

/-!
# How a step moves the calls of a fetch

A step moves each call of the fetch it concerns in one of a few ways, with the request of
that call and with the reply that the step brings to it. What each of these ways keeps of a
call, every step keeps.
-/

namespace InstanceLink

/-- The ways in which a step moves a call: it may ask with some requests, and it may meet
some replies. -/
inductive Call.Moves {α : Type} (asks : Except Fault Request → Prop)
    (meets : Except Fault α → Prop) (c : Call α) : Call α → Prop where
  | stay : Moves asks meets c c
  | begin : Moves asks meets c c.begin
  | send (request : Except Fault Request) (h : asks request) : Moves asks meets c (c.send request)
  | finish (reply : Except Fault α) (h : meets reply) : Moves asks meets c (c.finish reply)
  | cancel : Moves asks meets c c.cancel
  | notify : Moves asks meets c { c with notified := true }

/-- A fetch is moved by a step: each call asks with its own request and meets the reply that
the step brings to it, and the key stays. -/
structure Fetch.MovedBy (st : Session.Step) (f g : Fetch) : Prop where
  key : g.key = f.key
  metadata : f.metadata.Moves (fun request => request = f.request .metadata)
    (fun reply => ∃ i, st = .finish i (.metadata reply)) g.metadata
  certificate : f.certificate.Moves (fun request => request = f.request .certificate)
    (fun reply => ∃ i, st = .finish i (.certificate reply)) g.certificate

/-- Every step moves the fetch it concerns so. -/
theorem Session.Step.movedBy (f : Fetch) (st : Session.Step) : Fetch.MovedBy st f (st.move f) := by
  cases st with
  | begin i side =>
    cases side with
    | metadata => exact ⟨rfl, .begin, .stay⟩
    | certificate => exact ⟨rfl, .stay, .begin⟩
  | send i side =>
    cases side with
    | metadata => exact ⟨rfl, .send (f.request .metadata) rfl, .stay⟩
    | certificate => exact ⟨rfl, .stay, .send (f.request .certificate) rfl⟩
  | finish i reply =>
    cases reply with
    | metadata reply => exact ⟨rfl, .finish reply ⟨i, rfl⟩, .stay⟩
    | certificate reply => exact ⟨rfl, .stay, .finish reply ⟨i, rfl⟩⟩
  | cancelCall i side =>
    cases side with
    | metadata => exact ⟨rfl, .cancel, .stay⟩
    | certificate => exact ⟨rfl, .stay, .cancel⟩
  | notify i side =>
    rw [move, Fetch.notify]
    split
    · cases side with
      | metadata => exact ⟨rfl, .notify, .stay⟩
      | certificate => exact ⟨rfl, .stay, .notify⟩
    · exact ⟨rfl, .stay, .stay⟩
  | settle i =>
    rw [move, Fetch.settle]
    split <;> exact ⟨rfl, .stay, .stay⟩
  | cancel i =>
    rw [move, Fetch.cancel]
    split <;> exact ⟨rfl, .stay, .stay⟩
  | propagate i side =>
    rw [move, Fetch.propagate]
    split
    · cases side with
      | metadata => exact ⟨rfl, .cancel, .stay⟩
      | certificate => exact ⟨rfl, .stay, .cancel⟩
    · exact ⟨rfl, .stay, .stay⟩
  | fetch name key => exact ⟨rfl, .stay, .stay⟩
  | shutDown => exact ⟨rfl, .stay, .stay⟩
  | beginClose => exact ⟨rfl, .stay, .stay⟩
  | closeTransport => exact ⟨rfl, .stay, .stay⟩

end InstanceLink
