import InstanceLink.Fetch.Closers
import InstanceLink.Proofs.Fetch.Closing
import Mathlib.Algebra.Ring.Nat

/-!
# The transport is closed exactly once

Callers that close one fetcher at the same time close its transport once between them: the
lock lets one of them make the note that closing is begun, and only that one goes on to the
transport, outside the lock. The account of who has got where is kept by every move, so it
holds after every run.
-/

namespace InstanceLink

/-- Setting one place of a row keeps account of how many places have a property. -/
theorem countP_set_add {α : Type} {p : α → Bool} {xs : List α} {i : Nat} {a : α}
    (h : xs[i]? = some a) (b : α) :
    (xs.set i b).countP p + (p a).toNat = xs.countP p + (p b).toNat := by
  obtain ⟨hi, rfl⟩ := List.getElem?_eq_some_iff.mp h
  have hle : (p xs[i]).toNat ≤ xs.countP p := by
    cases hp : p xs[i] with
    | false => exact Nat.zero_le _
    | true => exact List.countP_pos_iff.mpr ⟨xs[i], List.getElem_mem hi, hp⟩
  have hset := List.countP_set (p := p) (a := b) hi
  cases hp : p xs[i] <;> cases hb : p b <;>
    simp only [hp, hb, Bool.false_eq_true, if_false, if_true, Bool.toNat_true,
      Bool.toNat_false] at hle hset ⊢ <;>
    omega

/-- Setting one place of a row changes a total by what that place counts. -/
theorem sum_map_set_add {α : Type} (f : α → Nat) {xs : List α} {i : Nat} {a : α}
    (h : xs[i]? = some a) (b : α) :
    ((xs.set i b).map f).sum + f a = (xs.map f).sum + f b := by
  induction xs generalizing i with
  | nil => contradiction
  | cons x xs ih =>
    cases i with
    | zero =>
      cases h
      simp only [List.set_cons_zero, List.map_cons, List.sum_cons]
      omega
    | succ i =>
      have hrest := ih h
      simp only [List.set_cons_succ, List.map_cons, List.sum_cons]
      omega

namespace CloserState

/-- Whether a caller has the lock. -/
def isInside : CloserState → Bool
  | .holding | .first | .late | .noted => true
  | _ => false

/-- Whether a caller has made the note and not yet called for the transport to be closed. -/
def isOnWay : CloserState → Bool
  | .noted | .released | .announced => true
  | _ => false

/-- Whether a caller knows that closing is begun. -/
def knows : CloserState → Bool
  | .waiting | .holding | .first => false
  | _ => true

/-- How many moves a caller has at most before it. -/
def movesLeft : CloserState → Nat
  | .waiting => 7
  | .holding => 6
  | .first => 5
  | .noted => 4
  | .released => 3
  | .announced => 2
  | .late | .calling => 1
  | .turnedAway | .closed _ => 0

/-- A caller that is through knows that closing is begun. -/
theorem knows_of_isOver {state : CloserState} (h : state.isOver = true) : state.knows = true := by
  cases state with
  | turnedAway => rfl
  | closed fault => rfl
  | _ => contradiction

/-- A caller that is through is not on its way. -/
theorem isOnWay_of_isOver {state : CloserState} (h : state.isOver = true) :
    state.isOnWay = false := by
  cases state with
  | turnedAway => rfl
  | closed fault => rfl
  | _ => contradiction

/-- A caller that has the lock is not through. -/
theorem isOver_of_isInside {state : CloserState} (h : state.isInside = true) :
    state.isOver = false := by
  cases state with
  | turnedAway => contradiction
  | closed fault => contradiction
  | _ => rfl

end CloserState

/-- A caller that is through raises what its block raised, unless closing the transport raised. -/
theorem Closer.raised_eq_body (x : Closer) (hover : x.state.isOver = true)
    (hquiet : ∀ fault, x.state ≠ .closed (some fault)) : x.raised = x.body := by
  obtain ⟨body, state⟩ := x
  cases state with
  | turnedAway => rfl
  | closed fault =>
    cases fault with
    | none => rfl
    | some fault => exact absurd rfl (hquiet fault)
  | _ => contradiction

namespace Fetcher

/-- A block that raises nothing ends as if the fetcher were closed. -/
theorem leave_none (f : Fetcher) : f.leave none = f.close := by
  refine Prod.ext rfl ?_
  cases h : f.close.2 <;> simp [leave, h]

/-- A block that raises leaves a fetcher whose closing is begun, and raises on unless closing
raises. -/
theorem leave_some (f : Fetcher) (fault : Fault) :
    (f.leave (some fault)).1.session.closed = true ∧
      (f.client.closeFault = none → (f.leave (some fault)).2 = some fault) := by
  cases hclosed : f.session.closed with
  | true => exact ⟨by simp [leave, close, hclosed], fun _ => by simp [leave, close, hclosed]⟩
  | false =>
    refine ⟨?_, fun hquiet => by simp [leave, close, hclosed, hquiet]⟩
    simp [leave, close, hclosed, take, Session.steps, Session.step]

end Fetcher

namespace ClosingSession

open CloserState

/-- The account of who has got where. -/
structure Sound (c : ClosingSession) : Prop where
  /-- Those inside are those that have the lock. -/
  inside_iff : ∀ i x, c.closers[i]? = some x → (x.state.isInside = true ↔ c.lock = some i)
  /-- The lock is free or with one of the callers. -/
  owner : ∀ i, c.lock = some i → i < c.closers.length
  /-- What the first caller has found still holds while it is inside. -/
  first : ∀ x ∈ c.closers, x.state = .first → c.session.closed = false
  knows : ∀ x ∈ c.closers, x.state.knows = true → c.session.closed = true
  closing_eq : c.session.closing = c.closers.countP fun x => x.state.isOnWay
  closes_eq : c.session.closes = c.closers.countP fun x => x.state.hasCalled
  accounted : c.session.IsAccounted

/-- A session that nobody has used or closed is sound. -/
theorem sound_fresh (sink : LogSink) : (fresh sink).Sound :=
  ⟨nofun, nofun, nofun, nofun, rfl, rfl, rfl⟩

variable {c : ClosingSession} {i : Nat} {x : Closer}

/-- A caller that gets on leaves the others where they are. -/
theorem advance_eq (hx : c.closers[i]? = some x) (fault : Option Fault) :
    c.advance i fault = ⟨(c.move i fault x.state).2.1, (c.move i fault x.state).2.2,
      c.closers.set i { x with state := (c.move i fault x.state).1 }⟩ := by
  simp only [advance, hx]

/-- A caller that gets from one state to another keeps the account, if what it does to the
session and the lock agrees with the two states. -/
theorem Sound.set (h : c.Sound) (hx : c.closers[i]? = some x) {state : CloserState}
    {session : Session} {lock : Option Nat}
    (hlock : ∀ j, j ≠ i → (lock = some j ↔ c.lock = some j))
    (hinside : state.isInside = true ↔ lock = some i)
    (hclosed : session.closed = c.session.closed ∨
      session.closed = true ∧ x.state.isInside = true)
    (hfirst : state = .first → session.closed = false)
    (hknows : state.knows = true → session.closed = true)
    (hclosing : session.closing + x.state.isOnWay.toNat =
      c.session.closing + state.isOnWay.toNat)
    (hcloses : session.closes + x.state.hasCalled.toNat =
      c.session.closes + state.hasCalled.toNat)
    (haccounted : session.IsAccounted) :
    Sound ⟨session, lock, c.closers.set i { x with state }⟩ := by
  have hi : i < c.closers.length := (List.getElem?_eq_some_iff.mp hx).1
  -- A caller of the new row is the one that moved, or one of the others as it was.
  have hmem : ∀ y ∈ c.closers.set i { x with state },
      y = { x with state } ∨ ∃ j, j ≠ i ∧ c.closers[j]? = some y := by
    intro y hy
    obtain ⟨j, hj⟩ := List.mem_iff_getElem?.mp hy
    by_cases hji : j = i
    · subst hji
      rw [List.getElem?_set_self hi] at hj
      exact .inl (Option.some.inj hj).symm
    · rw [List.getElem?_set_ne (Ne.symm hji)] at hj
      exact .inr ⟨j, hji, hj⟩
  refine ⟨?_, ?_, ?_, ?_, ?_, ?_, haccounted⟩
  · intro j y hy
    by_cases hji : j = i
    · subst hji
      rw [List.getElem?_set_self hi] at hy
      cases hy
      exact hinside
    · rw [List.getElem?_set_ne (Ne.symm hji)] at hy
      exact (h.inside_iff j y hy).trans (hlock j hji).symm
  · intro j hj
    rw [List.length_set]
    by_cases hji : j = i
    · exact hji ▸ hi
    · exact h.owner j ((hlock j hji).mp hj)
  · intro y hy hstate
    rcases hmem y hy with rfl | ⟨j, hji, hj⟩
    · exact hfirst hstate
    · rcases hclosed with hsame | ⟨-, hin⟩
      · exact hsame.trans (h.first y (List.mem_of_getElem? hj) hstate)
      · -- Two callers would be inside at the same time.
        have hown := (h.inside_iff i x hx).mp hin
        have hother := (h.inside_iff j y hj).mp (by rw [hstate]; rfl)
        exact absurd (Option.some.inj (hother.symm.trans hown)) hji
  · intro y hy hstate
    rcases hmem y hy with rfl | ⟨j, hji, hj⟩
    · exact hknows hstate
    · have hwas := h.knows y (List.mem_of_getElem? hj) hstate
      rcases hclosed with hsame | ⟨hnow, -⟩
      · exact hsame.trans hwas
      · exact hnow
  · have hcount := countP_set_add (p := fun x : Closer => x.state.isOnWay) hx { x with state }
    have hwas := h.closing_eq
    dsimp only at hcount ⊢
    omega
  · have hcount := countP_set_add (p := fun x : Closer => x.state.hasCalled) hx { x with state }
    have hwas := h.closes_eq
    dsimp only at hcount ⊢
    omega

/-- A caller that gets on without touching the lock or the progress of closing keeps the
account. -/
theorem Sound.set_quiet (h : c.Sound) (hx : c.closers[i]? = some x) {state : CloserState}
    {session : Session} (hsession : session.closings = c.session.closings)
    (hinside : state.isInside = x.state.isInside) (hway : state.isOnWay = x.state.isOnWay)
    (hcalled : state.hasCalled = x.state.hasCalled)
    (hfirst : state = .first → c.session.closed = false)
    (hknows : state.knows = true → c.session.closed = true) :
    Sound ⟨session, c.lock, c.closers.set i { x with state }⟩ := by
  simp only [Session.closings, Prod.mk.injEq] at hsession
  obtain ⟨hclosed, hclosing, hcloses⟩ := hsession
  have haccounted : session.IsAccounted := by
    rw [Session.IsAccounted, hcloses, hclosing, hclosed]
    exact h.accounted
  refine h.set hx (fun j _ => .rfl) ?_ (.inl hclosed) (fun hs => hclosed.trans (hfirst hs))
    (fun hs => hclosed.trans (hknows hs)) ?_ ?_ haccounted
  · rw [hinside]
    exact h.inside_iff i x hx
  · rw [hclosing, hway]
  · rw [hcloses, hcalled]

/-- A caller that gives the lock back and knows that closing is begun keeps the account. -/
theorem Sound.set_release (h : c.Sound) (hx : c.closers[i]? = some x) {state : CloserState}
    (hinside : x.state.isInside = true) (hwas : x.state.knows = true)
    (houtside : state.isInside = false) (hway : state.isOnWay = x.state.isOnWay)
    (hcalled : state.hasCalled = x.state.hasCalled) :
    Sound ⟨c.session, none, c.closers.set i { x with state }⟩ := by
  have hown : c.lock = some i := (h.inside_iff i x hx).mp hinside
  refine h.set hx (fun j hj => ?_) ?_ (.inl rfl) ?_
    (fun _ => h.knows x (List.mem_of_getElem? hx) hwas) ?_ ?_ h.accounted
  · rw [hown]
    exact iff_of_false nofun fun hj' => hj (Option.some.inj hj').symm
  · exact iff_of_false (by rw [houtside]; exact Bool.false_ne_true) nofun
  · rintro rfl
    contradiction
  · rw [hway]
  · rw [hcalled]

/-- A caller that gets on keeps the account. -/
theorem Sound.advance (h : c.Sound) (i : Nat) (fault : Option Fault) :
    (c.advance i fault).Sound := by
  cases hx : c.closers[i]? with
  | none =>
    simp only [ClosingSession.advance, hx]
    exact h
  | some x =>
    obtain ⟨body, state⟩ := x
    have hinside := h.inside_iff i _ hx
    have hfirst := h.first _ (List.mem_of_getElem? hx)
    have hknows := h.knows _ (List.mem_of_getElem? hx)
    have haccounted := h.accounted
    rw [Session.IsAccounted] at haccounted
    rw [advance_eq hx]
    cases state with
    | waiting =>
      cases hlock : c.lock with
      | none =>
        simp only [move, hlock]
        refine h.set hx (fun j hj => ?_) (iff_of_true rfl rfl) (.inl rfl) nofun nofun rfl rfl
          h.accounted
        rw [hlock]
        exact iff_of_false (fun hj' => hj (Option.some.inj hj').symm) nofun
      | some k =>
        simp only [move, hlock]
        rw [← hlock]
        exact h.set_quiet hx rfl rfl rfl rfl nofun nofun
    | holding =>
      cases hclosed : c.session.closed with
      | true =>
        simp only [move, hclosed, if_true]
        exact h.set_quiet hx rfl rfl rfl rfl nofun fun _ => hclosed
      | false =>
        simp only [move, hclosed, Bool.false_eq_true, if_false]
        exact h.set_quiet hx rfl rfl rfl rfl (fun _ => hclosed) nofun
    | first =>
      -- Nothing was begun before, so the note is the only one.
      rw [hfirst rfl, Bool.toNat_false] at haccounted
      refine h.set hx (fun j _ => .rfl) hinside (.inr ⟨rfl, rfl⟩) nofun (fun _ => rfl) rfl rfl ?_
      simp only [move, Session.IsAccounted, Bool.toNat_true]
      omega
    | late => exact h.set_release hx rfl rfl rfl rfl rfl
    | noted => exact h.set_release hx rfl rfl rfl rfl rfl
    | released => exact h.set_quiet hx rfl rfl rfl rfl nofun fun _ => hknows rfl
    | announced =>
      have hway : 0 < c.session.closing := by
        rw [h.closing_eq]
        exact List.countP_pos_iff.mpr ⟨_, List.mem_of_getElem? hx, rfl⟩
      refine h.set hx (fun j _ => .rfl) hinside (.inl rfl) nofun (fun _ => hknows rfl) ?_ ?_ ?_
      · simp only [move, isOnWay, Bool.toNat_true, Bool.toNat_false]
        omega
      · simp only [move, hasCalled, Bool.toNat_true, Bool.toNat_false]
      · simp only [move, Session.IsAccounted]
        omega
    | calling => exact h.set_quiet hx rfl rfl rfl rfl nofun fun _ => hknows rfl
    | turnedAway => exact h.set_quiet hx rfl rfl rfl rfl nofun fun _ => hknows rfl
    | closed fault => exact h.set_quiet hx rfl rfl rfl rfl nofun fun _ => hknows rfl

/-- A caller that comes keeps the account. -/
theorem Sound.arrive (h : c.Sound) (body : Option Fault) : (c.step (.arrive body)).Sound := by
  have hmem : ∀ y ∈ c.closers ++ [⟨body, .waiting⟩], y ∈ c.closers ∨ y = ⟨body, .waiting⟩ := by
    intro y hy
    simpa using hy
  refine ⟨?_, ?_, ?_, ?_, ?_, ?_, h.accounted⟩
  · intro i x hx
    rcases Nat.lt_or_ge i c.closers.length with hi | hi
    · exact h.inside_iff i x (by rwa [step, List.getElem?_append_left hi] at hx)
    · -- The new caller has not got the lock.
      have hlast : x = ⟨body, .waiting⟩ := by
        rw [step, List.getElem?_append_right hi] at hx
        simpa using List.mem_of_getElem? hx
      rw [hlast]
      refine iff_of_false nofun fun hown => ?_
      have hlt := h.owner i hown
      omega
  · intro i hi
    have hlt := h.owner i hi
    simp only [step, List.length_append, List.length_singleton]
    omega
  · intro y hy hstate
    rcases hmem y hy with hold | rfl
    · exact h.first y hold hstate
    · contradiction
  · intro y hy hstate
    rcases hmem y hy with hold | rfl
    · exact h.knows y hold hstate
    · contradiction
  · simp only [step, List.countP_append]
    exact h.closing_eq
  · simp only [step, List.countP_append]
    exact h.closes_eq

/-- What has nothing to do with closing keeps the account. -/
theorem Sound.other (h : c.Sound) {st : Session.Step} (hbegin : st ≠ .beginClose)
    (hclose : st ≠ .closeTransport) : (c.step (.other st hbegin hclose)).Sound := by
  have hkept : (c.session.step st).closings = c.session.closings :=
    Session.closings_step hbegin hclose
  simp only [Session.closings, Prod.mk.injEq] at hkept
  obtain ⟨hclosed, hclosing, hcloses⟩ := hkept
  exact ⟨h.inside_iff, h.owner, fun y hy hstate => hclosed.trans (h.first y hy hstate),
    fun y hy hstate => hclosed.trans (h.knows y hy hstate), hclosing.trans h.closing_eq,
    hcloses.trans h.closes_eq, h.accounted.step st⟩

/-- Every step keeps the account. -/
theorem Sound.step (h : c.Sound) (st : Step) : (c.step st).Sound := by
  cases st with
  | arrive body => exact h.arrive body
  | advance closer fault => exact h.advance closer fault
  | other st hbegin hclose => exact h.other hbegin hclose

/-- Every run keeps the account. -/
theorem Sound.steps (h : c.Sound) (row : List Step) : (c.steps row).Sound := by
  induction row generalizing c with
  | nil => exact h
  | cons st row ih => exact ih (h.step st)

/-- The transport is closed at most once. -/
theorem Sound.closes_le_one (h : c.Sound) : c.session.closes ≤ 1 := h.accounted.closes_le_one

/-- A caller that is through leaves a fetcher behind whose closing is begun. -/
theorem Sound.closed_of_isOver (h : c.Sound) (hx : x ∈ c.closers) (hover : x.state.isOver = true) :
    c.session.closed = true :=
  h.knows x hx (knows_of_isOver hover)

/-- When some callers closed the fetcher and all are through, the transport was closed once. -/
theorem Sound.closes_eq_one (h : c.Sound) (hsome : c.closers ≠ [])
    (hover : ∀ x ∈ c.closers, x.state.isOver = true) : c.session.closes = 1 := by
  obtain ⟨x, hx⟩ := List.exists_mem_of_ne_nil _ hsome
  have hclosed : c.session.closed = true := h.closed_of_isOver hx (hover x hx)
  have hnone : c.session.closing = 0 := by
    rw [h.closing_eq, List.countP_eq_zero]
    intro y hy
    rw [isOnWay_of_isOver (hover y hy)]
    exact Bool.false_ne_true
  have haccounted := h.accounted
  rw [Session.IsAccounted, hclosed, hnone, Bool.toNat_true] at haccounted
  exact haccounted

/-- What a caller comes with, if a step is its coming. -/
def Step.body? : Step → Option (Option Fault)
  | .arrive body => some body
  | _ => none

/-- Callers keep what they came with, and the order in which they came. -/
theorem bodies_steps (c : ClosingSession) (row : List Step) :
    (c.steps row).closers.map Closer.body =
      c.closers.map Closer.body ++ row.filterMap Step.body? := by
  induction row generalizing c with
  | nil => simp [steps]
  | cons st row ih =>
    rw [steps, List.foldl_cons]
    refine (ih (c.step st)).trans ?_
    cases st with
    | arrive body => simp [step, Step.body?]
    | advance closer fault =>
      have hsame : (c.advance closer fault).closers.map Closer.body =
          c.closers.map Closer.body := by
        cases hx : c.closers[closer]? with
        | none => simp only [advance, hx]
        | some x =>
          obtain ⟨hi, rfl⟩ := List.getElem?_eq_some_iff.mp hx
          rw [advance_eq hx, List.map_set, ← List.getElem_map Closer.body, List.set_getElem_self]
          rwa [List.length_map]
      rw [step, hsame]
      rfl
    | other st hbegin hclose => rfl

section Progress

/-- How many moves are at most before all callers together. -/
def movesLeft (c : ClosingSession) : Nat := (c.closers.map fun x => x.state.movesLeft).sum

/-- A caller gets on unless it is through or waits for a lock that is taken. -/
theorem movesLeft_move (i : Nat) (fault : Option Fault) {state : CloserState}
    (hover : state.isOver = false) (hfree : state = .waiting → c.lock = none) :
    (c.move i fault state).1.movesLeft < state.movesLeft := by
  cases state with
  | waiting => simp [move, hfree rfl, CloserState.movesLeft]
  | holding =>
    simp only [move]
    split <;> simp [CloserState.movesLeft]
  | turnedAway => contradiction
  | closed fault => contradiction
  | _ => simp [move, CloserState.movesLeft]

/-- While a caller is not through, one of them gets on. -/
theorem Sound.exists_advance (h : c.Sound) (hx : x ∈ c.closers) (hover : x.state.isOver = false) :
    ∃ i, (c.advance i none).movesLeft < c.movesLeft := by
  -- Whoever has the lock can move; if nobody has it, everybody can.
  have hmover : ∃ (i : Nat) (y : Closer), c.closers[i]? = some y ∧ y.state.isOver = false ∧
      (y.state = .waiting → c.lock = none) := by
    cases hlock : c.lock with
    | none =>
      obtain ⟨i, hi⟩ := List.mem_iff_getElem?.mp hx
      exact ⟨i, x, hi, hover, fun _ => rfl⟩
    | some i =>
      have hi := List.getElem?_eq_getElem (h.owner i hlock)
      have hinside := (h.inside_iff i _ hi).mpr hlock
      refine ⟨i, _, hi, isOver_of_isInside hinside, fun hwaiting => ?_⟩
      rw [hwaiting] at hinside
      contradiction
  obtain ⟨i, y, hi, hrest, hfree⟩ := hmover
  have hless := movesLeft_move i none hrest hfree
  have htotal := sum_map_set_add (fun x : Closer => x.state.movesLeft) hi
    { y with state := (c.move i none y.state).1 }
  refine ⟨i, ?_⟩
  rw [advance_eq hi]
  simp only [movesLeft] at htotal ⊢
  omega

/-- Callers that are left to move come all through. -/
theorem Sound.exists_over (h : c.Sound) :
    ∃ row, (∀ st ∈ row, ∃ i, st = .advance i none) ∧
      ∀ x ∈ (c.steps row).closers, x.state.isOver = true := by
  induction hn : c.movesLeft using Nat.strongRecOn generalizing c with
  | _ n ih =>
    by_cases hsome : ∃ x ∈ c.closers, x.state.isOver = false
    · obtain ⟨x, hx, hover⟩ := hsome
      obtain ⟨i, hless⟩ := h.exists_advance hx hover
      obtain ⟨row, hrow, hend⟩ := ih _ (hn ▸ hless) (h.advance i none) rfl
      exact ⟨.advance i none :: row, List.forall_mem_cons.mpr ⟨⟨i, rfl⟩, hrow⟩, hend⟩
    · exact ⟨[], nofun, fun x hx => Bool.of_not_eq_false fun hover => hsome ⟨x, hx, hover⟩⟩

end Progress

section Alone

/-- The caller that came last gets on. -/
theorem advance_last (s : Session) (lock : Option Nat) (xs : List Closer) (body : Option Fault)
    (state : CloserState) (fault : Option Fault) :
    advance ⟨s, lock, xs ++ [⟨body, state⟩]⟩ xs.length fault =
      ⟨(move ⟨s, lock, xs ++ [⟨body, state⟩]⟩ xs.length fault state).2.1,
        (move ⟨s, lock, xs ++ [⟨body, state⟩]⟩ xs.length fault state).2.2,
        xs ++ [⟨body, (move ⟨s, lock, xs ++ [⟨body, state⟩]⟩ xs.length fault state).1⟩]⟩ := by
  rw [advance_eq List.getElem?_concat_length]
  simp

/-- A caller that finds the lock free and is left to itself does what ending a block does. -/
theorem steps_alone {f : Fetcher} (hsession : f.session = c.session) (hfree : c.lock = none)
    (body : Option Fault) :
    ∃ x : Closer, x.state.isOver = true ∧ x.raised = (f.leave body).2 ∧
      c.steps (.arrive body :: List.replicate 7 (.advance c.closers.length f.client.closeFault)) =
        ⟨(f.leave body).1.session, none, c.closers ++ [x]⟩ := by
  obtain ⟨s, lock, xs⟩ := c
  obtain ⟨executor, client, session⟩ := f
  dsimp only at hsession hfree
  subst hsession hfree
  cases hclosed : session.closed with
  | true =>
    refine ⟨⟨body, .turnedAway⟩, rfl, ?_, ?_⟩
    · simp [Closer.raised, Fetcher.leave, Fetcher.close, hclosed]
    · simp [steps, List.replicate, step, advance_last, move, Fetcher.leave, Fetcher.close, hclosed]
  | false =>
    refine ⟨⟨body, .closed client.closeFault⟩, rfl, ?_, ?_⟩
    · simp [Closer.raised, Fetcher.leave, Fetcher.close, hclosed]
    · simp [steps, List.replicate, step, advance_last, move, Fetcher.leave, Fetcher.close, hclosed,
        Fetcher.take, Session.steps, Session.step]

end Alone

/-- In every run the transport is closed at most once, by those callers that the count tells, and
exactly once when some caller came and all are through, whatever closing it raised. A caller
that is through leaves a fetcher whose closing is begun, and raises what its block raised unless
its own call to close the transport raised. Callers are never stuck: from everywhere they can all
come through. One that finds the lock free and is left to itself does what closing a fetcher or
ending a block does, and fetches of every form close nothing. -/
theorem closing_laws (sink : LogSink) (row : List Step) :
    ((fresh sink).steps row).session.closes ≤ 1 ∧
    ((fresh sink).steps row).session.closes =
      ((fresh sink).steps row).closers.countP (fun x => x.state.hasCalled) ∧
    ((fresh sink).steps row).closers.map Closer.body = row.filterMap Step.body? ∧
    (row.filterMap Step.body? ≠ [] →
      (∀ x ∈ ((fresh sink).steps row).closers, x.state.isOver = true) →
      ((fresh sink).steps row).session.closes = 1) ∧
    (∀ x ∈ ((fresh sink).steps row).closers, x.state.isOver = true →
      ((fresh sink).steps row).session.closed = true ∧
      ((∀ fault, x.state ≠ .closed (some fault)) → x.raised = x.body)) ∧
    (∃ rest : List Step, (∀ st ∈ rest, ∃ i, st = .advance i none) ∧
      ∀ x ∈ (((fresh sink).steps row).steps rest).closers, x.state.isOver = true) ∧
    (∀ f : Fetcher, f.session = ((fresh sink).steps row).session →
      ((fresh sink).steps row).lock = none →
      ∀ body, ∃ x : Closer, x.state.isOver = true ∧ x.raised = (f.leave body).2 ∧
        ((fresh sink).steps row).steps (.arrive body ::
          List.replicate 7
            (.advance ((fresh sink).steps row).closers.length f.client.closeFault)) =
          ⟨(f.leave body).1.session, none, ((fresh sink).steps row).closers ++ [x]⟩) ∧
    (∀ f : Fetcher, f.leave none = f.close ∧ ∀ fault : Fault,
      (f.leave (some fault)).1.session.closed = true ∧
      (f.client.closeFault = none → (f.leave (some fault)).2 = some fault)) ∧
    ∀ (f : Fetcher) (name : InstanceName) (key : ClientKey) (timeout : Timeout),
      (f.fetch name key).1.session.closes = f.session.closes ∧
      (f.fetchAndWait name key timeout).1.session.closes = f.session.closes ∧
      (f.fetchWithRetry name key timeout).fetcher.session.closes = f.session.closes := by
  have hsound : ((fresh sink).steps row).Sound := (sound_fresh sink).steps row
  have hbodies : ((fresh sink).steps row).closers.map Closer.body = row.filterMap Step.body? :=
    bodies_steps (fresh sink) row
  have hcloses : ∀ {f g : Fetcher}, f.AdvancesBy Session.Step.IsUse g →
      g.session.closes = f.session.closes :=
    fun hused => (Prod.mk.inj (Prod.mk.inj hused.closings_eq).2).2
  refine ⟨hsound.closes_le_one, hsound.closes_eq, hbodies, fun hcame hover => ?_,
    fun x hx hover => ⟨hsound.closed_of_isOver hx hover, x.raised_eq_body hover⟩,
    hsound.exists_over, fun f hsession hfree => steps_alone hsession hfree,
    fun f => ⟨f.leave_none, fun fault => f.leave_some fault⟩, fun f name key timeout => ?_⟩
  · refine hsound.closes_eq_one (fun hnobody => hcame ?_) hover
    rw [← hbodies, hnobody, List.map_nil]
  · exact ⟨hcloses (f.used_fetch name key), hcloses (f.used_fetchAndWait name key timeout),
      hcloses (f.used_fetchWithRetry name key timeout)⟩

/-- What closing a transport that is gone raises. -/
def lostTransport : Fault := .outside .plain "RuntimeError" [.text "transport"]

/-- A caller leaves a block by an error and another one asks to close, while a fetch is made. The
second finds the lock taken, and then closing begun, before the first closes the transport, which
raises. -/
def crossedRow : List Step :=
  [.arrive (some .cancelledWork), .arrive none, .advance 0 none, .advance 1 none,
    .other (.fetch sampleName sampleKey) nofun nofun, .advance 0 none, .advance 0 none,
    .advance 0 none, .advance 1 none, .advance 1 none, .advance 1 none, .advance 0 none,
    .advance 0 none, .advance 0 (some lostTransport)]

/-- Callers that cross close the transport once, and only the one that closed it raises what that
raised. -/
theorem closing_laws_crossed :
    ((fresh .silent).steps crossedRow).session.closes = 1 ∧
      ((fresh .silent).steps crossedRow).closers.map Closer.raised =
        [some lostTransport, none] := by
  obtain ⟨-, -, -, hone, hraised, -⟩ := closing_laws .silent crossedRow
  have hclosers : ((fresh .silent).steps crossedRow).closers =
      [⟨some .cancelledWork, .closed (some lostTransport)⟩, ⟨none, .turnedAway⟩] := rfl
  rw [hclosers] at hone hraised
  refine ⟨hone nofun ?_, ?_⟩
  · simp [isOver]
  · have hsecond := (hraised ⟨none, .turnedAway⟩ (by simp) rfl).2 nofun
    rw [hclosers, List.map_cons, List.map_singleton, hsecond]
    rfl

end ClosingSession

end InstanceLink
