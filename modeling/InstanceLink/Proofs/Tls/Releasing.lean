import InstanceLink.Proofs.Tls.Connecting

/-!
# Which connections are left open

A connection that the socket layer gave is handed on inside the secure transport, or it is
closed before the fault of the secure transport is raised. The one exception are faults that
come before the transport has taken the connection over and are no failure of the operating
system: under these the connection is left open, and nobody who could close it holds it.
-/

namespace InstanceLink

variable {Context : Type}

namespace Connection

/-- An attempt got a connection: it asked for one, and the socket layer gave it. -/
def IsHeld (layer : SocketLayer) (c : Connection Context) : Prop :=
  layer.openFault = none ∧ ∃ event ∈ c.events, event.isOpened = true

/-- An attempt left its connection open: it got one, did not hand it on, and did not close it. -/
def Leaks (layer : SocketLayer) (c : Connection Context) : Prop :=
  c.IsHeld layer ∧ c.outcome ≠ some (.ok ()) ∧ .closed ∉ c.events

end Connection

namespace SocketFactory

variable {f : SocketFactory} {sink : LogSink} {layer : SocketLayer}
  {prepare : ConnectionInfo → Except Fault Context} {x : Fetcher} {timeout : Timeout}
  {waited : Waited} {events : List (ConnectEvent Context)}
  {outcome : Option (Except Fault Unit)}

/-- What becomes of a connection to an address once it is open. -/
inductive Held (layer : SocketLayer) (host : String) :
    List (ConnectEvent Context) → Except Fault Unit → Prop where
  /-- The secure transport is put over it and handed on. -/
  | handedOn (hwrap : layer.wrapping = .done) : Held layer host [.wrapped host] (.ok ())
  /-- The connection is closed, by its opener or by the transport that has taken it over. -/
  | closedAgain (fault : Fault) (hwrap : layer.wrapping.fault? = some fault)
      (hclosed : layer.wrapping = .refused fault → fault.isSystem = true) :
    Held layer host [.wrapped host, .closed] (.error fault)
  /-- The secure transport is refused otherwise than by the operating system. -/
  | abandoned (fault : Fault) (hwrap : layer.wrapping = .refused fault)
      (hsystem : fault.isSystem = false) : Held layer host [.wrapped host] (.error fault)

/-- The stage behind an address leaves an open connection to one of three ends. -/
theorem held_openSecure (hopen : layer.openFault = none) (host : String) (timeout : Timeout) :
    ∃ after : List (ConnectEvent Context), ∃ result,
      openSecure layer host timeout = (.opened host port timeout :: after, result) ∧
        Held layer host after result := by
  simp only [openSecure, hopen]
  cases hwrap : layer.wrapping with
  | done => exact ⟨_, _, rfl, .handedOn hwrap⟩
  | refused fault =>
    cases hsystem : fault.isSystem with
    | true =>
      simp only [hsystem, if_true]
      exact ⟨_, _, rfl, .closedAgain fault (by rw [hwrap]; rfl) fun _ => hsystem⟩
    | false =>
      simp only [hsystem, Bool.false_eq_true, if_false]
      exact ⟨_, _, rfl, .abandoned fault hwrap hsystem⟩
  | failed fault =>
    refine ⟨_, _, rfl, .closedAgain fault (by rw [hwrap]; rfl) fun hrefused => ?_⟩
    rw [hwrap] at hrefused
    contradiction

/-- Of the courses that connecting can take, only the last gets a connection, and it leaves that
to one of the three ends. -/
theorem Course.held (h : Course f sink layer prepare timeout waited events outcome)
    (hopen : layer.openFault = none) (hopened : ∃ event ∈ events, event.isOpened = true) :
    ∃ context host after result, events = .prepared context :: .opened host port timeout :: after ∧
      outcome = some result ∧ Held layer host after result := by
  obtain ⟨event, hmem, hopened⟩ := hopened
  cases h with
  | endless => contradiction
  | unfetched fault => contradiction
  | unprepared info fault hprepare => contradiction
  | unaddressed info context fault hprepare haddress =>
    rw [List.mem_singleton] at hmem
    subst hmem
    contradiction
  | unlogged info context host fault hprepare haddress hlog =>
    rw [List.mem_singleton] at hmem
    subst hmem
    contradiction
  | opening info context host after result hprepare haddress hlog hsecure =>
    obtain ⟨after', result', hsecure', hheld⟩ := @held_openSecure Context layer hopen host timeout
    cases hsecure.symm.trans hsecure'
    exact ⟨context, host, after, result, rfl, rfl, hheld⟩

/-- What becomes of every connection that connecting gets, for every factory, context, fetch and
socket layer. Without a fault of the secure transport it is handed on and not closed. With a
fault, that fault is the outcome. The connection is left open exactly when the fault comes before
the transport has taken it over and is no failure of the operating system, be it a request to stop
the program or any other. Under every other fault it is closed as the last thing before that is
raised. -/
theorem held_connection_laws {c : Connection Context}
    (hc : f.connect layer prepare x timeout = c) (hheld : c.IsHeld layer) :
    (layer.wrapping = .done → c.outcome = some (.ok ()) ∧ .closed ∉ c.events ∧
      ∃ host, c.events.getLast? = some (.wrapped host)) ∧
    ∀ fault, layer.wrapping.fault? = some fault → c.outcome = some (.error fault) ∧
      (c.Leaks layer ↔ layer.wrapping = .refused fault ∧ fault.isSystem = false) ∧
      (¬c.Leaks layer → c.events.getLast? = some .closed) := by
  have hcourse := course_connect f layer prepare x timeout
  rw [hc] at hcourse
  obtain ⟨context, host, after, result, hevents, houtcome, hend⟩ :=
    hcourse.held hheld.1 hheld.2
  have hleaks : c.Leaks layer ↔ c.outcome ≠ some (.ok ()) ∧ .closed ∉ c.events :=
    and_iff_right hheld
  rw [hleaks, hevents, houtcome]
  cases hend with
  | handedOn hwrap =>
    refine ⟨fun _ => ⟨rfl, by simp, host, rfl⟩, fun fault hfault => ?_⟩
    rw [hwrap] at hfault
    contradiction
  | closedAgain fault hwrap hclosed =>
    refine ⟨fun hdone => ?_, fun found hfault => ?_⟩
    · rw [hdone] at hwrap
      contradiction
    · cases hwrap.symm.trans hfault
      refine ⟨rfl, iff_of_false (by simp) ?_, fun _ => rfl⟩
      rintro ⟨hrefused, hsystem⟩
      rw [hclosed hrefused] at hsystem
      contradiction
  | abandoned fault hwrap hsystem =>
    refine ⟨fun hdone => ?_, fun found hfault => ?_⟩
    · rw [hdone] at hwrap
      contradiction
    · rw [hwrap, Wrapping.fault?, Option.some.injEq] at hfault
      subst hfault
      have hopen : .closed ∉ ConnectEvent.prepared context :: .opened host port timeout ::
          [.wrapped host] := by simp
      exact ⟨rfl, iff_of_true ⟨nofun, hopen⟩ ⟨hwrap, hsystem⟩, fun hno => absurd ⟨nofun, hopen⟩ hno⟩

/-- A request to stop the program that comes before the secure transport has the connection. -/
def interruption : Fault := .outside .stop "KeyboardInterrupt" []

/-- A way to prepare that takes every bundle. -/
def anyContext (_ : ConnectionInfo) : Except Fault Unit := .ok ()

/-- A connection over which the program is asked to stop before the secure transport has it is left
open: it was opened to the bundle's address, the caller gets the fault, and nothing closed it. -/
theorem held_connection_laws_interrupted :
    ∃ c : Connection Unit, privateFactory.connect ⟨none, .refused interruption⟩ anyContext
        answeredFetcher .unlimited = c ∧
      c.IsHeld ⟨none, .refused interruption⟩ ∧ c.outcome = some (.error interruption) ∧
      c.Leaks ⟨none, .refused interruption⟩ := by
  obtain ⟨info, hassemble⟩ := exists_assemble_sample
  have hfetched : privateFactory.fetched answeredFetcher .unlimited = some (.ok info) :=
    fetched_of_assemble rfl hassemble .unlimited
  have haddress : info.addressFor privateFactory.addressKind = .ok sampleMetadata.ipAddress := by
    have haddress : info.address? .privateIp =
        (some info.ipAddress).filter fun address => !address.isEmpty := rfl
    rw [(reflects_of_assemble hassemble).ipAddress] at haddress
    exact addressFor_eq_ok_iff.mpr haddress
  have hcourse := course_connect privateFactory ⟨none, .refused interruption⟩ anyContext
    answeredFetcher .unlimited
  rw [hfetched] at hcourse
  have hprepare : anyContext info = .ok () := rfl
  have hlog : answeredFetcher.session.sink.fault?
      (privateFactory.connectingRecord sampleMetadata.ipAddress) = none :=
    LogSink.fault?_of_not_isShown rfl
  obtain ⟨after, hevents⟩ := hcourse.of_addressed hprepare haddress hlog
  have hheld : (privateFactory.connect ⟨none, .refused interruption⟩ anyContext
      answeredFetcher .unlimited).IsHeld ⟨none, .refused interruption⟩ := by
    refine ⟨rfl, .opened sampleMetadata.ipAddress port .unlimited, ?_, rfl⟩
    rw [hevents]
    simp
  obtain ⟨-, hfault⟩ := held_connection_laws rfl hheld
  obtain ⟨houtcome, hleaks, -⟩ := hfault interruption rfl
  exact ⟨_, rfl, hheld, houtcome, hleaks.mpr ⟨rfl, rfl⟩⟩

end SocketFactory

end InstanceLink
