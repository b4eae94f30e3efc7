import InstanceLink.Proofs.Fetch.Delivery
import InstanceLink.Proofs.Fetch.Serving
import InstanceLink.Proofs.Tls.Loading
import InstanceLink.Tls.SocketFactory

/-!
# No connection before the credentials

Connecting takes one of six courses: the fetch has no end, the fetch fails, the context
fails, the bundle has no address of the wanted kind, the attempt cannot be logged, or a
connection is opened. All but the last open none and end with the fault of their own stage. The
last opens one, to the bundle's address, with the bundle's context already there.
-/

namespace InstanceLink

variable {Context : Type}

/-- Whether an event is the opening of a connection. -/
def ConnectEvent.isOpened : ConnectEvent Context → Bool
  | .opened _ _ _ => true
  | _ => false

namespace SocketFactory

variable {f : SocketFactory} {sink : LogSink} {layer : SocketLayer}
  {prepare : ConnectionInfo → Except Fault Context} {timeout : Timeout} {waited : Waited}
  {events : List (ConnectEvent Context)}
  {outcome : Option (Except Fault Unit)}

/-- The outcome of the fetch that connecting starts with. -/
def fetched (f : SocketFactory) (x : Fetcher) (timeout : Timeout) : Waited :=
  (x.fetchAndWait f.instanceName f.key timeout).2

/-- The courses that connecting can take, by the outcome of its fetch: the events, and what
the caller gets. -/
inductive Course (f : SocketFactory) (sink : LogSink) (layer : SocketLayer)
    (prepare : ConnectionInfo → Except Fault Context) (timeout : Timeout) :
    Waited → List (ConnectEvent Context) → Option (Except Fault Unit) → Prop where
  /-- The fetch has no end. -/
  | endless : Course f sink layer prepare timeout none [] none
  /-- The fetch fails. -/
  | unfetched (fault : Fault) :
    Course f sink layer prepare timeout (some (.error fault)) [] (some (.error fault))
  /-- There is no context for the bundle. -/
  | unprepared (info : ConnectionInfo) (fault : Fault) (hprepare : prepare info = .error fault) :
    Course f sink layer prepare timeout (some (.ok info)) [] (some (.error fault))
  /-- The bundle has no address of the wanted kind. -/
  | unaddressed (info : ConnectionInfo) (context : Context) (fault : Fault)
      (hprepare : prepare info = .ok context)
      (haddress : info.addressFor f.addressKind = .error fault) :
    Course f sink layer prepare timeout (some (.ok info)) [.prepared context] (some (.error fault))
  /-- The log call for the attempt is left by a fault. -/
  | unlogged (info : ConnectionInfo) (context : Context) (host : String) (fault : Fault)
      (hprepare : prepare info = .ok context) (haddress : info.addressFor f.addressKind = .ok host)
      (hlog : sink.fault? (f.connectingRecord host) = some fault) :
    Course f sink layer prepare timeout (some (.ok info)) [.prepared context] (some (.error fault))
  /-- A connection to the address is opened. -/
  | opening (info : ConnectionInfo) (context : Context) (host : String)
      (after : List (ConnectEvent Context)) (result : Except Fault Unit)
      (hprepare : prepare info = .ok context) (haddress : info.addressFor f.addressKind = .ok host)
      (hlog : sink.fault? (f.connectingRecord host) = none)
      (hopen : openSecure layer host timeout = (.opened host port timeout :: after, result)) :
    Course f sink layer prepare timeout (some (.ok info))
      (.prepared context :: .opened host port timeout :: after) (some result)

/-- What the stage behind an address does: it opens one connection to it, puts the secure
transport for the same address over it if the connection is there, and may close it again. -/
theorem openSecure_cases (layer : SocketLayer) (host : String) (timeout : Timeout) :
    ∃ after : List (ConnectEvent Context), ∃ result,
      openSecure layer host timeout = (.opened host port timeout :: after, result) ∧
      (after = [] ∨ after = [.wrapped host] ∨ after = [.wrapped host, .closed]) := by
  obtain ⟨openFault, wrapping⟩ := layer
  cases openFault with
  | some fault => exact ⟨[], _, rfl, .inl rfl⟩
  | none =>
    cases wrapping with
    | done => exact ⟨[.wrapped host], _, rfl, .inr (.inl rfl)⟩
    | refused fault =>
      simp only [openSecure]
      split
      · exact ⟨[.wrapped host, .closed], _, rfl, .inr (.inr rfl)⟩
      · exact ⟨[.wrapped host], _, rfl, .inr (.inl rfl)⟩
    | failed fault => exact ⟨[.wrapped host, .closed], _, rfl, .inr (.inr rfl)⟩

/-- The stages behind a bundle keep to the courses. -/
theorem course_connectWith (f : SocketFactory) (sink : LogSink) (layer : SocketLayer)
    (prepare : ConnectionInfo → Except Fault Context) (info : ConnectionInfo)
    (timeout : Timeout) :
    Course f sink layer prepare timeout (some (.ok info))
      (f.connectWith sink layer prepare info timeout).1
      (some (f.connectWith sink layer prepare info timeout).2.2) := by
  rw [connectWith]
  cases hprepare : prepare info with
  | error fault => exact .unprepared info fault hprepare
  | ok context =>
    cases haddress : info.addressFor f.addressKind with
    | error fault => exact .unaddressed info context fault hprepare haddress
    | ok host =>
      cases hlog : sink.fault? (f.connectingRecord host) with
      | some fault =>
        simp only [hlog]
        exact .unlogged info context host fault hprepare haddress hlog
      | none =>
        obtain ⟨after, result, hopen, -⟩ := @openSecure_cases Context layer host timeout
        simp only [hlog, hopen]
        exact .opening info context host after result hprepare haddress hlog hopen

/-- Connecting keeps to the courses. -/
theorem course_connect (f : SocketFactory) (layer : SocketLayer)
    (prepare : ConnectionInfo → Except Fault Context) (x : Fetcher) (timeout : Timeout) :
    Course f x.session.sink layer prepare timeout (f.fetched x timeout)
      (f.connect layer prepare x timeout).events (f.connect layer prepare x timeout).outcome := by
  simp only [connect, fetched]
  cases (x.fetchAndWait f.instanceName f.key timeout).2 with
  | none => exact .endless
  | some answer =>
    cases answer with
    | error fault => exact .unfetched fault
    | ok info => exact course_connectWith f _ layer prepare info timeout

/-- What follows an opening opens no other connection. -/
theorem after_of_openSecure {host : String} {after : List (ConnectEvent Context)}
    {result : Except Fault Unit}
    (h : openSecure layer host timeout = (.opened host port timeout :: after, result)) :
    after = [] ∨ after = [.wrapped host] ∨ after = [.wrapped host, .closed] := by
  obtain ⟨_, _, hopen, hafter⟩ := @openSecure_cases Context layer host timeout
  rw [hopen] at h
  cases h
  exact hafter

namespace Course

/-- No course opens more than one connection. -/
theorem countP_isOpened_le (h : Course f sink layer prepare timeout waited events outcome) :
    events.countP ConnectEvent.isOpened ≤ 1 := by
  cases h with
  | endless => exact Nat.zero_le 1
  | unfetched fault => exact Nat.zero_le 1
  | unprepared info fault hprepare => exact Nat.zero_le 1
  | unaddressed info context fault hprepare haddress => exact Nat.zero_le 1
  | unlogged info context host fault hprepare haddress hlog => exact Nat.zero_le 1
  | opening info context host after result hprepare haddress hlog hopen =>
    rcases after_of_openSecure hopen with rfl | rfl | rfl
    · exact Nat.le_refl 1
    · exact Nat.le_refl 1
    · exact Nat.le_refl 1

/-- An opened connection has a bundle, a context for it and the bundle's address behind it, and
what follows is the secure transport for that same address. -/
theorem of_opened {before after : List (ConnectEvent Context)} {host : String} {number : Nat}
    {limit : Timeout} (h : Course f sink layer prepare timeout waited events outcome)
    (hevents : events = before ++ .opened host number limit :: after) :
    ∃ info context, waited = some (.ok info) ∧ prepare info = .ok context ∧
      info.addressFor f.addressKind = .ok host ∧ number = port ∧ limit = timeout ∧
      before = [.prepared context] ∧
      (after = [] ∨ after = [.wrapped host] ∨ after = [.wrapped host, .closed]) := by
  have hmem : .opened host number limit ∈ events := by
    rw [hevents]
    exact List.mem_append_right _ List.mem_cons_self
  cases h with
  | endless => contradiction
  | unfetched fault => contradiction
  | unprepared info fault hprepare => contradiction
  | unaddressed info context fault hprepare haddress =>
    rw [List.mem_singleton] at hmem
    contradiction
  | unlogged info context address fault hprepare haddress hlog =>
    rw [List.mem_singleton] at hmem
    contradiction
  | opening info context address rest result hprepare haddress hlog hopen =>
    have hrest := after_of_openSecure hopen
    have hnone : ∀ event ∈ rest, event.isOpened = false := by
      rcases hrest with rfl | rfl | rfl <;> simp [ConnectEvent.isOpened]
    -- The opening stands right behind the context: no event of the rest is one.
    match before, hevents with
    | [], hevents => cases hevents
    | [first], hevents =>
      cases hevents
      exact ⟨info, context, rfl, hprepare, haddress, rfl, rfl, rfl, hrest⟩
    | first :: second :: between, hevents =>
      cases hevents
      exact absurd (hnone (.opened host number limit) (by simp)) (by simp [ConnectEvent.isOpened])

/-- A fetch without end opens nothing. -/
theorem of_endless (h : Course f sink layer prepare timeout none events outcome) :
    events = [] ∧ outcome = none := by
  cases h
  exact ⟨rfl, rfl⟩

/-- A failed fetch opens nothing, and its fault is the outcome. -/
theorem of_unfetched {fault : Fault}
    (h : Course f sink layer prepare timeout (some (.error fault)) events outcome) :
    events = [] ∧ outcome = some (.error fault) := by
  cases h
  exact ⟨rfl, rfl⟩

/-- A bundle without a context opens nothing, and the fault of the context is the outcome. -/
theorem of_unprepared {info : ConnectionInfo} {fault : Fault}
    (hprepare : prepare info = .error fault)
    (h : Course f sink layer prepare timeout (some (.ok info)) events outcome) :
    events = [] ∧ outcome = some (.error fault) := by
  cases h with
  | unprepared _ found hfound =>
    cases hprepare.symm.trans hfound
    exact ⟨rfl, rfl⟩
  | unaddressed _ context found hfound haddress => cases hprepare.symm.trans hfound
  | unlogged _ context host found hfound haddress hlog => cases hprepare.symm.trans hfound
  | opening _ context host after result hfound haddress hlog hopen =>
    cases hprepare.symm.trans hfound

/-- A bundle without an address of the wanted kind opens nothing, and the fault of the address is
the outcome. -/
theorem of_unaddressed {info : ConnectionInfo} {context : Context} {fault : Fault}
    (hprepare : prepare info = .ok context)
    (haddress : info.addressFor f.addressKind = .error fault)
    (h : Course f sink layer prepare timeout (some (.ok info)) events outcome) :
    events = [.prepared context] ∧ outcome = some (.error fault) := by
  cases h with
  | unprepared _ found hfound => cases hprepare.symm.trans hfound
  | unaddressed _ other found hfound hnone =>
    cases hprepare.symm.trans hfound
    cases haddress.symm.trans hnone
    exact ⟨rfl, rfl⟩
  | unlogged _ other host found hfound hsome hlog => cases haddress.symm.trans hsome
  | opening _ other host after result hfound hsome hlog hopen => cases haddress.symm.trans hsome

/-- A bundle with a context and an address opens nothing where the log call for the attempt is left
by a fault, and that fault is the outcome. -/
theorem of_unlogged {info : ConnectionInfo} {context : Context} {host : String} {fault : Fault}
    (hprepare : prepare info = .ok context) (haddress : info.addressFor f.addressKind = .ok host)
    (hlog : sink.fault? (f.connectingRecord host) = some fault)
    (h : Course f sink layer prepare timeout (some (.ok info)) events outcome) :
    events = [.prepared context] ∧ outcome = some (.error fault) := by
  cases h with
  | unprepared _ found hfound => cases hprepare.symm.trans hfound
  | unaddressed _ other found hfound hnone => cases haddress.symm.trans hnone
  | unlogged _ other address found hfound hsome hleft =>
    cases hprepare.symm.trans hfound
    cases haddress.symm.trans hsome
    cases hlog.symm.trans hleft
    exact ⟨rfl, rfl⟩
  | opening _ other address after result hfound hsome hquiet hopen =>
    cases haddress.symm.trans hsome
    cases hlog.symm.trans hquiet

/-- A bundle with a context and an address otherwise opens a connection to the address. -/
theorem of_addressed {info : ConnectionInfo} {context : Context} {host : String}
    (hprepare : prepare info = .ok context) (haddress : info.addressFor f.addressKind = .ok host)
    (hlog : sink.fault? (f.connectingRecord host) = none)
    (h : Course f sink layer prepare timeout (some (.ok info)) events outcome) :
    ∃ after, events = .prepared context :: .opened host port timeout :: after := by
  cases h with
  | unprepared _ found hfound => cases hprepare.symm.trans hfound
  | unaddressed _ other found hfound hnone => cases haddress.symm.trans hnone
  | unlogged _ other address found hfound hsome hleft =>
    cases haddress.symm.trans hsome
    cases hlog.symm.trans hleft
  | opening _ other address after result hfound hsome hquiet hopen =>
    cases hprepare.symm.trans hfound
    cases haddress.symm.trans hsome
    exact ⟨after, rfl⟩

end Course

/-- A factory has a context for a bundle exactly when its key exists and one can be made of both. -/
theorem ownContext_eq_ok_iff {info : ConnectionInfo} {context : TlsContext} :
    f.ownContext info = .ok context ↔
      ∃ key, f.key = .ok key ∧ TlsContext.create info key = .ok context := by
  rw [ownContext]
  cases f.key with
  | error fault => simp only [reduceCtorEq, false_and, exists_false]
  | ok key => simp only [Except.ok.injEq, exists_eq_left']

/-- A bundle has an address of a kind exactly when one that is not empty is stored. -/
theorem addressFor_eq_ok_iff {info : ConnectionInfo} {kind : AddressKind} {host : String} :
    info.addressFor kind = .ok host ↔ info.address? kind = some host := by
  rw [ConnectionInfo.addressFor]
  cases info.address? kind with
  | none => simp only [reduceCtorEq]
  | some address => simp only [Except.ok.injEq, Option.some.injEq]

/-- Without such an address the fault names the instance and the kind. -/
theorem addressFor_of_address?_eq_none {info : ConnectionInfo} {kind : AddressKind}
    (h : info.address? kind = none) :
    info.addressFor kind = .error (.rule ("instance " ++ info.instanceUid ++ " has no " ++
      kind.name ++ " address")) := by
  rw [ConnectionInfo.addressFor, h]

/-- Every bundle that two answers make up is what some fetcher gives a factory with a key. -/
theorem fetched_of_assemble {key : RsaKey} (hkey : f.key = .ok key) {a : MetadataResponse}
    {b : CertificateResponse} {info : ConnectionInfo} (h : assemble a b = .ok info)
    (timeout : Timeout) :
    f.fetched (.fresh .inline ⟨[.reply (.ok a)], [.reply (.ok b)], none⟩) timeout =
      some (.ok info) := by
  have hmeets : Fetcher.Meets (.fresh .inline ⟨[.reply (.ok a)], [.reply (.ok b)], none⟩)
      (.ok a) (.ok b) := ⟨AdminClient.turn_singleton _ _, AdminClient.turn_singleton _ _⟩
  have hcombine : combine (.returned a) (.returned b) = .bundle info :=
    combine_eq_bundle_iff.mpr ⟨a, b, rfl, rfl, h⟩
  obtain ⟨y, waited, -, hserved, hgives, -⟩ := @Fetcher.fetchAndWait_served _ f.instanceName
    (.ok key) _ _ hmeets rfl rfl rfl trivial timeout
  have hjoined : combine (Call.answered (.ok a)) (certificateEnd (.ok key) (.ok b)) =
      .bundle info := hcombine
  rw [hjoined] at hgives
  obtain ⟨answer, hanswer, hwaited⟩ := hgives.calm (LogSink.isCalm_bundle _ _ info)
  cases hanswer
  rw [fetched, hkey, hserved]
  exact hwaited

/-- A connection is opened at most once, and only with the credentials at hand: the fetch returned a
bundle, the bundle and the factory's key made a context, and the bundle has an address of the
wanted kind. It goes to that address on the port of secure connections, nothing but the context
comes before it, and the secure transport is for the same address. A stage that fails before
that opens none, and its fault is the outcome, the log call for the attempt included; a fetch
without end opens none either. Where no stage fails, a connection is opened. -/
theorem connect_laws {f : SocketFactory} {layer : SocketLayer} {x : Fetcher} {timeout : Timeout}
    {c : Connection TlsContext} (hc : f.connect layer f.ownContext x timeout = c) :
    c.events.countP ConnectEvent.isOpened ≤ 1 ∧
    (∀ before host number limit after, c.events = before ++ .opened host number limit :: after →
      ∃ info key context, f.fetched x timeout = some (.ok info) ∧ f.key = .ok key ∧
        TlsContext.create info key = .ok context ∧ info.address? f.addressKind = some host ∧
        number = 5433 ∧ limit = timeout ∧ before = [.prepared context] ∧
        (after = [] ∨ after = [.wrapped host] ∨ after = [.wrapped host, .closed])) ∧
    (f.fetched x timeout = none → c.events = [] ∧ c.outcome = none) ∧
    (∀ fault, f.fetched x timeout = some (.error fault) →
      c.events = [] ∧ c.outcome = some (.error fault)) ∧
    ∀ info, f.fetched x timeout = some (.ok info) →
      (∀ fault, f.ownContext info = .error fault →
        c.events = [] ∧ c.outcome = some (.error fault)) ∧
      ∀ context, f.ownContext info = .ok context →
        (info.address? f.addressKind = none → c.events = [.prepared context] ∧
          c.outcome = some (.error (.rule ("instance " ++ info.instanceUid ++ " has no " ++
            f.addressKind.name ++ " address")))) ∧
        ∀ host, info.address? f.addressKind = some host →
          (∀ fault, x.session.sink.fault? (f.connectingRecord host) = some fault →
            c.events = [.prepared context] ∧ c.outcome = some (.error fault)) ∧
          (x.session.sink.fault? (f.connectingRecord host) = none →
            ∃ after, c.events = .prepared context :: .opened host 5433 timeout :: after) := by
  have hcourse := course_connect f layer f.ownContext x timeout
  rw [hc] at hcourse
  refine ⟨hcourse.countP_isOpened_le, ?_, ?_, ?_, ?_⟩
  · intro before host number limit after hevents
    obtain ⟨info, context, hfetched, hprepare, haddress, hnumber, hlimit, hbefore, hafter⟩ :=
      hcourse.of_opened hevents
    obtain ⟨key, hkey, hcreate⟩ := ownContext_eq_ok_iff.mp hprepare
    exact ⟨info, key, context, hfetched, hkey, hcreate, addressFor_eq_ok_iff.mp haddress, hnumber,
      hlimit, hbefore, hafter⟩
  · intro hfetched
    rw [hfetched] at hcourse
    exact hcourse.of_endless
  · intro fault hfetched
    rw [hfetched] at hcourse
    exact hcourse.of_unfetched
  · intro info hfetched
    rw [hfetched] at hcourse
    refine ⟨fun fault hprepare => hcourse.of_unprepared hprepare, fun context hprepare => ⟨?_, ?_⟩⟩
    · intro hnone
      exact hcourse.of_unaddressed hprepare (addressFor_of_address?_eq_none hnone)
    · intro host hsome
      have haddress := addressFor_eq_ok_iff.mpr hsome
      exact ⟨fun fault hlog => hcourse.of_unlogged hprepare haddress hlog,
        fun hlog => hcourse.of_addressed hprepare haddress hlog⟩

/-- A factory for the address of an instance inside its network. -/
def privateFactory : SocketFactory := ⟨sampleName, .privateIp, sampleKey⟩

/-- A fetcher that is given the sample answers. -/
def answeredFetcher : Fetcher :=
  .fresh .inline ⟨[.reply (.ok sampleMetadata)], [.reply (.ok sampleCertificates)], none⟩

/-- The sample answers make up a bundle, but its certificates are not for a key that the factory
could use. -/
theorem exists_refused_sample :
    ∃ info, assemble sampleMetadata sampleCertificates = .ok info ∧
      privateFactory.ownContext info = .error (.transport "NO_CERTIFICATE_ASSIGNED") := by
  obtain ⟨certificate, hread, hreadable, hfirst, hother, hkey⟩ : ∃ certificate,
      Certificate.readText plainCertificate = .ok certificate ∧
        certificate.isReadable = true ∧ Strength.refusal? true certificate = none ∧
        Strength.refusal? false certificate = none ∧
        ∀ key, TlsContext.keyRefusal? certificate key = some "NO_CERTIFICATE_ASSIGNED" :=
    ⟨_, rfl, rfl, rfl, rfl, fun _ => rfl⟩
  have hgenuine : certificate.IsGenuine := Certificate.isGenuine_of_read hread
  have hrefused : ∀ ip pub psc uid, privateFactory.ownContext
      ⟨ip, pub, psc, uid, certificate, [certificate], certificate⟩ =
        .error (.transport "NO_CERTIFICATE_ASSIGNED") := by
    intro ip pub psc uid
    have hall : ∀ c ∈ ConnectionInfo.certificates
        ⟨ip, pub, psc, uid, certificate, [certificate], certificate⟩, c.IsGenuine := by
      simpa [ConnectionInfo.certificates, ConnectionInfo.certificateChain] using hgenuine
    have hadmits : Loading.Admits true [certificate, certificate] := ⟨hfirst, hother, trivial⟩
    refine (TlsContext.create_of_admitted hall hreadable hadmits).trans ?_
    rw [hkey]
    rfl
  have hparsed := parsedCertificate_eq_ok_iff.mpr hread
  have hchain : sampleCertificates.chain.mapM parsedCertificate = .ok [certificate, certificate] :=
    mapM_eq_ok_iff.mpr (.cons hparsed (.cons hparsed .nil))
  have hauthority : parsedCertificate sampleCertificates.authority = .ok certificate := hparsed
  simp only [assemble, hchain, hauthority, bind, Except.bind]
  exact ⟨_, rfl, hrefused _ _ _ _⟩

/-- A bundle is fetched, but there is no context for it: its fault is the outcome and nothing is
opened, though the bundle has an address and the socket layer would let it. -/
theorem connect_laws_foreignKey :
    ∃ c info, privateFactory.connect ⟨none, .done⟩ privateFactory.ownContext answeredFetcher
        .unlimited = c ∧
      privateFactory.fetched answeredFetcher .unlimited = some (.ok info) ∧
      privateFactory.ownContext info = .error (.transport "NO_CERTIFICATE_ASSIGNED") ∧
      c.events = [] ∧ c.outcome = some (.error (.transport "NO_CERTIFICATE_ASSIGNED")) := by
  obtain ⟨info, hassemble, hrefused⟩ := exists_refused_sample
  have hfetched : privateFactory.fetched answeredFetcher .unlimited = some (.ok info) :=
    fetched_of_assemble rfl hassemble .unlimited
  obtain ⟨-, -, -, -, hbundle⟩ :=
    @connect_laws privateFactory ⟨none, .done⟩ answeredFetcher .unlimited _ rfl
  obtain ⟨hevents, houtcome⟩ := (hbundle info hfetched).1 _ hrefused
  exact ⟨_, info, rfl, hfetched, hrefused, hevents, houtcome⟩

end SocketFactory

end InstanceLink
