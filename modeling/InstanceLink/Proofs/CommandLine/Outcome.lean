import InstanceLink.Proofs.CommandLine.Cleanup
import InstanceLink.Proofs.Console.Escaping
import InstanceLink.Proofs.Console.FirstLine
import InstanceLink.Proofs.Fetch.Serving
import InstanceLink.Proofs.Fetch.Wording

/-!
# How a run ends

Arguments and configurations that are refused end a run with a status of two, before anything
is asked of the outside. A configured run whose client can be built and closed makes one fetch,
unless it cannot be logged, and its status and errors tell how that ended. The errors are labelled
however narrow the console is, as long as it has a column: a narrow one breaks the label over
several lines, without a column nothing is shown, and digits that are no number leave no console at
all. A console without colours writes what it shows.
-/

namespace InstanceLink

namespace Fetcher

/-- Closing sends nothing and takes up no fetch. -/
theorem close_keeps (x : Fetcher) : x.close.1.session.requests = x.session.requests ∧
    x.close.1.session.fetches = x.session.fetches := by
  unfold close
  split
  · exact ⟨rfl, rfl⟩
  · simp only [take, Session.steps, List.foldl_cons, List.foldl_nil, Session.step]
    constructor <;> split <;> split <;> rfl

end Fetcher

namespace CommandLine

section Labels

/-- What the label of a failure shows, by whether it is terminal. -/
def labelText (isTerminal : Bool) : String :=
  if isTerminal then "Terminal failure:" else "Transient failure (safe to retry):"

/-- A text starts with a label, in its characters that are not blank. -/
def Labels (label text : String) : Prop := Console.ink label.toList <+: Console.ink text.toList

instance (label text : String) : Decidable (Labels label text) :=
  inferInstanceAs (Decidable (_ <+: _))

/-- A text has one of the two labels at most. -/
theorem Labels.eq {a b : Bool} {text : String} (ha : Labels (labelText a) text)
    (hb : Labels (labelText b) text) : a = b := by
  have hor := List.prefix_or_prefix_of_prefix ha hb
  revert hor
  cases a <;> cases b <;> decide

/-- The label of a failure is its text in a style, with a blank behind. -/
theorem exists_style_failureLabel (isTerminal : Bool) :
    ∃ name, Console.IsStyle name ∧ (failureLabel isTerminal).toList =
      '[' :: (name ++ ']' :: ((labelText isTerminal).toList ++ '[' :: '/' ::
        (name ++ ']' :: [' ']))) := by
  cases isTerminal
  · exact ⟨"red".toList, ⟨fun _ => rfl, fun _ => rfl, by decide, by decide, by decide⟩, rfl⟩
  · exact ⟨"bold red".toList, ⟨fun _ => rfl, fun _ => rfl, by decide, by decide, by decide⟩, rfl⟩

/-- What a text must be to stand in a style and to be printed as it is: plain characters of one
cell each, the last of them ink. -/
structure IsPlain (text : List Char) : Prop where
  bracket : '[' ∉ text
  slash : '\\' ∉ text
  mark : '\n' ∉ text
  tab : '\t' ∉ text
  nonempty : text ≠ []
  single : (text.all fun c => Console.cellsOf c = 1) = true
  ink : Console.withoutTrail text = text
  shown : Console.shown text = text

/-- Both labels are plain. -/
theorem isPlain_labelText (isTerminal : Bool) : IsPlain (labelText isTerminal).toList := by
  cases isTerminal <;>
    exact ⟨by decide, by decide, by decide, by decide, by decide, by decide, by decide, rfl⟩

/-- A text has a label on a console of a width: in its ink as soon as there is a column, and as it
is where there is room for it. -/
structure IsLabelled (width : Nat) (label text : String) : Prop where
  ink : 0 < width → Labels label text
  verbatim : label.length ≤ width → label.toList <+: text.toList

/-- The line about a failure can be shown for every message, and has the label of its kind. -/
theorem failureText_eq_ok (width : Nat) (error : ConnectorError) :
    ∃ text, failureText width error = .ok text ∧
      IsLabelled width (labelText (error.kind = .terminal)) text := by
  unfold failureText
  generalize decide (error.kind = .terminal) = isTerminal
  obtain ⟨name, hstyle, hmarkup⟩ := exists_style_failureLabel isTerminal
  have hlabel := isPlain_labelText isTerminal
  have hplain : ∀ c ∈ (labelText isTerminal).toList, c ≠ '[' ∧ c ≠ '\\' := fun c hc =>
    ⟨ne_of_mem_of_not_mem hc hlabel.bracket, ne_of_mem_of_not_mem hc hlabel.slash⟩
  have hsingle : ∀ c ∈ (labelText isTerminal).toList, Console.cellsOf c = 1 := fun c hc =>
    of_decide_eq_true (List.all_eq_true.mp hlabel.single c hc)
  -- Behind the closing tag there is nothing but a space and the message, which is escaped.
  obtain ⟨behind, hrender⟩ := hstyle.render hplain hlabel.nonempty
    (Console.literal_escape error.text.toList)
  have hwhole : (failureLabel isTerminal).toList ++ Console.escape error.text.toList =
      '[' :: (name ++ ']' :: ((labelText isTerminal).toList ++ '[' :: '/' ::
        (name ++ ']' :: ' ' :: Console.escape error.text.toList))) := by
    simp only [hmarkup, List.cons_append, List.append_assoc, List.nil_append]
  rw [hwhole, Console.print, hrender, hlabel.shown]
  by_cases hwidth : width = 0
  · refine ⟨"", by rw [if_pos hwidth]; rfl, fun hpos => absurd hwidth (Nat.ne_of_gt hpos), ?_⟩
    intro hroom
    rw [hwidth, Nat.le_zero, ← String.length_toList] at hroom
    exact absurd (List.length_eq_zero_iff.mp hroom) hlabel.nonempty
  · have hpos := Nat.pos_of_ne_zero hwidth
    refine ⟨_, by rw [if_neg hwidth]; rfl, fun _ => ?_, fun hroom => ?_⟩
    · rw [Labels, String.toList_ofList]
      exact Console.ink_prefix_printedLines hpos hsingle hlabel.mark hlabel.tab _
    · rw [← String.length_toList] at hroom
      rw [String.toList_ofList]
      exact Console.prefix_printedLines hpos hsingle hlabel.mark hlabel.tab hlabel.ink hroom _

end Labels

section Shown

variable {p : Plan} {screen : Screen} {error : ConnectorError}

/-- A failure that was classified and can be written ends a run with a status of one and a labelled
line. -/
theorem showFailure_connector (screen : Screen) (htext : error.textFault? = none) :
    ∃ text, showFailure screen (.connector error) = (.returned 1, .nothing, screen.print text) ∧
      IsLabelled screen.columns (labelText (error.kind = .terminal)) text := by
  obtain ⟨text, hshown, hlabel⟩ := failureText_eq_ok screen.columns error
  exact ⟨text, by simp only [showFailure, htext, hshown], hlabel⟩

/-- A fault that is no classified failure is raised as it is. -/
theorem showFailure_of_not_connector {fault : Fault} (h : fault.isConnector = false) :
    showFailure screen fault = silent (.raised fault) := by
  unfold showFailure
  split
  · contradiction
  · rfl

/-- A run whose bundle is shown, or cannot be, has no status but zero. -/
theorem showBundle_returned {s : Settings} {name : InstanceName} {info : ConnectionInfo}
    {status : Nat} (h : (showBundle s screen name info).1 = .returned status) : status = 0 := by
  unfold showBundle at h
  split at h
  · cases h
    rfl
  · rename_i fault _
    cases fault <;> cases h

/-- A run returns zero only for a bundle, and one only for a failure that was classified and can be
written. -/
theorem showOutcome_returned {outcome : Except Fault ConnectionInfo} {status : Nat}
    (h : (p.showOutcome outcome).1 = .returned status) :
    (status = 0 ∧ ∃ info, outcome = .ok info) ∨
      (status = 1 ∧ ∃ error, outcome = .error (.connector error) ∧ error.textFault? = none) := by
  cases outcome with
  | ok info => exact .inl ⟨showBundle_returned h, info, rfl⟩
  | error fault =>
    rw [Plan.showOutcome] at h
    cases fault with
    | connector error =>
      cases htext : error.textFault? with
      | none =>
        obtain ⟨text, hshown, -⟩ := showFailure_connector p.screens.errors htext
        rw [hshown] at h
        cases h
        exact .inr ⟨rfl, error, rfl, htext⟩
      | some fault =>
        simp only [showFailure, htext] at h
        cases h
    | _ => cases h

/-- A console without colours writes about a failure what it shows. -/
theorem written_showFailure (h : screen.colours = none) (fault : Fault) :
    (showFailure screen fault).2.2.written = (showFailure screen fault).2.2.shown := by
  unfold showFailure
  split
  · split
    · rfl
    · split
      · rw [Screen.print_of_plain h]
        rfl
      · rfl
  · rfl

end Shown

section Fetched

variable {p : Plan} {client : AdminClient} {key : ClientKey}

/-- The fetches of a run are one more than the pauses between them, unless they cannot be
logged. -/
theorem length_fetchedBy (hopen : (p.fetcher client).session.refusal? p.config.instanceName = none)
    (key : ClientKey) : (p.fetchedBy client key).fetcher.session.fetches.length =
      (p.fetchedBy client key).pauses.length + 1 := by
  unfold Plan.fetchedBy fetchOnce
  split
  · obtain ⟨n, -, hretried, -⟩ := (p.fetcher client).fetchWithRetry_eq p.config.instanceName key
      (.decimal p.settings.timeout)
    rw [hretried, List.length_replicate]
    exact (Fetcher.length_afterAttempts hopen key (.decimal p.settings.timeout) (n + 1)).trans
      (Nat.zero_add _)
  · exact Fetcher.length_fetchAndWait hopen key (.decimal p.settings.timeout)

/-- A run without retries that can log its fetch, and whose two calls are answered what can be
reported, is given what its ends combine to. -/
theorem waited_fetchedBy (hretry : p.settings.retry = false)
    (hopen : (p.fetcher client).session.refusal? p.config.instanceName = none)
    {a : Except Fault MetadataResponse} {b : Except Fault CertificateResponse}
    (ha : AdminClient.turn client.metadata 0 = .reply a)
    (hb : AdminClient.turn client.certificate 0 = .reply b)
    (hm : (Call.answered a).isReportable = true)
    (hc : (certificateEnd key b).isReportable = true) :
    Fetcher.Gives p.sink p.config.instanceName (combine (Call.answered a) (certificateEnd key b))
      (.decimal p.settings.timeout) (p.fetchedBy client key).waited := by
  have hmeets : (p.fetcher client).Meets a b := ⟨ha, hb⟩
  have hidle : (p.fetcher client).FinishesAtOnce :=
    ⟨Nat.lt_of_lt_of_le Nat.zero_lt_two p.config.two_le_maxWorkers, List.forall_mem_nil _⟩
  obtain ⟨y, waited, -, hwaited, hgives, -⟩ := Fetcher.fetchAndWait_served hmeets hm hc hopen hidle
    (.decimal p.settings.timeout)
  simp only [Plan.fetchedBy, fetchOnce, hretry, Bool.false_eq_true, if_false, hwaited]
  exact hgives

/-- The failure of a run's fetch can be written. -/
theorem textFault?_of_fetchedBy {error : ConnectorError}
    (h : (p.fetchedBy client key).waited = some (.error (.connector error))) :
    error.textFault? = none := by
  unfold Plan.fetchedBy fetchOnce at h
  split at h
  · exact Fetcher.textFault?_of_fetchWithRetry h
  · exact (Fetcher.Advances.refl _).textFault?_of_fetchAndWait h

/-- A fetch that cannot be logged is not made, and its log call's fault is what comes of it. -/
theorem fetchedBy_of_refusal {fault : Fault}
    (h : (p.fetcher client).session.refusal? p.config.instanceName = some fault)
    (key : ClientKey) : p.fetchedBy client key =
      ⟨(p.fetcher client).take [.fetch p.config.instanceName key], [], some (.error fault)⟩ := by
  have hlog : p.sink.fault? (FetchEvent.fetching p.config.instanceName).record = some fault := by
    rw [Session.refusal?] at h
    exact (Option.or_none ▸ h : _)
  obtain ⟨cause, rfl⟩ := LogSink.exists_cause_of_fault? hlog
  have hwaited : (p.fetcher client).fetchAndWait p.config.instanceName key
      (.decimal p.settings.timeout) = ((p.fetcher client).take [.fetch p.config.instanceName key],
        some (.error cause.fault)) := by
    rw [Fetcher.fetchAndWait, Fetcher.fetch]
    simp only [h]
  unfold Plan.fetchedBy fetchOnce
  split
  · rw [Fetcher.fetchWithRetry, RetryRule.standard, Fetcher.retryFrom, hwaited]
    rfl
  · rw [hwaited]

end Fetched

/-- A run was refused: it has a status of two, and asked nothing of the outside. -/
structure Run.IsRefused (r : Run) : Prop where
  ending : r.ending = .exited 2
  keysMade : r.keysMade = 0
  executor : r.executor = []
  session : ∃ sink, r.session = .fresh sink

/-- A run whose errors go to a console tells how its one fetch ended. -/
structure Run.Tells (r : Run) (screen : Screen) (fetched : Retried) : Prop where
  requests : r.session.requests = fetched.fetcher.session.requests
  pauses : r.pauses = fetched.pauses
  fetches : r.session.fetches.length = fetched.fetcher.session.fetches.length
  fails : r.ending = .returned 1 ↔ ∃ error, fetched.waited = some (.error (.connector error))
  output : r.ending = .returned 1 → r.output = .nothing
  label : 0 < screen.columns → ∀ error, fetched.waited = some (.error (.connector error)) →
    (Labels "Terminal failure:" r.errors.shown ↔ error.kind = .terminal) ∧
    (Labels "Transient failure (safe to retry):" r.errors.shown ↔ error.kind ≠ .terminal)
  verbatim : ∀ error, fetched.waited = some (.error (.connector error)) →
    (labelText (error.kind = .terminal)).length ≤ screen.columns →
    (labelText (error.kind = .terminal)).toList <+: r.errors.shown.toList
  written : screen.colours = none → r.errors.written = r.errors.shown
  raised : ∀ fault, fetched.waited = some (.error fault) → fault.isConnector = false →
    r.ending = .raised fault
  succeeds : r.ending = .returned 0 → ∃ info, fetched.waited = some (.ok info)

section Runs

variable {p : Plan} {outside : Outside} {around : Surroundings} {client : AdminClient}

/-- A planned run whose transport closes tells how its fetch ended. -/
theorem tells_run (h : outside.admin = .ok client) (hclose : client.closeFault = none) :
    (p.run outside).Tells p.screens.errors (p.fetchedBy client outside.key) := by
  obtain ⟨outcome, hwaited⟩ := p.exists_waited_fetchedBy client outside.key
  obtain ⟨fetched, hfetched⟩ : ∃ fetched, p.fetchedBy client outside.key = fetched := ⟨_, rfl⟩
  obtain ⟨shown, hshown⟩ : ∃ shown, p.showOutcome outcome = shown := ⟨_, rfl⟩
  rw [hfetched] at hwaited
  rw [run_of_closed h hclose hfetched hwaited hshown, hfetched]
  -- A classified failure decides all that is shown.
  have hconnector : ∀ error, fetched.waited = some (.error (.connector error)) →
      ∃ text, shown = (.returned 1, .nothing, p.screens.errors.print text) ∧
        IsLabelled p.screens.errors.columns (labelText (error.kind = .terminal)) text := by
    intro error herror
    have htext := textFault?_of_fetchedBy ((congrArg Retried.waited hfetched).trans herror)
    obtain ⟨text, hfailure, hlabel⟩ := showFailure_connector p.screens.errors htext
    cases hwaited.symm.trans herror
    rw [Plan.showOutcome, hfailure] at hshown
    exact ⟨text, hshown.symm, hlabel⟩
  have hone : shown.1 = .returned 1 →
      ∃ error, fetched.waited = some (.error (.connector error)) := by
    intro hending
    rcases showOutcome_returned (hshown ▸ hending) with ⟨hzero, -⟩ | ⟨-, error, rfl, -⟩
    · contradiction
    · exact ⟨error, hwaited⟩
  obtain ⟨-, hrequests, hfetches⟩ := stopExecutor_keeps fetched.fetcher.close.1
  constructor
  case requests => exact hrequests.trans fetched.fetcher.close_keeps.1
  case pauses => rfl
  case fetches => rw [hfetches, fetched.fetcher.close_keeps.2]
  case fails =>
    refine ⟨hone, ?_⟩
    rintro ⟨error, herror⟩
    obtain ⟨text, rfl, -⟩ := hconnector error herror
    rfl
  case output =>
    intro hending
    obtain ⟨error, herror⟩ := hone hending
    obtain ⟨text, rfl, -⟩ := hconnector error herror
    rfl
  case label =>
    intro hcolumns error herror
    obtain ⟨text, rfl, hlabel⟩ := hconnector error herror
    have hown := hlabel.ink hcolumns
    have hiff : ∀ isTerminal, Labels (labelText isTerminal) text ↔
        decide (error.kind = .terminal) = isTerminal := fun isTerminal =>
      ⟨fun hother => hown.eq hother, fun heq => heq ▸ hown⟩
    exact ⟨(hiff true).trans decide_eq_true_iff, (hiff false).trans decide_eq_false_iff_not⟩
  case verbatim =>
    intro error herror hroom
    obtain ⟨text, rfl, hlabel⟩ := hconnector error herror
    exact hlabel.verbatim hroom
  case written =>
    intro hplain
    subst hshown
    cases outcome with
    | ok info =>
      rw [Plan.showOutcome, showBundle]
      split <;> rfl
    | error fault => exact written_showFailure hplain fault
  case raised =>
    intro fault hfault hkind
    cases hwaited.symm.trans hfault
    rw [← hshown, Plan.showOutcome, showFailure_of_not_connector hkind]
    rfl
  case succeeds =>
    intro hending
    rcases showOutcome_returned (hshown ▸ hending) with ⟨-, info, rfl⟩ | ⟨hzero, -⟩
    · exact ⟨info, hwaited⟩
    · contradiction

/-- A planned run makes as many fetches as it has pauses and one more, unless the log call for that
is left by a fault, which the run then raises without making any. -/
theorem fetches_run (h : outside.admin = .ok client) (hclose : client.closeFault = none) :
    ((p.fetcher client).session.refusal? p.config.instanceName = none →
      (p.run outside).session.fetches.length = (p.run outside).pauses.length + 1) ∧
    ∀ fault, (p.fetcher client).session.refusal? p.config.instanceName = some fault →
      (p.run outside).ending = .raised fault ∧ (p.run outside).session.fetches = [] ∧
        (p.run outside).session.requests = [] := by
  have htells : (p.run outside).Tells p.screens.errors (p.fetchedBy client outside.key) :=
    tells_run h hclose
  refine ⟨fun hopen => ?_, fun fault hrefusal => ?_⟩
  · rw [htells.fetches, htells.pauses]
    exact length_fetchedBy hopen outside.key
  · have hfetched := fetchedBy_of_refusal hrefusal outside.key
    rw [hfetched] at htells
    have hnone :
        ((p.fetcher client).take [.fetch p.config.instanceName outside.key]).session.fetches =
          [] := by
      change (if ((p.fetcher client).session.refusal? p.config.instanceName).isNone then _
        else []) = []
      rw [hrefusal]
      rfl
    refine ⟨htells.raised fault rfl (Fetcher.isConnector_of_refusal hrefusal), ?_,
      htells.requests⟩
    rw [← List.length_eq_zero_iff, htells.fetches, hnone, List.length_nil]

/-- A run without a configuration is refused, unless it was asked for help or the version. -/
theorem isRefused_of_unconfigured {arguments : List String} {env : Environment}
    (hhelp : readArguments arguments ≠ .error .help)
    (hversion : readArguments arguments ≠ .error .version)
    (hconfig : ∀ s config, readArguments arguments = .ok s → s.configure env ≠ .ok config) :
    (run arguments env outside around).IsRefused := by
  unfold run plan
  cases hread : readArguments arguments with
  | error stop =>
    cases stop with
    | help => contradiction
    | version => contradiction
    | refused fault => exact ⟨rfl, rfl, rfl, _, rfl⟩
  | ok s =>
    cases hconfigure : s.configure env with
    | error message =>
      simp only [hconfigure]
      exact ⟨rfl, rfl, rfl, _, rfl⟩
    | ok config => exact absurd hconfigure (hconfig s config hread)

/-- Once a logger is set up with a level of its own, that level is in force. -/
theorem Surroundings.threshold_sinkAt (around : Surroundings) {level : Int} (h : level ≠ 0) :
    (around.sinkAt level).threshold = level := by
  have hown : (level != 0) = true := bne_iff_ne.mpr h
  simp only [sinkAt, Loggers.setUp, Loggers.levelOf, Except.map, Loggers.sink]
  unfold Loggers.effectiveLevel
  rw [String.ofList_toList, Loggers.find_put]
  simp only [hown, if_true]

/-- A run that is not verbose logs every fetch. -/
theorem refusal?_fetcher_of_quiet {level : Int} (hlevel : level = Loggers.defaultLevel)
    (hsink : around.sinkAt level = p.sink) (name : InstanceName) :
    (p.fetcher client).session.refusal? name = none := by
  have hbelow : LogLevel.debug.number < Loggers.defaultLevel := by decide
  have hthreshold : p.sink.threshold = Loggers.defaultLevel := by
    rw [← hsink, around.threshold_sinkAt (by rw [hlevel]; decide), hlevel]
  have hlog : p.sink.fault? (FetchEvent.fetching name).record = none :=
    LogSink.fault?_of_not_isShown (decide_eq_false (Int.not_le.mpr (hthreshold ▸ hbelow)))
  exact Session.refusal?_eq_none hlog rfl

/-- How every run ends that is asked for neither help nor the version. Refused arguments and
refused configurations end it with a status of two, and no key, no executor and no request is
made. Otherwise, where the consoles have a width and the client can be built and closed, it makes
one fetch, with retries exactly when they were asked for; should the log call for that be left by a
fault, which takes a verbose run, it raises this fault and makes none. It returns one exactly when
the fetch failed in a classified way that can be written; nothing is then put out, and on a console
of at least one column the errors are labelled by whether the failure is terminal, by the label as
it is where there is room for it, and are written as they are shown where the console has no
colours. It returns zero only for a bundle. -/
theorem outcome_laws {arguments : List String} {env : Environment} {outside : Outside}
    {around : Surroundings} {r : Run} (hrun : run arguments env outside around = r)
    (hhelp : readArguments arguments ≠ .error .help)
    (hversion : readArguments arguments ≠ .error .version) :
    ((∀ s config, readArguments arguments = .ok s → s.configure env ≠ .ok config) →
      r.IsRefused) ∧
    ∀ s config consoles client, readArguments arguments = .ok s → s.configure env = .ok config →
      screens env around.streams around.paint = .ok consoles → outside.admin = .ok client →
      client.closeFault = none →
      ∃ fetched x, x = Fetcher.fresh (.pool config.maxWorkers) client (around.sinkAt s.level) ∧
        (s.retry = true → fetched =
          x.fetchWithRetry config.instanceName outside.key (.decimal s.timeout)) ∧
        (s.retry = false → fetched =
          ⟨(x.fetchAndWait config.instanceName outside.key (.decimal s.timeout)).1, [],
            (x.fetchAndWait config.instanceName outside.key (.decimal s.timeout)).2⟩) ∧
        (s.verbose = false → x.session.refusal? config.instanceName = none) ∧
        (x.session.refusal? config.instanceName = none →
          r.session.fetches.length = r.pauses.length + 1) ∧
        (∀ fault, x.session.refusal? config.instanceName = some fault →
          r.ending = .raised fault ∧ r.session.fetches = [] ∧ r.session.requests = []) ∧
        r.Tells consoles.errors fetched := by
  subst hrun
  refine ⟨isRefused_of_unconfigured hhelp hversion, ?_⟩
  intro s config consoles client hread hconfig hscreens hadmin hclose
  have hplan : plan arguments env outside.version? around =
      .ok ⟨s, config, consoles, around.sinkAt s.level⟩ :=
    plan_eq_ok_iff.mpr ⟨hread, hconfig, hscreens, rfl⟩
  rw [run_of_plan_eq_ok hplan]
  obtain ⟨hmade, hunlogged⟩ := fetches_run (p := ⟨s, config, consoles, around.sinkAt s.level⟩)
    hadmin hclose
  refine ⟨Plan.fetchedBy ⟨s, config, consoles, around.sinkAt s.level⟩ client outside.key, _, rfl,
    ?_, ?_, ?_, hmade, hunlogged, tells_run hadmin hclose⟩
  · intro hretry
    rw [Plan.fetchedBy, fetchOnce, if_pos hretry]
    rfl
  · intro hretry
    rw [Plan.fetchedBy, fetchOnce, if_neg (by rw [hretry]; decide)]
    rfl
  · intro hquiet
    have hlevel : s.level = Loggers.defaultLevel := by
      rw [Settings.level, hquiet]
      rfl
    exact refusal?_fetcher_of_quiet (p := ⟨s, config, consoles, around.sinkAt s.level⟩) hlevel rfl
      config.instanceName

end Runs

/-- A client whose certificate call finds no instance. -/
def refusingClient : AdminClient :=
  ⟨[.reply (.ok sampleMetadata)],
    [.reply (.error (.remote true (some .notFound) "no such instance"))], none⟩

/-- The outside with that client. -/
def refusingOutside : Outside := ⟨.ok refusingClient, sampleKey, none⟩

/-- A fetch of that client fails for good, whatever the consoles are. -/
theorem exists_fetchedBy_refusing (consoles : Screens) :
    ∃ error : ConnectorError, error.kind = .terminal ∧
      (Plan.fetchedBy ⟨sampleSettings, sampleConfig, consoles, plainSink⟩ refusingClient
        sampleKey).waited = some (.error (.connector error)) := by
  have hgives := @waited_fetchedBy ⟨sampleSettings, sampleConfig, consoles, plainSink⟩
    refusingClient sampleKey rfl rfl _ _ rfl rfl rfl rfl
  have hthreshold : LogLevel.warning.number < plainSink.threshold := by decide
  obtain ⟨answer, hanswer, hwaited⟩ := hgives.calm (LogSink.isCalm_of_threshold hthreshold _ _)
  cases hanswer
  exact ⟨_, rfl, hwaited⟩

/-- A run whose fetch fails for good returns one, and its errors start with the label for that. -/
theorem outcome_laws_refusing :
    ∃ r, run sampleArguments [] refusingOutside = r ∧ r.ending = .returned 1 ∧
      r.output = .nothing ∧ Labels "Terminal failure:" r.errors.written ∧
      "Terminal failure:".toList <+: r.errors.written.toList ∧ r.session.fetches.length = 1 := by
  have hstop : ∀ stop, readArguments sampleArguments ≠ .error stop := by
    rw [readArguments_sample]
    exact nofun
  obtain ⟨-, hlaws⟩ := @outcome_laws _ [] refusingOutside {} _ rfl (hstop _) (hstop _)
  obtain ⟨fetched, x, rfl, -, hfetched, hlogs, hmade, -, htells⟩ :=
    hlaws sampleSettings sampleConfig plainScreens refusingClient readArguments_sample rfl rfl rfl
      rfl
  obtain ⟨error, hterminal, hwaited⟩ := exists_fetchedBy_refusing plainScreens
  rw [hfetched rfl] at htells
  have hone := htells.fails.mpr ⟨error, hwaited⟩
  have hlabel := (htells.label (by decide) error hwaited).1.mpr hterminal
  have hverbatim := htells.verbatim error hwaited
  simp only [hterminal, decide_true] at hverbatim
  have hfetches := hmade (hlogs rfl)
  rw [htells.pauses] at hfetches
  rw [← htells.written rfl] at hlabel hverbatim
  exact ⟨_, rfl, hone, htells.output hone, hlabel, hverbatim (by decide), hfetches⟩

/-- The columns of the screen decide whether a failure is told. Without any, the run that fails
for good returns one and its errors have no label; and digits that are no number end a run that
was configured by a fault, before it fetches. -/
theorem unlabelled_of_columns :
    readArguments sampleArguments = .ok sampleSettings ∧
    (∃ r p error, run sampleArguments [(columnsVariable, "0")] refusingOutside = r ∧
      plan sampleArguments [(columnsVariable, "0")] none = .ok p ∧
      (p.fetchedBy refusingClient sampleKey).waited = some (.error (.connector error)) ∧
      error.kind = .terminal ∧ r.ending = .returned 1 ∧ ¬Labels "Terminal failure:" r.errors) ∧
    ∃ r fault, run sampleArguments [(columnsVariable, "²")] refusingOutside = r ∧
      sampleSettings.configure [(columnsVariable, "²")] = .ok sampleConfig ∧
      r.ending = .raised fault ∧ r.session.fetches = [] := by
  refine ⟨readArguments_sample, ?_, ?_⟩
  · have hplan : plan sampleArguments [(columnsVariable, "0")] none =
        .ok ⟨sampleSettings, sampleConfig, ⟨⟨0, none⟩, ⟨0, none⟩⟩, plainSink⟩ :=
      plan_eq_ok_iff.mpr ⟨readArguments_sample, rfl, rfl, rfl⟩
    have hrun := @run_of_plan_eq_ok _ _ refusingOutside _ _ hplan
    obtain ⟨error, hterminal, hwaited⟩ := exists_fetchedBy_refusing ⟨⟨0, none⟩, ⟨0, none⟩⟩
    have hshown : showFailure ⟨0, none⟩ (.connector error) = (.returned 1, .nothing, .nothing) := by
      simp only [showFailure, textFault?_of_fetchedBy hwaited]
      rfl
    have hclosed := @run_of_closed _ refusingOutside _ rfl rfl _ rfl _ hwaited _ hshown
    have herrors : ¬Labels "Terminal failure:" Printed.nothing := by decide
    exact ⟨_, _, error, hrun.trans hclosed, hplan, hwaited, hterminal, rfl, herrors⟩
  · have hscreens : screens [(columnsVariable, "²")] {} id = .error (.rule (sizeMessage "²")) := rfl
    have hconfig : sampleSettings.configure [(columnsVariable, "²")] = .ok sampleConfig := rfl
    refine ⟨_, .rule (sizeMessage "²"), rfl, hconfig, ?_⟩
    simp only [run, plan, readArguments_sample, hconfig, hscreens]
    exact ⟨rfl, rfl⟩

end CommandLine

end InstanceLink
