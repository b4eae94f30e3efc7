import InstanceLink.Proofs.Fetch.Ending
import InstanceLink.Proofs.Fetch.Joining

/-!
# What a bundle delivers

A bundle holds what the two calls of its own fetch were answered, in full and in order.
An uncancelled fetch is given one exactly when both calls returned and every text of a
chain that is not empty, and the authority, is a certificate.
-/

namespace InstanceLink

namespace Call

variable {α : Type}

/-- The value with which a call returned, if it did, has a property. -/
def Returns (P : α → Prop) (c : Call α) : Prop :=
  ∀ value, c.outcome? = some (.returned value) → P value

end Call

namespace Fetch

/-- The calls of a fetch have returned what a row of steps answered them. -/
structure Answered (row : List Session.Step) (i : Nat) (f : Fetch) : Prop where
  metadata : f.metadata.Returns fun a => .finish i (.metadata (.ok a)) ∈ row
  certificate : f.certificate.Returns fun b => .finish i (.certificate (.ok b)) ∈ row

variable {row : List Session.Step} {i : Nat} {f : Fetch}

/-- Calls return what they were answered, as far as their ends are supplied by a row. -/
theorem Supplied.answered (h : f.Supplied row i) : f.Answered row i := by
  constructor
  · intro value hv
    rcases h.metadata _ hv with he | ⟨reply, hr, he⟩
    · cases he
    · rwa [Call.answered_eq_returned_iff.mp he.symm] at hr
  · intro value hv
    rcases h.certificate _ hv with he | ⟨fault, _, he⟩ | ⟨reply, hr, he⟩
    · cases he
    · cases he
    · rwa [Call.answered_eq_returned_iff.mp he.symm] at hr

/-- Once the join is set, all is said as soon as both ends were notified. -/
theorem isQuiet_settle (f : Fetch) :
    f.settle.isQuiet = (f.metadata.notified && f.certificate.notified) := by
  unfold settle
  split <;> simp [isQuiet]

/-- Setting what the join holds cancels nothing. -/
theorem settle_ne_cancelled (hn : f.result ≠ .cancelled) : f.settle.result ≠ .cancelled := by
  unfold settle
  split
  next => nofun
  next => nofun
  next => exact hn

end Fetch

namespace Session

variable {sink : LogSink} {row : List Step} {i : Nat} {f : Fetch}

/-- The calls of a fetch return what they were answered. -/
theorem answered_of_steps (hf : ((fresh sink).steps row).fetches[i]? = some f) :
    f.Answered row i :=
  (supplied_of_steps hf).answered

/-- Only the caller cancels a result. -/
theorem Step.not_cancelled_move (h : f.result ≠ .cancelled) {st : Step}
    (hn : ∀ j, st ≠ .cancel j) : (st.move f).result ≠ .cancelled := by
  rcases st.move_cases f with ⟨hw, _⟩ | ⟨j, side, rfl⟩ | ⟨j, rfl⟩ | ⟨j, rfl⟩
  · rw [hw.result]
    exact h
  · rw [Step.move, Fetch.result_notify]
    exact h
  · exact Fetch.settle_ne_cancelled h
  · exact absurd rfl (hn j)

/-- A result that nobody cancels is not cancelled in a row of steps. -/
theorem not_cancelled_steps {s : Session} (hf : s.fetches[i]? = some f)
    (h : f.result ≠ .cancelled) (hn : .cancel i ∉ row) :
    ∃ g, (s.steps row).fetches[i]? = some g ∧ g.result ≠ .cancelled := by
  refine kept_by_steps (P := fun g => g.result ≠ .cancelled) ?_ hf h
  intro g st hst hi hg
  refine Step.not_cancelled_move hg ?_
  rintro j rfl
  cases hi
  exact hn hst

/-- A result that nobody cancels is not cancelled. -/
theorem not_cancelled_of_steps (hf : ((fresh sink).steps row).fetches[i]? = some f)
    (hn : .cancel i ∉ row) : f.result ≠ .cancelled := by
  refine fetch_of_steps (P := fun f _ => f.result ≠ .cancelled) ?_ ?_ hf
  · exact fun name key => nofun
  · intro f events st hst hi h
    refine Step.not_cancelled_move h ?_
    rintro j rfl
    cases hi
    exact hn hst

/-- A bundle that a fetch holds was assembled from what both its calls returned. -/
theorem assemble_of_bundle (hf : ((fresh sink).steps row).fetches[i]? = some f)
    {info : ConnectionInfo} (hr : f.result = .bundle info) :
    ∃ a b, f.metadata.outcome? = some (.returned a) ∧
      f.certificate.outcome? = some (.returned b) ∧ assemble a b = .ok info := by
  obtain ⟨m, c, hm, hc, he⟩ := (coherent_of_steps hf).combine_of_delivered (by rw [hr]; rfl)
  have hbundle := Joined.result_eq_bundle_iff.mp (he.symm.trans hr)
  obtain ⟨a, b, rfl, rfl, ha⟩ := combine_eq_bundle_iff.mp hbundle
  exact ⟨a, b, hm, hc, ha⟩

end Session

/-- A bundle reflects, in full and in order, what both calls of its own fetch were
answered. Where all is said and nobody cancelled, there is one exactly when both calls
returned, the chain is not empty, and each of its texts and the authority is a
certificate. -/
theorem bundle_iff_certificates {sink : LogSink} {row : List Session.Step} {i : Nat} {f : Fetch}
    (hf : ((Session.fresh sink).steps row).fetches[i]? = some f) (hn : .cancel i ∉ row) :
    (∀ info, f.result = .bundle info → ∃ a b,
      .finish i (.metadata (.ok a)) ∈ row ∧ .finish i (.certificate (.ok b)) ∈ row ∧
        f.metadata.outcome? = some (.returned a) ∧
        f.certificate.outcome? = some (.returned b) ∧ info.Reflects a b) ∧
    (f.isQuiet = true → ((∃ info, f.result = .bundle info) ↔ ∃ a b,
      f.metadata.outcome? = some (.returned a) ∧ f.certificate.outcome? = some (.returned b) ∧
        b.chain ≠ [] ∧
        (∀ text ∈ b.chain, ∃ certificate, Certificate.readText text = .ok certificate) ∧
        ∃ authority, Certificate.readText b.authority = .ok authority)) := by
  have hanswered := Session.answered_of_steps hf
  refine ⟨?_, fun hq => ⟨?_, ?_⟩⟩
  · intro info hr
    obtain ⟨a, b, ha, hb, hassemble⟩ := Session.assemble_of_bundle hf hr
    exact ⟨a, b, hanswered.metadata a ha, hanswered.certificate b hb, ha, hb,
      reflects_of_assemble hassemble⟩
  · rintro ⟨info, hr⟩
    obtain ⟨a, b, ha, hb, hassemble⟩ := Session.assemble_of_bundle hf hr
    exact ⟨a, b, ha, hb, (exists_assemble_iff a b).mp ⟨info, hassemble⟩⟩
  · rintro ⟨a, b, ha, hb, hread⟩
    obtain ⟨info, hassemble⟩ := (exists_assemble_iff a b).mpr hread
    have hcombine : combine (.returned a) (.returned b) = .bundle info :=
      combine_eq_bundle_iff.mpr ⟨a, b, rfl, rfl, hassemble⟩
    have hj : f.combined? = some (.bundle info) :=
      Fetch.combined?_eq_some_iff.mpr ⟨_, _, ha, hb, hcombine⟩
    exact ⟨info, (Session.coherent_of_steps hf).result_of_quiet hj hq
      (Session.not_cancelled_of_steps hf hn)⟩

/-- A small certificate whose octets are all plain characters. -/
def plainCertificate : String :=
  "0f0Z\x02\x01\x010\x05\x06\x03+ep0\x000\x1e\x17\x0d240101000000Z\x17\x0d340101000000Z0\x00" ++
    "0*0\x05\x06\x03+ep\x03!\x000123456789abcdef0123456789abcdef0\x05\x06\x03+ep\x03\x01\x00"

/-- An answer without a public address. -/
def sampleMetadata : MetadataResponse := ⟨"10.0.0.5", "", "psc.example", "abc123"⟩

/-- An answer with a chain of two certificates and an authority. -/
def sampleCertificates : CertificateResponse :=
  ⟨[plainCertificate, plainCertificate], plainCertificate⟩

/-- The two answers assemble. -/
theorem exists_assemble_sample :
    ∃ info, assemble sampleMetadata sampleCertificates = .ok info := by
  have hread : ∃ certificate, Certificate.readText plainCertificate = .ok certificate := ⟨_, rfl⟩
  refine (exists_assemble_iff _ _).mpr ⟨nofun, ?_, hread⟩
  simp only [sampleCertificates, List.forall_mem_cons, List.not_mem_nil, false_imp_iff,
    implies_true, and_true]
  exact ⟨hread, hread⟩

/-- Both calls of a fetch are answered, the certificate call first, and notified. -/
def answeredRow : List Session.Step :=
  [.fetch sampleName sampleKey, .begin 0 .metadata, .send 0 .metadata, .begin 0 .certificate,
    .send 0 .certificate, .finish 0 (.certificate (.ok sampleCertificates)),
    .notify 0 .certificate, .finish 0 (.metadata (.ok sampleMetadata)), .notify 0 .metadata]

/-- Setting the result gives an answered fetch the bundle of both its answers. -/
theorem bundle_iff_certificates_answered :
    ∃ f info, ((Session.fresh .silent).steps (answeredRow ++ [.settle 0])).fetches[0]? = some f ∧
      f.result = .bundle info ∧ info.Reflects sampleMetadata sampleCertificates := by
  obtain ⟨g, hg, hm, hc, hboth⟩ : ∃ g : Fetch,
      ((Session.fresh .silent).steps answeredRow).fetches[0]? = some g ∧
        g.metadata.outcome? = some (.returned sampleMetadata) ∧
        g.certificate.outcome? = some (.returned sampleCertificates) ∧
        (g.metadata.notified && g.certificate.notified) = true := ⟨_, rfl, rfl, rfl, rfl⟩
  have hf : ((Session.fresh .silent).steps (answeredRow ++ [.settle 0])).fetches[0]? =
      some g.settle := by
    rw [Session.steps_append]
    exact Session.getElem?_step hg (.settle 0)
  have hkeeps := g.keeps_settle
  obtain ⟨hne, hchain, hread⟩ := (exists_assemble_iff _ _).mp exists_assemble_sample
  obtain ⟨hbundle, hiff⟩ := bundle_iff_certificates hf (by simp [answeredRow])
  obtain ⟨info, hr⟩ := (hiff (g.isQuiet_settle.trans hboth)).mpr
    ⟨_, _, hkeeps.metadata _ hm, hkeeps.certificate _ hc, hne, hchain, hread⟩
  obtain ⟨a, b, _, _, ha, hb, hreflects⟩ := hbundle info hr
  cases (hkeeps.metadata _ hm).symm.trans ha
  cases (hkeeps.certificate _ hc).symm.trans hb
  exact ⟨_, info, hf, hr, hreflects⟩

end InstanceLink
