import InstanceLink.Proofs.Tls.Loading

/-!
# What a context holds

A context trusts the authority of its bundle alone and holds the bundle's chain as it is, and
there is none unless the key is the one that the first certificate certifies. The chain is presented
as it is held, but a single certificate that the authority issued is presented with the authority
behind it. A transport reads certified keys more tolerantly than others do; wherever a stricter
reading gives the numbers of an RSA key, the transport reads the same numbers.
-/

namespace InstanceLink

/-- The pair of an RSA key that is written in the shortest form is the one a transport reads. -/
theorem TransportKey.pair?_of_pair? {octets : List UInt8} {numbers : Nat × Nat}
    (h : SubjectPublicKey.pair? octets = some numbers) : pair? octets = some numbers := by
  have hnatural : ∀ {e : Der.Element} {n : Nat}, e.natural? = some n →
      e.tag = Der.Tag.integer ∧ unsigned? e = some n := by
    intro e n hn
    simp only [Der.Element.natural?, Option.ite_none_right_eq_some, Bool.and_eq_true,
      decide_eq_true_eq, Option.some.injEq] at hn
    obtain ⟨⟨⟨htag, -⟩, -⟩, rfl⟩ := hn
    exact ⟨htag, if_pos htag⟩
  simp only [SubjectPublicKey.pair?, Option.bind_eq_bind, Option.bind_eq_some_iff,
    Option.bind_none, Option.ite_none_left_eq_some, bne_iff_ne, ne_eq, not_not] at h
  obtain ⟨outer, houter, htag, row, hrow, h⟩ := h
  split at h
  next modulus exponent =>
    simp only [Option.bind_eq_some_iff, Option.pure_def, Option.some.injEq] at h
    obtain ⟨n, hn, e, he, rfl⟩ := h
    obtain ⟨hmodulus, hn⟩ := hnatural hn
    obtain ⟨hexponent, he⟩ := hnatural he
    obtain ⟨hwritten, rfl⟩ := Der.Element.written_of_single? houter (by rw [htag]; decide)
    have hgeneral := hwritten.generalElement?_append hrow (by simp [hmodulus, hexponent]; decide)
      (by simp [hmodulus, hexponent]; decide) []
    rw [List.append_nil] at hgeneral
    have hnumbers : unsignedRow? outer = some [n, e] := by
      simp [unsignedRow?, htag, hrow, hn, he]
    simp only [pair?, hgeneral, hnumbers, Option.bind_eq_bind, Option.bind_some]
    rfl
  next => contradiction

/-- Keys of the plain RSA algorithm are read as such. -/
theorem TransportKey.of?_of_rsaArcs {key : SubjectPublicKey}
    (h : key.algorithm.arcs = Algorithm.rsaArcs) : of? key = rsa? .rsa key.bits.octets := by
  have hname : rsaNames.contains key.algorithm.arcs = true := by rw [h]; decide
  exact if_pos hname

/-- Keys of the RSA algorithm with signature settings are of another family. -/
theorem TransportKey.of?_of_rsaPssArcs {key : SubjectPublicKey}
    (h : key.algorithm.arcs = Algorithm.rsaPssArcs) :
    of? key = rsa? .rsaPss key.bits.octets := by
  have hname : ¬ rsaNames.contains key.algorithm.arcs = true := by rw [h]; decide
  exact (if_neg hname).trans (if_pos h)

/-- Only two algorithms name RSA keys. -/
theorem KeyKind.arcs_of_rsa {arcs : List Nat} (h : ofArcs? arcs = some .rsa) :
    arcs = Algorithm.rsaArcs ∨ arcs = Algorithm.rsaPssArcs := by
  have htable : ∀ entry ∈ table, entry.2 = .rsa →
      entry.1 = Algorithm.rsaArcs ∨ entry.1 = Algorithm.rsaPssArcs := by decide
  rw [ofArcs?, List.lookup_eq_some_iff] at h
  obtain ⟨before, behind, heq, -⟩ := h
  exact htable (arcs, .rsa) (by rw [heq]; simp) rfl

/-- Where the numbers of an RSA key are read strictly, a transport reads the same numbers, or holds
the key for one that no RSA key can be presented with. -/
theorem rsaNumbers?_of_numbers {c : Certificate} {numbers : Nat × Nat}
    (h : c.key.numbers = .ok numbers) :
    Strength.rsaNumbers? c = some numbers ∨
      c.key.algorithm.arcs = Algorithm.rsaPssArcs ∧ Strength.rsaNumbers? c = none := by
  obtain ⟨hkind, hpair⟩ : KeyKind.ofArcs? c.key.algorithm.arcs = some .rsa ∧
      SubjectPublicKey.pair? c.key.bits.octets = some numbers := by
    rw [SubjectPublicKey.numbers] at h
    split at h
    next => cases h
    next =>
      split at h
      next => cases h
      next hkind =>
        split at h
        next found hfound =>
          cases h
          exact ⟨hkind, hfound⟩
        next => cases h
      next => split at h <;> cases h
  have htransport := TransportKey.pair?_of_pair? hpair
  rcases KeyKind.arcs_of_rsa hkind with harcs | harcs
  · left
    simp [Strength.rsaNumbers?, TransportKey.of?_of_rsaArcs harcs, TransportKey.rsa?, htransport]
  · right
    refine ⟨harcs, ?_⟩
    simp [Strength.rsaNumbers?, TransportKey.of?_of_rsaPssArcs harcs, TransportKey.rsa?, htransport]

/-- Two readings of a certified key never give different numbers. -/
theorem eq_of_rsaNumbers? {c : Certificate} {numbers others : Nat × Nat}
    (h : Strength.rsaNumbers? c = some numbers) (hstrict : c.key.numbers = .ok others) :
    others = numbers := by
  rcases rsaNumbers?_of_numbers hstrict with hsame | ⟨-, hnone⟩
  · exact Option.some.inj (hsame.symm.trans h)
  · exact absurd (hnone.symm.trans h) (by simp)

/-- The chain of a bundle is completed with its authority: it is a single certificate, which the
authority issued and which is not its own issuer, and all that the authority states is sound. -/
structure ConnectionInfo.IsCompleted (info : ConnectionInfo) : Prop where
  single : info.chainRest = []
  isSelfSigned : info.clientCertificate.isSelfSigned = false
  allSound : Statement.allSound info.caCertificate = true
  isIssuedBy : info.clientCertificate.isIssuedBy info.caCertificate = true

namespace TlsContext

section Presented

variable {info : ConnectionInfo} {context : TlsContext}
  (hchain : context.chain = info.certificateChain) (htrusted : context.trusted = [info.caCertificate])

include hchain

/-- A chain of several certificates is presented as it is held. -/
theorem presented_of_chainRest (h : info.chainRest ≠ []) :
    context.presented = .ok info.certificateChain := by
  obtain ⟨second, rest, hrest⟩ := List.exists_cons_of_ne_nil h
  rw [presented, hchain, ConnectionInfo.certificateChain, hrest]

include htrusted

/-- A single certificate is presented with the authority behind it where that completes the chain,
and alone otherwise. -/
theorem presented_of_single (h : info.chainRest = []) :
    (¬info.IsCompleted → context.presented = .ok info.certificateChain) ∧
      (info.IsCompleted → context.presented =
        match Strength.refusal? false info.caCertificate with
        | none => .ok (info.certificateChain ++ [info.caCertificate])
        | some reason => .error reason) := by
  have hissuer : context.issuer? info.clientCertificate =
      if info.clientCertificate.isSelfSigned = true then none
      else if (Statement.allSound info.caCertificate &&
        info.clientCertificate.isIssuedBy info.caCertificate) = true
      then some info.caCertificate else none := by
    rw [issuer?, htrusted, List.find?_singleton]
  rw [presented, hchain, ConnectionInfo.certificateChain, h]
  constructor
  · intro hno
    have hnone : context.issuer? info.clientCertificate = none := by
      rw [hissuer]
      split
      · rfl
      next hself =>
        refine if_neg fun hboth => hno ?_
        rw [Bool.and_eq_true] at hboth
        exact ⟨h, Bool.eq_false_iff.mpr hself, hboth.1, hboth.2⟩
    simp only [hnone]
  · intro hcompleted
    have hsome : context.issuer? info.clientCertificate = some info.caCertificate := by
      simp only [hissuer, hcompleted.isSelfSigned, hcompleted.allSound, hcompleted.isIssuedBy,
        Bool.and_self, Bool.false_eq_true, if_false, if_true]
    cases hrefusal : Strength.refusal? false info.caCertificate with
    | none => simp only [hsome, hrefusal, List.singleton_append]
    | some reason => simp only [hsome, hrefusal]

/-- What a context presents: its chain in order, without any left out or repeated; but the authority
follows a single certificate that it issued, unless it is too weak for that. -/
theorem presented_laws :
    (¬info.IsCompleted → context.presented = .ok info.certificateChain) ∧
      (info.IsCompleted → context.presented =
        match Strength.refusal? false info.caCertificate with
        | none => .ok (info.certificateChain ++ [info.caCertificate])
        | some reason => .error reason) := by
  by_cases h : info.chainRest = []
  · exact presented_of_single hchain htrusted h
  · exact ⟨fun _ => presented_of_chainRest hchain h, fun hcompleted => absurd hcompleted.single h⟩

end Presented

/-- Of a bundle with genuine certificates, a context trusts the authority and nothing else, holds
the chain in its order without leaving out or repeating any, demands the server's certificate and
the newest version, and its key is the one that the first certificate certifies, however its
numbers are read. It presents the chain that it holds, with the authority behind a single
certificate that the authority issued. Without the match of the key there is no context, and every
refusal is a fault of the secure transport. There is one exactly when the authority can be read, no
certificate is refused in its place, and the key matches. The certificates of every bundle that was
assembled are genuine. -/
theorem create_laws :
    (∀ info, (∀ c ∈ info.caCertificate :: info.certificateChain,
        Certificate.ofDer c.der = .ok c) → ∀ key : RsaKey,
      (∀ context, create info key = .ok context →
        Strength.rsaNumbers? info.clientCertificate = some (key.modulus, key.exponent) ∧
        (∀ numbers, info.clientCertificate.key.numbers = .ok numbers →
          numbers = (key.modulus, key.exponent)) ∧
        context.trusted = [info.caCertificate] ∧ context.chain = info.certificateChain ∧
        (¬info.IsCompleted → context.presented = .ok info.certificateChain) ∧
        (info.IsCompleted → context.presented =
          match Strength.refusal? false info.caCertificate with
          | none => .ok (info.certificateChain ++ [info.caCertificate])
          | some reason => .error reason) ∧
        context.peerCheck = .required ∧ context.minimumVersion = .v13 ∧ context.key = key) ∧
      ((∃ context, create info key = .ok context) ↔
        info.caCertificate.isReadable = true ∧
        Strength.refusal? true info.clientCertificate = none ∧
        (∀ c ∈ info.chainRest, Strength.refusal? false c = none) ∧
        Strength.rsaNumbers? info.clientCertificate = some (key.modulus, key.exponent)) ∧
      ((Strength.rsaNumbers? info.clientCertificate ≠ some (key.modulus, key.exponent) ∨
          ∃ numbers, info.clientCertificate.key.numbers = .ok numbers ∧
            numbers ≠ (key.modulus, key.exponent)) →
        ∃ reason, create info key = .error (.transport reason))) ∧
      ∀ a b info, assemble a b = .ok info →
        ∀ c ∈ info.caCertificate :: info.certificateChain, Certificate.ofDer c.der = .ok c := by
  refine ⟨fun info hgenuine key => ⟨?_, ?_, ?_⟩, fun a b info => isGenuine_of_assemble⟩
  · intro context hcreate
    obtain ⟨⟨-, -, hkey⟩, rfl⟩ := (create_eq_ok_iff hgenuine).mp hcreate
    obtain ⟨halone, hcompleted⟩ := @presented_laws info
      ⟨.v13, false, .required, [info.caCertificate], info.certificateChain, key⟩ rfl rfl
    exact ⟨hkey, fun numbers => eq_of_rsaNumbers? hkey, rfl, rfl, halone, hcompleted, rfl, rfl, rfl⟩
  · have hadmits : Loading.Admits true info.certificateChain ↔
        Strength.refusal? true info.clientCertificate = none ∧
          ∀ c ∈ info.chainRest, Strength.refusal? false c = none := by
      rw [ConnectionInfo.certificateChain, Loading.Admits, Loading.admits_false_iff]
    constructor
    · rintro ⟨context, hcreate⟩
      obtain ⟨⟨hreadable, hall, hkey⟩, -⟩ := (create_eq_ok_iff hgenuine).mp hcreate
      obtain ⟨hleader, hrest⟩ := hadmits.mp hall
      exact ⟨hreadable, hleader, hrest, hkey⟩
    · rintro ⟨hreadable, hleader, hrest, hkey⟩
      exact ⟨_, (create_eq_ok_iff hgenuine).mpr
        ⟨⟨hreadable, hadmits.mpr ⟨hleader, hrest⟩, hkey⟩, rfl⟩⟩
  · intro hother
    cases hcreate : create info key with
    | error fault =>
      obtain ⟨reason, rfl⟩ := exists_transport_of_create hcreate
      exact ⟨reason, rfl⟩
    | ok context =>
      obtain ⟨⟨-, -, hkey⟩, -⟩ := (create_eq_ok_iff hgenuine).mp hcreate
      rcases hother with hnumbers | ⟨numbers, hstrict, hnumbers⟩
      · exact absurd hkey hnumbers
      · exact absurd (eq_of_rsaNumbers? hkey hstrict) hnumbers

/-- The octets of a certificate for a key of 2048 bits. -/
def wideOctets : List UInt8 :=
  [0x30, 0x82, 0x01, 0x67, 0x30, 0x82, 0x01, 0x59, 0xa0, 0x03, 0x02, 0x01, 0x02] ++
    TextSection.plainBytes ("\x02\x01\x020\x05\x06\x03+ep0\x000\x1e\x17\x0d240101000000Z" ++
      "\x17\x0d340101000000Z0\x000\x82\x01\"0\x0d\x06\x09") ++
    [0x2a, 0x86, 0x48, 0x86, 0xf7, 0x0d, 0x01, 0x01, 0x01, 0x05, 0x00, 0x03, 0x82, 0x01, 0x0f, 0x00,
      0x30, 0x82, 0x01, 0x0a, 0x02, 0x82, 0x01, 0x01, 0x00, 0x80] ++
    List.replicate 254 0 ++ [0x01, 0x02, 0x03, 0x01, 0x00, 0x01] ++
    TextSection.plainBytes "0\x05\x06\x03+ep\x03\x01\x00"

/-- The key of that certificate. -/
def wideKey : RsaKey :=
  ⟨2 ^ 2047 + 1, 65537, by decide, by decide +kernel, by decide, by decide +kernel⟩

/-- The certificate of the wide key can lead a chain. -/
theorem exists_wideCertificate :
    ∃ c, Certificate.ofDer wideOctets = .ok c ∧ Strength.refusal? true c = none ∧
      Strength.rsaNumbers? c = some (wideKey.modulus, wideKey.exponent) := by
  have hread : (Certificate.ofDer wideOctets).toOption.map
      (fun c => (Strength.refusal? true c, Strength.rsaNumbers? c)) =
        some (none, some (wideKey.modulus, wideKey.exponent)) := by decide +kernel
  obtain ⟨c, hc, hfacts⟩ := Option.map_eq_some_iff.mp hread
  obtain ⟨hrefusal, hnumbers⟩ := Prod.mk.injEq _ _ _ _ ▸ hfacts
  exact ⟨c, toOption_eq_some_iff.mp hc, hrefusal, hnumbers⟩

/-- The small sample certificate can be trusted, and can stand behind another one. -/
theorem exists_sampleCertificate :
    ∃ c, Certificate.ofDer (Certificate.sampleOctets 2) = .ok c ∧ c.isReadable = true ∧
      Strength.refusal? false c = none := by
  have hread : (Certificate.ofDer (Certificate.sampleOctets 2)).toOption.map
      (fun c => (c.isReadable, Strength.refusal? false c)) = some (true, none) := by
    decide +kernel
  obtain ⟨c, hc, hfacts⟩ := Option.map_eq_some_iff.mp hread
  obtain ⟨hreadable, hrefusal⟩ := Prod.mk.injEq _ _ _ _ ▸ hfacts
  exact ⟨c, toOption_eq_some_iff.mp hc, hreadable, hrefusal⟩

/-- A chain of two is held and presented with the key of its first certificate, and refused with
another key. -/
theorem create_laws_wideKey :
    ∃ info context, info.certificateChain.length = 2 ∧ create info wideKey = .ok context ∧
      context.trusted = [info.caCertificate] ∧ context.presented = .ok info.certificateChain ∧
      ∃ reason, create info ⟨3233, 17, by decide, by decide, by decide, by decide⟩ =
        .error (.transport reason) := by
  obtain ⟨leader, hleader, hadmitted, hnumbers⟩ := exists_wideCertificate
  obtain ⟨other, hother, hreadable, hbehind⟩ := exists_sampleCertificate
  obtain ⟨hbundle, -⟩ := create_laws
  let info : ConnectionInfo := ⟨"10.0.0.5", none, none, "abc123", leader, [other], other⟩
  have hgenuine : ∀ c ∈ info.caCertificate :: info.certificateChain,
      Certificate.ofDer c.der = .ok c := by
    have hleads : leader.IsGenuine := Certificate.isGenuine_of_ofDer hleader
    have hfollows : other.IsGenuine := Certificate.isGenuine_of_ofDer hother
    exact List.forall_mem_cons.mpr ⟨hfollows, List.forall_mem_cons.mpr
      ⟨hleads, List.forall_mem_singleton.mpr hfollows⟩⟩
  obtain ⟨hheld, hexists, -⟩ := hbundle info hgenuine wideKey
  obtain ⟨context, hcreate⟩ := hexists.mpr
    ⟨hreadable, hadmitted, List.forall_mem_singleton.mpr hbehind, hnumbers⟩
  obtain ⟨-, -, htrusted, -, hpresented, -⟩ := hheld context hcreate
  have hseveral : ¬info.IsCompleted := fun hcompleted => List.cons_ne_nil _ _ hcompleted.single
  refine ⟨info, context, rfl, hcreate, htrusted, hpresented hseveral, ?_⟩
  obtain ⟨-, -, hrefused⟩ :=
    hbundle info hgenuine ⟨3233, 17, by decide, by decide, by decide, by decide⟩
  refine hrefused (.inl fun hsame => ?_)
  have hexponent := congrArg (Option.map Prod.snd) (hnumbers.symm.trans hsame)
  exact absurd hexponent (by decide)

/-- The small sample certificate has issued the one of the wide key, as far as a transport looks
before it completes a chain. -/
theorem exists_issuer_of_wide :
    ∃ leader signer, Certificate.ofDer wideOctets = .ok leader ∧
      Certificate.ofDer (Certificate.sampleOctets 2) = .ok signer ∧
      leader.isSelfSigned = false ∧ Statement.allSound signer = true ∧
      leader.isIssuedBy signer = true := by
  have hread : ((Certificate.ofDer wideOctets).toOption.bind fun leader =>
      (Certificate.ofDer (Certificate.sampleOctets 2)).toOption.map fun signer =>
        (leader.isSelfSigned, Statement.allSound signer, leader.isIssuedBy signer)) =
          some (false, true, true) := by decide +kernel
  obtain ⟨leader, hleader, hread⟩ := Option.bind_eq_some_iff.mp hread
  obtain ⟨signer, hsigner, hfacts⟩ := Option.map_eq_some_iff.mp hread
  simp only [Prod.mk.injEq] at hfacts
  exact ⟨leader, signer, toOption_eq_some_iff.mp hleader, toOption_eq_some_iff.mp hsigner, hfacts⟩

/-- A single certificate that the authority issued is not presented alone: the authority follows
it. -/
theorem authority_presented :
    ∃ info context, (∀ c ∈ info.caCertificate :: info.certificateChain,
        Certificate.ofDer c.der = .ok c) ∧
      create info wideKey = .ok context ∧ info.certificateChain = [info.clientCertificate] ∧
      context.presented = .ok [info.clientCertificate, info.caCertificate] := by
  obtain ⟨leader, hleader, hadmitted, hnumbers⟩ := exists_wideCertificate
  obtain ⟨other, hother, hreadable, hbehind⟩ := exists_sampleCertificate
  obtain ⟨leader', signer, hleader', hsigner, hself, hsound, hissued⟩ := exists_issuer_of_wide
  obtain rfl : leader = leader' := Except.ok.inj (hleader.symm.trans hleader')
  obtain rfl : other = signer := Except.ok.inj (hother.symm.trans hsigner)
  let info : ConnectionInfo := ⟨"10.0.0.5", none, none, "abc123", leader, [], other⟩
  have hgenuine : ∀ c ∈ info.certificates, c.IsGenuine :=
    List.forall_mem_cons.mpr ⟨Certificate.isGenuine_of_ofDer hother,
      List.forall_mem_singleton.mpr (Certificate.isGenuine_of_ofDer hleader)⟩
  have hcreate : create info wideKey =
      .ok ⟨.v13, false, .required, [other], [leader], wideKey⟩ :=
    (create_eq_ok_iff hgenuine).mpr ⟨⟨hreadable, ⟨hadmitted, trivial⟩, hnumbers⟩, rfl⟩
  have hpresented := (@presented_laws info ⟨.v13, false, .required, [other], [leader], wideKey⟩
    rfl rfl).2 ⟨rfl, hself, hsound, hissued⟩
  rw [hbehind] at hpresented
  exact ⟨info, _, hgenuine, hcreate, rfl, hpresented⟩

end TlsContext

end InstanceLink
