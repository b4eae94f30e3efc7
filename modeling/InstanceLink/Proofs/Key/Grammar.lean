import InstanceLink.Proofs.Key.Block
import InstanceLink.Proofs.Result

/-!
# Which texts hold a public key

A text holds a key when, without the blanks around it, it is a body between the two markers, and
the body without its blanks is base64 of octets that hold the key. The layout of the body never
counts. The base64 need not be strict: padding may stand behind complete groups, where strict
base64 has none.
-/

namespace InstanceLink.KeyBlock

/-- Where something is left between a start and an end, the whole is the start, that, and the
end. Only where nothing is left may the two overlap. -/
theorem eq_append_of_between {first last cs : List Char} (hfirst : first <+: cs)
    (hlast : last <:+ cs) (h : (cs.take (cs.length - last.length)).drop first.length ≠ []) :
    cs = first ++ (cs.take (cs.length - last.length)).drop first.length ++ last := by
  obtain ⟨front, rfl⟩ := hlast
  rw [List.length_append, Nat.add_sub_cancel, List.take_left] at h ⊢
  have hshort : first.length ≤ front.length := Nat.le_of_not_lt fun hover =>
    h (List.drop_eq_nil_of_le (Nat.le_of_lt hover))
  obtain ⟨middle, rfl⟩ := List.prefix_of_prefix_length_le hfirst (List.prefix_append _ _) hshort
  rw [List.drop_left]

/-- Blanks around a text do not count for its body. -/
theorem body?_strip (s : String) : body? (Text.strip s) = body? s := by
  simp only [body?, Text.strip_strip]

/-- A text that is a body between the markers, blanks around it apart, has that body. -/
theorem body?_of_strip_eq {s body : String} (h : Text.strip s = around body) :
    body? s = some body := by
  have hbody := @body?_around "" "" (by simp) (by simp) body
  rw [String.empty_append, String.append_empty] at hbody
  rw [← body?_strip, h, hbody]

/-- A body that is not empty stands between the markers. -/
theorem strip_eq_of_body? {s body : String} (h : body? s = some body) (hne : body ≠ "") :
    Text.strip s = around body := by
  simp only [body?] at h
  split at h
  next hmarkers =>
    obtain ⟨hstarts, hends⟩ := Bool.and_eq_true_iff.mp hmarkers
    obtain rfl := Option.some.inj h
    have hsplit := eq_append_of_between (List.isPrefixOf_iff_prefix.mp hstarts)
      (List.isSuffixOf_iff_suffix.mp hends) fun hnil => hne (by rw [hnil])
    apply String.toList_inj.mp
    rw [around, String.toList_append, String.toList_append, String.toList_ofList]
    exact hsplit
  next => cases h

/-- A text that holds a key has a body, and the body without its blanks is read as octets. -/
theorem exists_decode_of_read {s : String} {key : RsaKey} (h : read s = .ok key) :
    ∃ body bytes, body? s = some body ∧
      Base64.decode (Text.withoutBlanks body).toList = .ok bytes := by
  rw [read] at h
  cases hbody : body? s with
  | none =>
    rw [hbody] at h
    cases h
  | some body =>
    simp only [hbody] at h
    split at h
    next => cases h
    next =>
      cases hdecode : Base64.decode (Text.withoutBlanks body).toList with
      | error cause =>
        rw [hdecode] at h
        cases h
      | ok bytes => exact ⟨body, bytes, rfl, hdecode⟩

/-- A text holds a key in strict base64: without the blanks around it, it is a body between the
two markers, and the body without its blanks is strict base64 of octets that hold the key. -/
def HoldsStrictly (s : String) (key : RsaKey) : Prop :=
  ∃ body bytes, Text.strip s = beginMarker ++ body ++ endMarker ∧
    Base64.Strict (Text.withoutBlanks body).toList bytes ∧ SubjectPublicKey.read bytes = .ok key

/-- A text holds a key with padding behind the complete groups of its base64. -/
def HoldsWithSurplus (s : String) (key : RsaKey) : Prop :=
  ∃ body core surplus bytes, Text.strip s = beginMarker ++ body ++ endMarker ∧
    (Text.withoutBlanks body).toList = core ++ List.replicate (surplus + 1) '=' ∧ '=' ∉ core ∧
    Base64.Strict core bytes ∧ SubjectPublicKey.read bytes = .ok key

/-- No octets at all are no key. -/
theorem read_nil_ne_ok (key : RsaKey) : SubjectPublicKey.read [] ≠ .ok key := by
  intro h
  cases h

/-- A key is read in one of two ways. -/
theorem read_eq_ok_iff {s : String} {key : RsaKey} :
    read s = .ok key ↔ HoldsStrictly s key ∨ HoldsWithSurplus s key := by
  constructor
  · intro h
    obtain ⟨body, bytes, hbody, hdecode⟩ := exists_decode_of_read h
    rw [read_of_decode hbody hdecode, mapError_eq_ok_iff] at h
    have hne : body ≠ "" := by
      rintro rfl
      cases hdecode
      exact read_nil_ne_ok key h
    have hstrip := strip_eq_of_body? hbody hne
    obtain ⟨core, surplus, hcore, hstrict, hsurplus⟩ := Base64.decode_eq_ok_iff.mp hdecode
    rcases hsurplus with rfl | ⟨-, hplain⟩
    · rw [List.replicate_zero, List.append_nil] at hcore
      exact .inl ⟨body, bytes, hstrip, hcore ▸ hstrict, h⟩
    · cases surplus with
      | zero =>
        rw [List.replicate_zero, List.append_nil] at hcore
        exact .inl ⟨body, bytes, hstrip, hcore ▸ hstrict, h⟩
      | succ surplus => exact .inr ⟨body, core, surplus, bytes, hstrip, hcore, hplain, hstrict, h⟩
  · rintro (⟨body, bytes, hstrip, hstrict, hkey⟩ |
      ⟨body, core, surplus, bytes, hstrip, hcore, hplain, hstrict, hkey⟩)
    · rw [read_of_decode (body?_of_strip_eq hstrip) (Base64.decode_of_strict hstrict), hkey]
      rfl
    · have hne : core ≠ [] := by
        rintro rfl
        cases Base64.decode_of_strict hstrict
        exact read_nil_ne_ok key hkey
      have hdecode := Base64.decode_eq_ok_iff.mpr
        ⟨core, surplus + 1, hcore, hstrict, .inr ⟨hne, hplain⟩⟩
      rw [read_of_decode (body?_of_strip_eq hstrip) hdecode, hkey]
      rfl

/-- A text that holds a key with surplus padding holds none in strict base64. -/
theorem not_holdsStrictly_of_surplus {s : String} {key other : RsaKey}
    (h : HoldsWithSurplus s key) : ¬ HoldsStrictly s other := by
  rintro ⟨found, octets, hfound, hwhole, -⟩
  obtain ⟨body, core, surplus, bytes, hstrip, hcore, hplain, hstrict, -⟩ := h
  have hbody : found = body :=
    Option.some.inj ((body?_of_strip_eq hfound).symm.trans (body?_of_strip_eq hstrip))
  rw [hbody, hcore] at hwhole
  -- The groups of the core are complete, so the surplus would be whole groups of padding.
  have hgroups := Base64.length_of_strict hwhole
  have hcomplete := Base64.length_of_strict hstrict
  have hfew := Base64.count_of_strict hwhole
  rw [List.length_append, List.length_replicate] at hgroups
  rw [List.count_append, List.count_eq_zero.mpr hplain, List.count_replicate_self] at hfew
  omega

/-- A text holds a key exactly when it is a body between the two markers, blanks around it
apart, and the body without its blanks is strict base64 of octets that hold the key, or such
base64 in complete groups with padding behind them. So strict base64 alone decides exactly for the
texts without such padding. Of a body in strict base64, the block holds what its octets hold.
Neither the blanks around a block nor those inside its body count, whether a key is read or the
block is refused. -/
theorem read_block_grammar (s : String) :
    (∀ key, read s = .ok key ↔ HoldsStrictly s key ∨ HoldsWithSurplus s key) ∧
      ((∀ key, read s = .ok key ↔ HoldsStrictly s key) ↔ ∀ key, ¬ HoldsWithSurplus s key) ∧
      (∀ body bytes, Text.strip s = beginMarker ++ body ++ endMarker →
        Base64.Strict (Text.withoutBlanks body).toList bytes →
        read s = (SubjectPublicKey.read bytes).mapError .key) ∧
      ∀ t body other, Text.strip s = beginMarker ++ body ++ endMarker →
        Text.strip t = beginMarker ++ other ++ endMarker →
        Text.withoutBlanks body = Text.withoutBlanks other → read s = read t := by
  refine ⟨fun key => read_eq_ok_iff, ⟨fun hclaim key hsurplus => ?_, fun hnone key => ?_⟩, ?_, ?_⟩
  · exact not_holdsStrictly_of_surplus hsurplus
      ((hclaim key).mp (read_eq_ok_iff.mpr (.inr hsurplus)))
  · rw [read_eq_ok_iff, or_iff_left (hnone key)]
  · intro body bytes hstrip hstrict
    exact read_of_decode (body?_of_strip_eq hstrip) (Base64.decode_of_strict hstrict)
  · intro t body other hs ht hsame
    simp only [read, body?_of_strip_eq hs, body?_of_strip_eq ht, hsame]

/-- The bare pair of a small key, with padding behind its complete groups. -/
def surplusPair : String := beginMarker ++ "\nMAcCAgw3AgEH=\n" ++ endMarker

/-- The same body with its padding on a line of its own, and blanks around the block. -/
def foldedSurplus : String :=
  "\u3000" ++ (beginMarker ++ "MAc CAgw\n3AgEH\r\n=" ++ endMarker) ++ "\n"

/-- Padding behind complete groups is no strict base64, and the key is read all the same, in
either layout. -/
theorem read_block_grammar_surplus :
    read surplusPair = .ok smallKey ∧ ¬ HoldsStrictly surplusPair smallKey ∧
      read foldedSurplus = .ok smallKey := by
  obtain ⟨hread, -, -, hlayout⟩ := read_block_grammar surplusPair
  have hsurplus : HoldsWithSurplus surplusPair smallKey :=
    ⟨"\nMAcCAgw3AgEH=\n", "MAcCAgw3AgEH".toList, 0, SubjectPublicKey.pairOctets smallKey,
      by decide +kernel, by decide +kernel, by decide,
      ⟨[12, 0, 28, 2, 0, 32, 48, 55, 0, 32, 4, 7], by decide, by decide, by decide,
        by decide +kernel⟩,
      SubjectPublicKey.read_pairOctets smallKey⟩
  have hkey : read surplusPair = .ok smallKey := (hread smallKey).mpr (.inr hsurplus)
  have hfolded : read surplusPair = read foldedSurplus :=
    hlayout foldedSurplus "\nMAcCAgw3AgEH=\n" "MAc CAgw\n3AgEH\r\n=" (by decide +kernel)
      (by decide +kernel) (by decide +kernel)
  exact ⟨hkey, not_holdsStrictly_of_surplus hsurplus, hfolded.symm.trans hkey⟩

end InstanceLink.KeyBlock
