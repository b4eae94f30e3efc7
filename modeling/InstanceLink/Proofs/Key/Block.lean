import InstanceLink.Key.Pem
import InstanceLink.Proofs.Base64.Strict
import InstanceLink.Proofs.Key.Octets
import InstanceLink.Proofs.Text.Trimming

/-!
# Reading key blocks

The block that is written for a key is read back as that key, and so is every other layout
of the same body. A text that holds a key is brought into normal form by writing the block
of that key again.
-/

namespace InstanceLink

/-- No character of base64 is blank. -/
theorem Base64.isBlank_of_mem_encode {bytes : List UInt8} {c : Char} (h : c ∈ Base64.encode bytes) :
    Text.isBlank c = false :=
  Base64.forall_mem_encode (P := fun c => Text.isBlank c = false) (by decide) (by decide) bytes c h

namespace KeyBlock

/-- The text with a body between the markers. -/
def around (body : String) : String := beginMarker ++ body ++ endMarker

/-- The body between the markers is found, whatever blanks stand around the block. -/
theorem body?_around {before behind : String} (hbefore : ∀ c ∈ before.toList, Text.isBlank c = true)
    (hbehind : ∀ c ∈ behind.toList, Text.isBlank c = true) (body : String) :
    body? (before ++ around body ++ behind) = some body := by
  have hfirst : beginMarker.toList.head? = some '-' := by decide
  have hlast : endMarker.toList.getLast? = some '-' := by decide
  have hdash : Text.isBlank '-' = false := by decide
  have hkept : Text.trimBy Text.isBlank (beginMarker.toList ++ body.toList ++ endMarker.toList) =
      beginMarker.toList ++ body.toList ++ endMarker.toList := by
    refine Text.trimBy_eq_self ?_ ?_
    · intro c hc
      rw [List.append_assoc, List.head?_append, hfirst, Option.some_or, Option.some.injEq] at hc
      rwa [← hc]
    · intro c hc
      rw [List.getLast?_append, hlast, Option.some_or, Option.some.injEq] at hc
      rwa [← hc]
  have htrimmed : (Text.strip (before ++ around body ++ behind)).toList =
      beginMarker.toList ++ body.toList ++ endMarker.toList := by
    rw [Text.toList_strip, String.toList_append, String.toList_append,
      Text.trimBy_append_append hbefore hbehind, around, String.toList_append,
      String.toList_append, hkept]
  have hstarts : beginMarker.toList.isPrefixOf
      (beginMarker.toList ++ body.toList ++ endMarker.toList) = true := by
    rw [List.isPrefixOf_iff_prefix, List.append_assoc]
    exact List.prefix_append _ _
  have hsuffix : endMarker.toList.isSuffixOf
      (beginMarker.toList ++ body.toList ++ endMarker.toList) = true := by
    rw [List.isSuffixOf_iff_suffix]
    exact List.suffix_append _ _
  have hlength : (beginMarker.toList ++ body.toList ++ endMarker.toList).length -
      endMarker.toList.length = (beginMarker.toList ++ body.toList).length := by
    rw [List.length_append, Nat.add_sub_cancel]
  simp only [body?, htrimmed, hstarts, hsuffix, Bool.and_self, if_true, hlength, List.take_left,
    List.drop_left, String.ofList_toList]

/-- A block whose body is read as octets holds what these octets hold. -/
theorem read_of_decode {s body : String} {bytes : List UInt8} (hbody : body? s = some body)
    (h : Base64.decode (Text.withoutBlanks body).toList = .ok bytes) :
    read s = (SubjectPublicKey.read bytes).mapError .key := by
  have hascii : ¬((Text.withoutBlanks body).toList.any fun c => decide (128 ≤ c.toNat)) = true := by
    rw [List.any_eq_true]
    rintro ⟨c, hc, hlarge⟩
    have hsmall := Base64.toNat_lt_of_decode h c hc
    rw [decide_eq_true_eq] at hlarge
    omega
  simp only [read, hbody, if_neg hascii, h]
  rfl

/-- A block whose body is the base64 of some octets holds the key of those octets. -/
theorem read_of_body? {s body : String} {bytes : List UInt8} (hbody : body? s = some body)
    (h : (Text.withoutBlanks body).toList = Base64.encode bytes) :
    read s = (SubjectPublicKey.read bytes).mapError .key :=
  read_of_decode hbody (by rw [h, Base64.decode_encode])

/-- Lines that are joined by a blank hold the characters of the lines. -/
theorem filter_intercalate {keep : Char → Bool} {mark : Char} (hmark : keep mark = false)
    (lines : List (List Char)) :
    (List.intercalate [mark] lines).filter keep = lines.flatten.filter keep := by
  induction lines with
  | nil => rfl
  | cons line lines ih =>
    cases lines with
    | nil => rw [List.intercalate_singleton, List.flatten_singleton]
    | cons next lines =>
      rw [List.intercalate_cons_cons, List.filter_append, List.filter_append, ih,
        List.filter_cons_of_neg (by simp [hmark]), List.filter_nil, List.append_nil,
        ← List.filter_append]
      rfl

/-- The body that is written for a key, line ends included. -/
def writtenBody (key : RsaKey) : String :=
  "\n" ++ "\n".intercalate ((bodyLines key).map String.ofList) ++ "\n"

/-- The block of a key is its body between the markers, and a final line end. -/
theorem write_eq (key : RsaKey) : write key = "" ++ around (writtenBody key) ++ "\n" := by
  simp only [write, around, writtenBody, String.append_assoc, String.empty_append]

/-- Without its line ends, the body of a key is the base64 of the key's octets. -/
theorem withoutBlanks_writtenBody (key : RsaKey) :
    (Text.withoutBlanks (writtenBody key)).toList =
      Base64.encode (SubjectPublicKey.octets key) := by
  have hline : (!Text.isBlank '\n') = false := by decide
  have hlines : ((bodyLines key).map String.ofList).map String.toList = bodyLines key := by
    simp only [List.map_map, Function.comp_def, String.toList_ofList, List.map_id']
  have hflat : (bodyLines key).flatten = Base64.encode (SubjectPublicKey.octets key) :=
    chunks_flatten _ _ _
  have hmark : "\n".toList = ['\n'] := by decide
  rw [Text.withoutBlanks, String.toList_ofList, writtenBody, String.toList_append,
    String.toList_append, String.toList_intercalate, hlines, hmark, List.filter_append,
    List.filter_append, filter_intercalate hline, hflat,
    List.filter_cons_of_neg (by simp [hline]), List.filter_nil, List.nil_append, List.append_nil]
  refine List.filter_eq_self.mpr ?_
  intro c hc
  rw [Base64.isBlank_of_mem_encode hc]
  rfl

/-- The block of a key is read back as that key. -/
theorem read_write (key : RsaKey) : read (write key) = .ok key := by
  have hbody : body? (write key) = some (writtenBody key) := by
    rw [write_eq]
    exact body?_around (List.all_eq_true.mp (by decide)) (List.all_eq_true.mp (by decide)) _
  rw [read_of_body? hbody (withoutBlanks_writtenBody key), SubjectPublicKey.read_octets]
  rfl

/-- The normal form of a text that holds a key: the block of that key. -/
def normalForm (s : String) : Except Refusal String := (read s).map write

/-- A text that holds a key has the block of that key as its normal form. -/
theorem normalForm_of_read {s : String} {key : RsaKey} (h : read s = .ok key) :
    normalForm s = .ok (write key) := by
  rw [normalForm, h]
  rfl

/-- The block of every key is read back as that key, whatever the size of its numbers. So
is every other layout of either body: the octets that name the algorithm or the bare pair,
in base64 with blanks at any place, and blanks around the block. A text that holds a key is
brought into normal form by writing that key's block: the normal form holds the same key,
is its own normal form, and belongs to texts with the same key only. -/
theorem normalForm_laws :
    (∀ key, read (write key) = .ok key) ∧
      (∀ key before body behind, (∀ c ∈ before.toList, Text.isBlank c = true) →
        (∀ c ∈ behind.toList, Text.isBlank c = true) →
        ((Text.withoutBlanks body).toList = Base64.encode (SubjectPublicKey.octets key) ∨
          (Text.withoutBlanks body).toList = Base64.encode (SubjectPublicKey.pairOctets key)) →
        read (before ++ (beginMarker ++ body ++ endMarker) ++ behind) = .ok key) ∧
      (∀ s key, read s = .ok key → normalForm s = .ok (write key) ∧
        read (write key) = .ok key ∧ normalForm (write key) = .ok (write key)) ∧
      ∀ s t key other, read s = .ok key → read t = .ok other →
        (normalForm s = normalForm t ↔ key = other) := by
  refine ⟨read_write, ?_, ?_, ?_⟩
  · intro key before body behind hbefore hbehind hbody
    have hfound := body?_around hbefore hbehind body
    rw [around] at hfound
    rcases hbody with hnamed | hpair
    · rw [read_of_body? hfound hnamed, SubjectPublicKey.read_octets]
      rfl
    · rw [read_of_body? hfound hpair, SubjectPublicKey.read_pairOctets]
      rfl
  · intro s key hs
    exact ⟨normalForm_of_read hs, read_write key, normalForm_of_read (read_write key)⟩
  · intro s t key other hs ht
    rw [normalForm_of_read hs, normalForm_of_read ht]
    constructor
    · intro heq
      have hsame := congrArg (fun written => written.bind read) heq
      simpa only [Except.bind, read_write, Except.ok.injEq] using hsame
    · rintro rfl
      rfl

/-- A key for texts written out in full. -/
def smallKey : RsaKey := ⟨3127, 7, by decide, by decide, by decide, by decide⟩

/-- Another key with the same modulus. -/
def otherKey : RsaKey := ⟨3127, 5, by decide, by decide, by decide, by decide⟩

/-- The bare pair of a key, with blanks inside a base64 group and around the block. -/
def foldedPair : String :=
  " \t" ++ (beginMarker ++ "MAc CAgw\n3AgEH\r\n" ++ endMarker) ++ "\n\u3000"

/-- A folded bare pair holds the key, its normal form is the block that names the algorithm,
and another key has another one. -/
theorem normalForm_laws_foldedPair :
    read foldedPair = .ok smallKey ∧ normalForm foldedPair = .ok (write smallKey) ∧
      normalForm (write smallKey) = .ok (write smallKey) ∧
      normalForm foldedPair ≠ normalForm (write otherKey) := by
  obtain ⟨hround, hlayout, hnormal, hsame⟩ := normalForm_laws
  have hread : read foldedPair = .ok smallKey :=
    hlayout smallKey " \t" _ "\n\u3000" (List.all_eq_true.mp (by decide))
      (List.all_eq_true.mp (by decide)) (.inr (by decide +kernel))
  obtain ⟨hform, _, hfixed⟩ := hnormal foldedPair smallKey hread
  have hother := hsame foldedPair _ smallKey otherKey hread (hround otherKey)
  exact ⟨hread, hform, hfixed, fun heq => absurd (hother.mp heq) (by decide)⟩

end KeyBlock

end InstanceLink
