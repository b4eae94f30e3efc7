import InstanceLink.Certificate.Section
import InstanceLink.Proofs.Base64.Strict
import InstanceLink.Proofs.Text.Utf8
import Mathlib.Data.List.Chain

/-!
# Reading written sections

A row of sections is read back from the text that is written for it, whatever bytes without a
dash stand in front. The label must not be empty and must not hold a dash; the content is any.
-/

namespace InstanceLink

namespace TextSection

section Search

/-! The search for a mark never goes back, so what stands before the mark must not hold its first
byte. -/

variable {mark before bytes : List UInt8} {first : UInt8}

/-- The rest of a mark that is started is found where it stands. -/
theorem seek?_left_append (mark left passed rest : List UInt8) :
    seek? mark left passed (left ++ rest) =
      some (((left.reverse ++ passed).drop mark.length).reverse, rest) := by
  induction left generalizing passed with
  | nil => cases rest <;> rfl
  | cons b left ih =>
    rw [List.cons_append, seek?, if_pos rfl, ih, List.reverse_cons, List.append_assoc,
      List.singleton_append]

/-- Bytes that cannot start the mark are passed. -/
theorem seek?_append (hfirst : mark.head? = some first) (hbefore : first ∉ before)
    (passed rest : List UInt8) :
    seek? mark mark passed (before ++ rest) = seek? mark mark (before.reverse ++ passed) rest := by
  obtain ⟨after, rfl⟩ := List.head?_eq_some_iff.mp hfirst
  induction before generalizing passed with
  | nil => rfl
  | cons b before ih =>
    obtain ⟨hb, hbefore⟩ := not_or.mp (mt List.mem_cons.mpr hbefore)
    rw [List.cons_append, seek?, if_neg (Ne.symm hb), ih hbefore, List.reverse_cons,
      List.append_assoc, List.singleton_append]

/-- A mark is found behind bytes that cannot start it. -/
theorem splitAt?_append (hfirst : mark.head? = some first) (hbefore : first ∉ before)
    (rest : List UInt8) : splitAt? mark (before ++ (mark ++ rest)) = some (before, rest) := by
  rw [splitAt?, seek?_append hfirst hbefore, seek?_left_append, List.append_nil,
    ← List.length_reverse, List.drop_left, List.reverse_reverse]

/-- No mark is found where nothing can start it. -/
theorem splitAt?_eq_none (hfirst : mark.head? = some first) (hbytes : first ∉ bytes) :
    splitAt? mark bytes = none := by
  obtain ⟨after, rfl⟩ := List.head?_eq_some_iff.mp hfirst
  rw [splitAt?, ← List.append_nil bytes, seek?_append hfirst hbytes]
  rfl

/-- A byte that never stands twice in a row is not found twice in a row. -/
theorem seek?_pair_eq_none {a : UInt8} (h : bytes.IsChain fun x y => x ≠ a ∨ y ≠ a)
    (passed : List UInt8) :
    seek? [a, a] [a, a] passed bytes = none ∧
      (bytes.head? ≠ some a → seek? [a, a] [a] passed bytes = none) := by
  induction bytes generalizing passed with
  | nil => exact ⟨rfl, fun _ => rfl⟩
  | cons b bytes ih =>
    obtain ⟨hhead, htail⟩ := List.isChain_cons.mp h
    constructor
    · rw [seek?]
      split
      next hb =>
        refine (ih htail _).2 fun hnext => ?_
        rcases hhead a hnext with hne | hne
        · exact hne hb
        · exact hne rfl
      next => exact (ih htail _).1
    · intro hne
      rw [seek?, if_neg fun hb => hne (congrArg some hb)]
      exact (ih htail _).1

end Search

section Body

/-! The body of a section: base64 in lines of 64 characters, none of them empty. -/

/-- Breaking into lines adds line ends only. -/
theorem mem_bodyLines {fuel : Nat} {cs : List Char} {c : Char} (h : c ∈ bodyLines fuel cs) :
    c ∈ cs ∨ c = '\n' := by
  fun_induction bodyLines fuel cs with
  | case1 fuel => contradiction
  | case2 cs hne => exact .inl h
  | case3 fuel cs hne ih =>
    rw [List.mem_append, List.mem_cons] at h
    rcases h with h | h | h
    · exact .inl (List.mem_of_mem_take h)
    · exact .inr h
    · exact (ih h).imp_left List.mem_of_mem_drop

/-- Without the line ends the characters are what they were. -/
theorem filter_bodyLines {keep : Char → Bool} (hend : keep '\n' = false) {cs : List Char}
    (h : ∀ c ∈ cs, keep c = true) (fuel : Nat) : (bodyLines fuel cs).filter keep = cs := by
  fun_induction bodyLines fuel cs with
  | case1 fuel => rfl
  | case2 cs hne => exact List.filter_eq_self.mpr h
  | case3 fuel cs hne ih =>
    have htake : (cs.take 64).filter keep = cs.take 64 :=
      List.filter_eq_self.mpr fun c hc => h c (List.mem_of_mem_take hc)
    rw [List.filter_append, htake, List.filter_cons_of_neg (by simp [hend]),
      ih fun c hc => h c (List.mem_of_mem_drop hc), List.take_append_drop]

/-- A body starts like what it holds. -/
theorem head?_bodyLines (fuel : Nat) (cs : List Char) :
    (bodyLines fuel cs).head? = cs.head? := by
  fun_cases bodyLines fuel cs with
  | case1 fuel => rfl
  | case2 cs hne => rfl
  | case3 fuel cs hne =>
    cases cs with
    | nil => contradiction
    | cons c cs => rfl

/-- No line is empty, so one of two characters in a row is always of those held. -/
theorem isChain_bodyLines {R : Char → Char → Prop} {cs : List Char}
    (hleft : ∀ c ∈ cs, ∀ d, R c d) (hright : ∀ c ∈ cs, ∀ d, R d c) (fuel : Nat) :
    (bodyLines fuel cs).IsChain R := by
  have hline : ∀ {line : List Char}, (∀ c ∈ line, c ∈ cs) → line.IsChain R := fun hsub =>
    List.Pairwise.isChain
      (List.pairwise_of_forall_mem_list fun c hc d _ => hleft c (hsub c hc) d)
  fun_induction bodyLines fuel cs with
  | case1 fuel => exact .nil
  | case2 cs hne => exact hline fun _ hc => hc
  | case3 fuel cs hne ih =>
    refine List.isChain_append.mpr ⟨hline fun _ => List.mem_of_mem_take, ?_, ?_⟩
    · refine List.isChain_cons.mpr ⟨fun d hd => ?_, ?_⟩
      · rw [head?_bodyLines] at hd
        exact hright d (List.mem_of_mem_drop (List.mem_of_mem_head? hd)) _
      · exact ih (fun c hc => hleft c (List.mem_of_mem_drop hc))
          (fun c hc => hright c (List.mem_of_mem_drop hc))
          (fun hsub => hline fun c hc => List.mem_of_mem_drop (hsub c hc))
    · intro c hc d _
      exact hleft c (List.mem_of_mem_take (List.mem_of_getLast? hc)) d

end Body

/-- A section that can be written: its label is not empty and holds no dash. -/
structure Writable (s : TextSection) : Prop where
  nonempty : s.label.toList ≠ []
  undashed : '-' ∉ s.label.toList

/-- The characters between the two marked lines. -/
def body (s : TextSection) : List Char :=
  bodyLines (Base64.encode s.content).length (Base64.encode s.content)

/-- Base64 is plain text without a dash and without white space. -/
theorem sound_of_mem_encode {bytes : List UInt8} {c : Char} (h : c ∈ Base64.encode bytes) :
    c.toNat < 128 ∧ c ≠ '-' ∧ isBodySpace c = false :=
  Base64.forall_mem_encode (P := fun c => c.toNat < 128 ∧ c ≠ '-' ∧ isBodySpace c = false)
    (by decide) (by decide) bytes c h

/-- Base64 holds none of the bytes that are blank in a section. -/
theorem byte_not_blank {bytes : List UInt8} {c : Char} (h : c ∈ Base64.encode bytes) :
    UInt8.ofNat c.toNat ≠ 0x20 ∧ UInt8.ofNat c.toNat ≠ 0x09 ∧ UInt8.ofNat c.toNat ≠ 0x0a ∧
      UInt8.ofNat c.toNat ≠ 0x0d := by
  obtain ⟨hplain, -, hspace⟩ := sound_of_mem_encode h
  obtain ⟨h32, h9, h10, h13⟩ : c.toNat ≠ 32 ∧ c.toNat ≠ 9 ∧ c.toNat ≠ 10 ∧ c.toNat ≠ 13 := by
    refine ⟨?_, ?_, ?_, ?_⟩ <;> intro hcode <;> simp [isBodySpace, hcode] at hspace
  exact ⟨Text.byte_ne hplain h32, Text.byte_ne hplain h9, Text.byte_ne hplain h10,
    Text.byte_ne hplain h13⟩

/-- A body is plain text without a dash. -/
theorem sound_of_mem_body {s : TextSection} {c : Char} (h : c ∈ s.body) :
    c.toNat < 128 ∧ c ≠ '-' := by
  rcases mem_bodyLines h with h | rfl
  · exact ⟨(sound_of_mem_encode h).1, (sound_of_mem_encode h).2.1⟩
  · decide

/-- The parts of a section as they are written. -/
def frame (s : TextSection) : Frame :=
  ⟨Text.encodeUtf8 s.label.toList, Text.encodeUtf8 s.body, Text.encodeUtf8 s.label.toList⟩

/-- The bytes of a written section. -/
theorem encodeUtf8_text (s : TextSection) :
    Text.encodeUtf8 s.text.toList =
      plainBytes "-----BEGIN " ++ (s.frame.first ++ (plainBytes "-----" ++ (0x0a ::
        (s.frame.body ++ (plainBytes "-----END " ++
          (s.frame.last ++ (plainBytes "-----" ++ [0x0a]))))))) := by
  have hbegin : Text.encodeUtf8 "-----BEGIN ".toList = plainBytes "-----BEGIN " := by decide
  have hdashes : Text.encodeUtf8 "-----\n".toList = plainBytes "-----" ++ [0x0a] := by decide
  have hend : Text.encodeUtf8 "-----END ".toList = plainBytes "-----END " := by decide
  have htext : s.text = "-----BEGIN " ++ s.label ++ "-----\n" ++ String.ofList s.body ++
      "-----END " ++ s.label ++ "-----\n" := rfl
  simp only [htext, String.toList_append, String.toList_ofList, Text.encodeUtf8_append, hbegin,
    hdashes, hend, frame, List.append_assoc, List.cons_append, List.nil_append]

/-- No byte of a text without dashes is a dash. -/
theorem dash_not_mem_encodeUtf8 {cs : List Char} (h : '-' ∉ cs) :
    0x2d ∉ Text.encodeUtf8 cs := by
  intro hmem
  obtain ⟨c, hc, hcode⟩ := Text.toNat_of_mem_encodeUtf8 hmem (by decide)
  exact h (Char.toNat_inj.mp (hcode.trans (by decide : (0x2d : UInt8).toNat = '-'.toNat)) ▸ hc)

/-- Behind the begin line, only its end is skipped. -/
theorem skipBlank_body (s : TextSection) (after : List UInt8) :
    skipBlank (0x0a :: (s.frame.body ++ (plainBytes "-----END " ++ after))) =
      s.frame.body ++ (plainBytes "-----END " ++ after) := by
  cases hb : s.body with
  | nil =>
    have hempty : s.frame.body = [] := by rw [frame, hb]; rfl
    rw [hempty]
    rfl
  | cons c cs =>
    have hc : c ∈ Base64.encode s.content := by
      have hhead := head?_bodyLines (Base64.encode s.content).length (Base64.encode s.content)
      rw [← body, hb] at hhead
      exact List.mem_of_mem_head? hhead.symm
    have hbytes : s.frame.body = UInt8.ofNat c.toNat :: Text.encodeUtf8 cs := by
      rw [frame, hb, ← List.singleton_append, Text.encodeUtf8_append,
        Text.encodeUtf8_of_plain (List.forall_mem_singleton.mpr (sound_of_mem_encode hc).1)]
      rfl
    obtain ⟨h20, h09, h0a, h0d⟩ := byte_not_blank hc
    rw [hbytes, skipBlank, List.dropWhile_cons_of_pos (by decide), List.cons_append,
      List.dropWhile_cons_of_neg (by simp [h20, h09, h0a, h0d])]

/-- A written section is framed by its marks, in front of any other bytes. -/
theorem frame?_append {s : TextSection} (hs : s.Writable) {before : List UInt8}
    (hbefore : 0x2d ∉ before) (rest : List UInt8) :
    frame? (before ++ (Text.encodeUtf8 s.text.toList ++ rest)) =
      some (s.frame, skipBlank rest) := by
  have hlabel : 0x2d ∉ s.frame.first := dash_not_mem_encodeUtf8 hs.undashed
  have hlast : 0x2d ∉ s.frame.last := hlabel
  have hbody : 0x2d ∉ s.frame.body :=
    dash_not_mem_encodeUtf8 fun hmem => (sound_of_mem_body hmem).2 rfl
  have hbegin : (plainBytes "-----BEGIN ").head? = some 0x2d := by decide
  have hdashes : (plainBytes "-----").head? = some 0x2d := by decide
  have hend : (plainBytes "-----END ").head? = some 0x2d := by decide
  rw [encodeUtf8_text]
  simp only [List.append_assoc, List.cons_append, List.nil_append, frame?,
    splitAt?_append hbegin hbefore, splitAt?_append hdashes hlabel, splitAt?_append hend hbody,
    splitAt?_append hdashes hlast, skipBlank_body, Option.bind_eq_bind, Option.bind_some]
  rfl

/-- A written body has no headers. -/
theorem splitHeaders_body (s : TextSection) : splitHeaders s.frame.body = ([], s.frame.body) := by
  have hbytes : s.frame.body = s.body.map fun c => UInt8.ofNat c.toNat :=
    Text.encodeUtf8_of_plain fun c hc => (sound_of_mem_body hc).1
  have hnl : ∀ c ∈ Base64.encode s.content, UInt8.ofNat c.toNat ≠ 0x0a :=
    fun c hc => (byte_not_blank hc).2.2.1
  have hcr : 0x0d ∉ s.frame.body := by
    rw [hbytes]
    intro hmem
    obtain ⟨c, hc, he⟩ := List.mem_map.mp hmem
    rcases mem_bodyLines hc with hc | rfl
    · exact (byte_not_blank hc).2.2.2 he
    · exact absurd he (by decide)
  have hmark : ([0x0d, 0x0a, 0x0d, 0x0a] : List UInt8).head? = some 0x0d := rfl
  have hchain : s.frame.body.IsChain fun x y => x ≠ 0x0a ∨ y ≠ 0x0a := by
    rw [hbytes, List.isChain_map]
    exact isChain_bodyLines (fun c hc _ => .inl (hnl c hc)) (fun c hc _ => .inr (hnl c hc)) _
  rw [splitHeaders, splitAt?, (seek?_pair_eq_none hchain []).1]
  dsimp only
  rw [splitAt?_eq_none hmark hcr]
  rfl

/-- The parts of a written section are those of the section. -/
theorem ofFrame?_frame {s : TextSection} (hs : s.Writable) : ofFrame? s.frame = some s := by
  have hlabel : (s.label.toList.isEmpty || s.label.toList != s.label.toList) = false := by
    simp [hs.nonempty]
  have hfilter : s.body.filter (fun c => !isBodySpace c) = Base64.encode s.content :=
    filter_bodyLines (by decide)
      (fun c hc => by rw [(sound_of_mem_encode hc).2.2]; rfl) _
  have hcontent : decodeCanonical? (Base64.encode s.content) = some s.content := by
    rw [decodeCanonical?, Base64.decode_encode]
    exact if_pos rfl
  have hheaders : ((lines []).all fun line => line.contains ':') = true := by decide
  simp only [ofFrame?, splitHeaders_body]
  simp only [frame, Text.decodeUtf8?_encodeUtf8, Option.bind_eq_bind, Option.bind_some, hlabel,
    hfilter, hcontent]
  rw [if_neg Bool.false_ne_true, Text.decodeUtf8?, Option.bind_some, if_pos hheaders,
    String.ofList_toList]
  rfl

/-- The bytes of a row of sections. -/
def written (row : List TextSection) : List UInt8 :=
  row.flatMap fun s => Text.encodeUtf8 s.text.toList

/-- A row of written sections starts with a mark at once. -/
theorem skipBlank_written (row : List TextSection) : skipBlank (written row) = written row := by
  cases row with
  | nil => rfl
  | cons s row =>
    rw [written, List.flatMap_cons, encodeUtf8_text]
    rfl

/-- A written section is not empty, so a row has no more sections than bytes. -/
theorem length_le_length_written (row : List TextSection) : row.length ≤ (written row).length := by
  induction row with
  | nil => exact Nat.zero_le _
  | cons s row ih =>
    have hone : 1 ≤ (Text.encodeUtf8 s.text.toList).length := by
      rw [encodeUtf8_text, List.length_append]
      exact Nat.le_add_right_of_le (by decide)
    have hcons : written (s :: row) = Text.encodeUtf8 s.text.toList ++ written row :=
      List.flatMap_cons
    rw [hcons, List.length_append, List.length_cons]
    omega

/-- A row of written sections is framed section by section. -/
theorem frames_written {row : List TextSection} (hrow : ∀ s ∈ row, s.Writable)
    {before : List UInt8} (hbefore : 0x2d ∉ before) {fuel : Nat} (hfuel : row.length ≤ fuel) :
    frames fuel (before ++ written row) = row.map frame := by
  induction row generalizing before fuel with
  | nil =>
    rw [written, List.flatMap_nil, List.append_nil]
    cases fuel with
    | zero => rfl
    | succ fuel =>
      have hnone : frame? before = none := by
        have hbegin : (plainBytes "-----BEGIN ").head? = some 0x2d := by decide
        rw [frame?, splitAt?_eq_none hbegin hbefore]
        rfl
      rw [frames, hnone]
      rfl
  | cons s row ih =>
    obtain ⟨hs, hrow⟩ := List.forall_mem_cons.mp hrow
    cases fuel with
    | zero => exact absurd hfuel (by simp)
    | succ fuel =>
      have hrest := @ih hrow [] List.not_mem_nil fuel (Nat.le_of_succ_le_succ hfuel)
      rw [List.nil_append] at hrest
      have hfirst : frame? (before ++ written (s :: row)) = some (s.frame, written row) := by
        rw [← skipBlank_written row]
        exact frame?_append hs hbefore (written row)
      rw [frames, hfirst]
      exact congrArg (s.frame :: ·) hrest

/-- A row of written sections is read back. -/
theorem read?_written {row : List TextSection} (hrow : ∀ s ∈ row, s.Writable)
    {before : List UInt8} (hbefore : 0x2d ∉ before) :
    read? (before ++ written row) = some row := by
  have hfuel : row.length ≤ (before ++ written row).length := by
    have hlength := length_le_length_written row
    rw [List.length_append]
    omega
  rw [read?, frames_written hrow hbefore hfuel, List.mapM_map]
  clear hfuel
  induction row with
  | nil => rfl
  | cons s row ih =>
    obtain ⟨hs, hrow⟩ := List.forall_mem_cons.mp hrow
    have hone : (ofFrame? ∘ frame) s = some s := ofFrame?_frame hs
    rw [List.mapM_cons, hone, ih hrow]
    rfl

end TextSection

end InstanceLink
