import InstanceLink.Proofs.Key.Block

/-!
# The lines of a key block

The block of a key is the begin marker, the lines of its body, the end marker and a final line
end. The body is the base64 of the key's octets cut at every 64th character, so that each line
but the last is full and no line is empty, whatever the length of the key.
-/

namespace InstanceLink

namespace Base64

/-- The alphabet, in the order of the six-bit values. -/
def alphabet : String := "ABCDEFGHIJKLMNOPQRSTUVWXYZabcdefghijklmnopqrstuvwxyz0123456789+/"

/-- A six-bit value is written with its place in the alphabet. -/
theorem alphabet_character : ∀ v < 64, alphabet.toList[v]? = some (character v) := by
  decide +kernel

/-- What is written is characters of the alphabet, and at most two padding characters behind. -/
theorem exists_encode_eq_append_padding (bytes : List UInt8) :
    ∃ core count, encode bytes = core ++ List.replicate count '=' ∧ count ≤ 2 ∧
      ∀ c ∈ core, c ∈ alphabet.toList := by
  refine ⟨(sextets bytes).map character, _, encode_eq bytes, by omega, fun c hc => ?_⟩
  obtain ⟨v, hv, rfl⟩ := List.mem_map.mp hc
  exact List.mem_of_getElem? (alphabet_character v (lt_of_mem_sextets hv))

/-- No line end is written. -/
theorem newline_not_mem_encode (bytes : List UInt8) : '\n' ∉ encode bytes := fun h =>
  forall_mem_encode (P := fun c => c ≠ '\n') (by decide) (by decide) bytes _ h rfl

end Base64

namespace KeyBlock

/-- Lines are a text that is cut at every multiple of a length. -/
structure IsCutAt (size : Nat) (text : List Char) (lines : List (List Char)) : Prop where
  /-- Nothing is lost, repeated or moved. -/
  flatten : lines.flatten = text
  /-- Every line but the last is full. -/
  full : ∀ line ∈ lines.dropLast, line.length = size
  /-- No line is empty or longer than a full one. -/
  sized : ∀ line ∈ lines, 1 ≤ line.length ∧ line.length ≤ size
  /-- There are as many lines as it takes, and each is the window at its place. -/
  window : ∀ i, lines[i]? =
    if size * i < text.length then some ((text.drop (size * i)).take size) else none

section Chunks

variable {size fuel : Nat} {cs : List Char} (hsize : 0 < size) (hfuel : cs.length ≤ fuel)
include hsize hfuel

/-- With enough fuel, the lines are the windows of the text at the multiples of their length. -/
theorem getElem?_chunks (i : Nat) :
    (chunks size fuel cs)[i]? =
      if size * i < cs.length then some ((cs.drop (size * i)).take size) else none := by
  fun_induction chunks size fuel cs generalizing i with
  | case1 => simp
  | case2 cs hne => exact absurd (List.length_eq_zero_iff.mp (Nat.le_zero.mp hfuel)) hne
  | case3 fuel cs hne ih =>
    cases i with
    | zero =>
      have hpos := List.length_pos_iff.mpr hne
      simp [hpos]
    | succ i =>
      have hrest : (cs.drop size).length ≤ fuel := by
        rw [List.length_drop]
        omega
      have hwindow : size * (i + 1) = size + size * i := by rw [Nat.mul_succ, Nat.add_comm]
      rw [List.getElem?_cons_succ, ih hrest, List.length_drop, List.drop_drop, hwindow]
      refine if_congr ?_ rfl rfl
      omega

/-- There is a line for each multiple of its length within the text. -/
theorem lt_length_chunks_iff (i : Nat) :
    i < (chunks size fuel cs).length ↔ size * i < cs.length := by
  rw [← isSome_getElem? (chunks size fuel cs) i, getElem?_chunks hsize hfuel]
  split <;> simp_all

/-- Every line but the last is full. -/
theorem length_of_mem_dropLast_chunks {line : List Char}
    (h : line ∈ (chunks size fuel cs).dropLast) : line.length = size := by
  obtain ⟨i, hi⟩ := List.mem_iff_getElem?.mp h
  rw [List.getElem?_dropLast] at hi
  split at hi
  next hlt =>
    -- Another line follows, so the text goes on behind this one.
    have hnext := (lt_length_chunks_iff hsize hfuel (i + 1)).mp (by omega)
    rw [Nat.mul_succ] at hnext
    rw [getElem?_chunks hsize hfuel, if_pos (by omega)] at hi
    rw [← Option.some.inj hi, List.length_take, List.length_drop]
    omega
  next => contradiction

/-- No line is empty or longer than a full one. -/
theorem length_of_mem_chunks {line : List Char} (h : line ∈ chunks size fuel cs) :
    1 ≤ line.length ∧ line.length ≤ size := by
  obtain ⟨i, hi⟩ := List.mem_iff_getElem?.mp h
  rw [getElem?_chunks hsize hfuel] at hi
  split at hi
  next hlt =>
    rw [← Option.some.inj hi, List.length_take, List.length_drop]
    omega
  next => contradiction

/-- With enough fuel, a text is cut at every multiple of the length. -/
theorem isCutAt_chunks : IsCutAt size cs (chunks size fuel cs) where
  flatten := chunks_flatten size fuel cs
  full := fun _ => length_of_mem_dropLast_chunks hsize hfuel
  sized := fun _ => length_of_mem_chunks hsize hfuel
  window := getElem?_chunks hsize hfuel

end Chunks

/-- A row of lines behind another one stands behind one more mark. -/
theorem intercalate_append {mark : List Char} {lines others : List (List Char)}
    (hlines : lines ≠ []) (hothers : others ≠ []) :
    mark.intercalate (lines ++ others) =
      mark.intercalate lines ++ mark ++ mark.intercalate others := by
  induction lines with
  | nil => contradiction
  | cons line rest ih =>
    cases rest with
    | nil => rw [List.singleton_append, List.intercalate_cons_of_ne_nil hothers,
        List.intercalate_singleton]
    | cons next rest =>
      rw [List.cons_append, List.intercalate_cons_of_ne_nil (by simp), ih (by simp),
        List.intercalate_cons_cons]
      simp only [List.append_assoc]

/-- The body of a key is the base64 of the key's octets, cut at the length of a line. -/
theorem isCutAt_bodyLines (key : RsaKey) :
    IsCutAt lineLength (Base64.encode (SubjectPublicKey.octets key)) (bodyLines key) := by
  rw [bodyLines]
  exact isCutAt_chunks (by decide) (Nat.le_refl _)

/-- The body of a key has a line. -/
theorem bodyLines_ne_nil (key : RsaKey) : bodyLines key ≠ [] := by
  intro hnil
  have hlength := Base64.encode_length (SubjectPublicKey.octets key)
  rw [← (isCutAt_bodyLines key).flatten, hnil, List.flatten_nil, List.length_nil] at hlength
  have hoctets := List.length_pos_iff.mpr (SubjectPublicKey.written_keyElement key).octets_ne_nil
  rw [SubjectPublicKey.octets_keyElement] at hoctets
  omega

/-- The lines of a written block: the begin marker, the body, the end marker, and nothing behind
the final line end. -/
def writtenLines (key : RsaKey) : List (List Char) :=
  beginMarker.toList :: bodyLines key ++ [endMarker.toList, []]

/-- A block is written line by line. -/
theorem toList_write (key : RsaKey) :
    (write key).toList = List.intercalate ['\n'] (writtenLines key) := by
  have hmark : "\n".toList = ['\n'] := by decide
  have hlines : ((bodyLines key).map String.ofList).map String.toList = bodyLines key := by
    simp only [List.map_map, Function.comp_def, String.toList_ofList, List.map_id']
  have hbehind : List.intercalate ['\n'] [endMarker.toList, []] = endMarker.toList ++ ['\n'] := by
    rw [List.intercalate_cons_cons, List.intercalate_singleton, List.append_nil]
  rw [writtenLines, intercalate_append (by simp) (by simp), hbehind,
    List.intercalate_cons_of_ne_nil (bodyLines_ne_nil key), write]
  simp only [String.toList_append, String.toList_intercalate, hlines, hmark, List.append_assoc]

/-- No line of a block holds a line end. -/
theorem newline_not_mem_of_mem_writtenLines {key : RsaKey} {line : List Char}
    (h : line ∈ writtenLines key) : '\n' ∉ line := by
  have hmarkers : ∀ line ∈ [beginMarker.toList, endMarker.toList, []], '\n' ∉ line := by decide
  simp only [writtenLines, List.cons_append, List.mem_cons, List.mem_append, List.not_mem_nil,
    or_false] at h
  rcases h with rfl | hbody | rfl | rfl
  · exact hmarkers _ (by simp)
  · intro hmem
    refine Base64.newline_not_mem_encode (SubjectPublicKey.octets key) ?_
    rw [← (isCutAt_bodyLines key).flatten]
    exact List.mem_flatten.mpr ⟨line, hbody, hmem⟩
  · exact hmarkers _ (by simp)
  · exact hmarkers _ (by simp)

/-- The lines of a written block are those it was written from. -/
theorem splitOn_write (key : RsaKey) :
    (write key).toList.splitOn '\n' = writtenLines key := by
  rw [toList_write]
  exact List.splitOn_intercalate '\n' (fun _ h => newline_not_mem_of_mem_writtenLines h)
    (by simp [writtenLines])

/-- The block of a key is the begin marker, at least one body line and the end marker, each on a
line of its own, and a final line end. The body lines are the base64 of the key's octets cut at
every 64th character: all but the last are full, the last is not empty, and together they are
that base64, characters of the alphabet with at most two padding characters at the very end. The
octets are an element that names the RSA algorithm beside the bits of the bare pair of numbers,
and they are read as the key. -/
theorem layout_laws (key : RsaKey) :
    ∃ body : List (List Char),
      (write key).toList.splitOn '\n' = beginMarker.toList :: body ++ [endMarker.toList, []] ∧
      body ≠ [] ∧ IsCutAt 64 (Base64.encode (SubjectPublicKey.octets key)) body ∧
      (∃ core count, body.flatten = core ++ List.replicate count '=' ∧ count ≤ 2 ∧
        ∀ c ∈ core, c ∈ Base64.alphabet.toList) ∧
      Base64.decode body.flatten = .ok (SubjectPublicKey.octets key) ∧
      (Der.single? (SubjectPublicKey.octets key)).bind SubjectPublicKey.ofElement? =
        some ⟨⟨Algorithm.rsaArcs, some (Der.Element.around Der.Tag.null [])⟩,
          ⟨0, SubjectPublicKey.pairOctets key⟩⟩ ∧
      SubjectPublicKey.read (SubjectPublicKey.octets key) = .ok key := by
  have hcut : IsCutAt 64 _ _ := isCutAt_bodyLines key
  have hsingle := (SubjectPublicKey.written_keyElement key).single?
  rw [SubjectPublicKey.octets_keyElement] at hsingle
  refine ⟨bodyLines key, splitOn_write key, bodyLines_ne_nil key, hcut, ?_, ?_, ?_,
    SubjectPublicKey.read_octets key⟩
  · rw [hcut.flatten]
    exact Base64.exists_encode_eq_append_padding _
  · rw [hcut.flatten, Base64.decode_encode]
  · rw [hsingle, Option.bind_some, SubjectPublicKey.ofElement?_keyElement]

end KeyBlock

end InstanceLink
