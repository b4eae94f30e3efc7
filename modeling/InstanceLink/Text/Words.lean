import InstanceLink.Text.Blank

/-!
# Words

A text as its words: the runs of characters between blanks.
-/

namespace InstanceLink.Text

/-- The words of a text behind the part of one that was read already. -/
def wordsFrom (word : List Char) : List Char → List (List Char)
  | [] => if word.isEmpty then [] else [word.reverse]
  | c :: rest =>
    if isBlank c then
      if word.isEmpty then wordsFrom [] rest else word.reverse :: wordsFrom [] rest
    else wordsFrom (c :: word) rest

/-- The words of a text. -/
def words (s : String) : List String := (wordsFrom [] s.toList).map String.ofList

/-- No word is empty. -/
theorem ne_nil_of_mem_wordsFrom {word cs w : List Char} (h : w ∈ wordsFrom word cs) : w ≠ [] := by
  induction cs generalizing word with
  | nil =>
    unfold wordsFrom at h
    split at h
    · simp at h
    · next hw =>
      simp only [List.mem_singleton] at h
      subst h
      simpa using hw
  | cons c rest ih =>
    unfold wordsFrom at h
    split at h
    · split at h
      · exact ih h
      · next hw =>
        rcases List.mem_cons.mp h with rfl | h
        · simpa using hw
        · exact ih h
    · exact ih h

end InstanceLink.Text
