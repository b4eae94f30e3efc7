import InstanceLink.Text.Blank
import Mathlib.Data.List.DropRight

/-!
# What trimming removes

Trimming removes blanks at both ends and nothing else: what is left starts and ends with
kept characters, and blanks put around a text are removed again.
-/

namespace InstanceLink.Text

variable {drop : Char → Bool} {cs before behind : List Char}

/-- What is left starts with a kept character. -/
theorem drop_of_head?_dropWhile {c : Char} (h : (cs.dropWhile drop).head? = some c) :
    drop c = false := by
  have hhead := List.head?_dropWhile_not drop cs
  rw [h] at hhead
  exact hhead

/-- A trimmed text ends with a kept character. -/
theorem drop_of_getLast?_trimBy {c : Char} (h : (trimBy drop cs).getLast? = some c) :
    drop c = false := by
  rw [trimBy, List.getLast?_reverse] at h
  exact drop_of_head?_dropWhile h

/-- A trimmed text starts with a kept character. -/
theorem drop_of_head?_trimBy {c : Char} (h : (trimBy drop cs).head? = some c) :
    drop c = false := by
  obtain ⟨rest, hrest⟩ : trimBy drop cs <+: cs.dropWhile drop := by
    have hsuffix := List.dropWhile_suffix (l := (cs.dropWhile drop).reverse) drop
    have hreversed := List.reverse_prefix.mpr hsuffix
    rwa [List.reverse_reverse] at hreversed
  have hhead : (cs.dropWhile drop).head? = some c := by
    rw [← hrest, List.head?_append, h, Option.some_or]
  exact drop_of_head?_dropWhile hhead

/-- Trimming a trimmed text changes nothing. -/
theorem trimBy_trimBy (drop : Char → Bool) (cs : List Char) :
    trimBy drop (trimBy drop cs) = trimBy drop cs :=
  trimBy_eq_self (fun _ h => drop_of_head?_trimBy h) (fun _ h => drop_of_getLast?_trimBy h)

/-- Characters to be removed that stand around a text do not count. -/
theorem trimBy_append_append (hbefore : ∀ c ∈ before, drop c = true)
    (hbehind : ∀ c ∈ behind, drop c = true) :
    trimBy drop (before ++ cs ++ behind) = trimBy drop cs := by
  have hnone : behind.dropWhile drop = [] := by
    rw [← List.append_nil behind, List.dropWhile_append_of_pos hbehind, List.dropWhile_nil]
  have hreverse : ∀ c ∈ behind.reverse, drop c = true := by
    intro c hc
    exact hbehind c (List.mem_reverse.mp hc)
  rw [trimBy, List.append_assoc, List.dropWhile_append_of_pos hbefore, List.dropWhile_append]
  split
  next hempty =>
    rw [trimBy, hnone, List.isEmpty_iff.mp hempty]
  next =>
    rw [List.reverse_append, List.dropWhile_append_of_pos hreverse, trimBy]

/-- Behind a text that starts and ends with kept characters, only the end is trimmed. -/
theorem trimBy_append {front : List Char} (hfirst : ∀ c, front.head? = some c → drop c = false)
    (hlast : ∀ c, front.getLast? = some c → drop c = false) (hnonempty : front ≠ [])
    (cs : List Char) : trimBy drop (front ++ cs) = front ++ cs.rdropWhile drop := by
  have hkept : ∀ {ds : List Char}, ds ≠ [] → (∀ c, ds.head? = some c → drop c = false) →
      ∀ es, (ds ++ es).dropWhile drop = ds ++ es := by
    intro ds hds hhead es
    cases ds with
    | nil => contradiction
    | cons d ds => rw [List.cons_append, List.dropWhile_cons_of_neg (by simp [hhead d rfl])]
  have hend : front.reverse.dropWhile drop = front.reverse := by
    have hwhole := hkept (List.reverse_ne_nil_iff.mpr hnonempty)
      (fun c hc => hlast c (by rwa [List.head?_reverse] at hc)) []
    rwa [List.append_nil] at hwhole
  rw [trimBy, hkept hnonempty hfirst, List.reverse_append, List.dropWhile_append, List.rdropWhile]
  split
  next hempty =>
    rw [hend, List.isEmpty_iff.mp hempty, List.reverse_reverse, List.reverse_nil, List.append_nil]
  next => rw [List.reverse_append, List.reverse_reverse]

/-- A text without the blanks around it has none. -/
theorem strip_strip (s : String) : strip (strip s) = strip s := by
  rw [strip, strip, String.toList_ofList, trimBy_trimBy]

/-- The characters of a text without the blanks around it. -/
theorem toList_strip (s : String) : (strip s).toList = trimBy isBlank s.toList :=
  String.toList_ofList

end InstanceLink.Text
