import InstanceLink.Text.Hex
import InstanceLink.Text.Printable

/-!
# Quoted texts

The writing of a text inside a message: between single quotes, or between double
quotes when it holds single ones only. The quote in use and the backslash are
escaped, so are line ends, tabulation and every character that is not printable.
Bytes are written the same way behind a `b`, with all but plain ASCII escaped.
-/

namespace InstanceLink.Text

/-- The quote for a text: double only when it holds single quotes and no
double one. -/
def quoteFor (cs : List Char) : Char :=
  if cs.contains '\'' && !cs.contains '"' then '"' else '\''

/-- The escape of a character that is not shown as it is. -/
def escapeCode (n : Nat) : List Char :=
  if n < 0x100 then '\\' :: 'x' :: hexPadded 2 n
  else if n < 0x10000 then '\\' :: 'u' :: hexPadded 4 n
  else '\\' :: 'U' :: hexPadded 8 n

/-- One character inside quotes, with the shared short escapes. -/
def quotedChar (quote : Char) (shown : Char → Bool) (c : Char) : List Char :=
  if c = quote || c = '\\' then ['\\', c]
  else if c = '\n' then ['\\', 'n']
  else if c = '\r' then ['\\', 'r']
  else if c = '\t' then ['\\', 't']
  else if shown c then [c]
  else escapeCode c.toNat

/-- A text between quotes. -/
def quoted (s : String) : String :=
  let quote := quoteFor s.toList
  String.ofList (quote :: s.toList.flatMap (quotedChar quote isPrintable) ++ [quote])

/-- Bytes between quotes, behind a `b`. -/
def quotedBytes (bytes : List UInt8) : String :=
  let cs := bytes.map fun b => Char.ofNat b.toNat
  let quote := quoteFor cs
  let shown : Char → Bool := fun c => 32 ≤ c.toNat && c.toNat < 127
  String.ofList ('b' :: quote :: cs.flatMap (quotedChar quote shown) ++ [quote])

/-- A text that needs no escape stands between single quotes unchanged. -/
theorem quoted_plain {s : String} (h : ∀ c ∈ s.toList, quotedChar '\'' isPrintable c = [c])
    (single : s.toList.contains '\'' = false) :
    quoted s = String.ofList ('\'' :: s.toList ++ ['\'']) := by
  have flat : ∀ cs : List Char, (∀ c ∈ cs, quotedChar '\'' isPrintable c = [c]) →
      cs.flatMap (quotedChar '\'' isPrintable) = cs := by
    intro cs
    induction cs with
    | nil => intro _; rfl
    | cons c cs ih =>
      intro h
      rw [List.flatMap_cons, h c (by simp), ih fun d hd => h d (by simp [hd])]
      rfl
  simp only [quoted, quoteFor, single, Bool.false_and, Bool.false_eq_true, if_false]
  rw [flat _ h]

end InstanceLink.Text
