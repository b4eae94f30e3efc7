import InstanceLink.Base64.Reader
import InstanceLink.Key.SubjectPublicKey
import InstanceLink.Text.Blank

/-!
# Public keys as text blocks

The text block in which a public key travels: a begin marker, base64 lines of 64
characters, an end marker. Reading takes the same markers around any layout of
the body, since blanks inside it do not count.
-/

namespace InstanceLink.KeyBlock

/-- The marker before the body. -/
def beginMarker : String := "-----BEGIN RSA PUBLIC KEY-----"

/-- The marker behind the body. -/
def endMarker : String := "-----END RSA PUBLIC KEY-----"

/-- The length of a full body line. -/
def lineLength : Nat := 64

/-- Characters cut into lines of the given length; only the last may be shorter. -/
def chunks (size fuel : Nat) (cs : List Char) : List (List Char) :=
  match fuel, cs with
  | _, [] => []
  | 0, cs => [cs]
  | fuel + 1, cs => cs.take size :: chunks size fuel (cs.drop size)

/-- Nothing is lost or moved by cutting into lines. -/
theorem chunks_flatten (size fuel : Nat) (cs : List Char) :
    (chunks size fuel cs).flatten = cs := by
  fun_induction chunks size fuel cs with
  | case1 => rfl
  | case2 => simp
  | case3 fuel cs _ ih => simp [ih]

/-- The body lines of a key. -/
def bodyLines (key : RsaKey) : List (List Char) :=
  let body := Base64.encode (SubjectPublicKey.octets key)
  chunks lineLength body.length body

/-- The text block of a key, with a final line end. -/
def write (key : RsaKey) : String :=
  beginMarker ++ "\n" ++ "\n".intercalate ((bodyLines key).map String.ofList) ++ "\n" ++
    endMarker ++ "\n"

/-- Why a text is no block of an RSA key. -/
inductive Refusal where
  /-- A marker is missing. -/
  | noBlock
  /-- The body holds characters beyond ASCII. -/
  | foreignText
  /-- The body is not base64. -/
  | base64 (cause : Base64.Refusal)
  /-- The bytes are no RSA key. -/
  | key (cause : SubjectPublicKey.Refusal)
  deriving DecidableEq, Repr

/-- The wording for a key of another kind that is none of that kind. -/
def kindMessage : KeyKind.Refusal → String
  | .malformed => "Could not deserialize key data."
  | .layout => "Invalid key"
  | .writtenCurve => "ECC keys with explicit parameters are unsupported at this time"
  | .unknownCurve arcs => "Curve " ++ Der.dotted arcs ++ " is not supported"
  | .infinity => "Cannot load an EC public key where the point is at infinity"
  | .group => "Invalid DH parameters"

/-- The wording of a refusal. -/
def Refusal.message : Refusal → String
  | .noBlock => "expected an RSA PUBLIC KEY PEM block"
  | .foreignText => "string argument should contain only ASCII characters"
  | .base64 cause => "invalid base64 in public key PEM: " ++ cause.message
  | .key .malformed => "Could not deserialize key data."
  | .key (.unknownAlgorithm arcs) => "Unknown key type: " ++ Der.dotted arcs
  | .key .looseBits => "Invalid key"
  | .key (.kind cause) => kindMessage cause
  | .key .foreignKey => "expected RSA public key"
  | .key (.numbers cause) => cause.message

/-- The body between the markers of a trimmed text. Markers that overlap leave an
empty body. -/
def body? (s : String) : Option String :=
  let cs := (Text.strip s).toList
  let first := beginMarker.toList
  let last := endMarker.toList
  if first.isPrefixOf cs && last.isSuffixOf cs then
    some (String.ofList ((cs.take (cs.length - last.length)).drop first.length))
  else none

/-- The key of a text block. -/
def read (s : String) : Except Refusal RsaKey := do
  match body? s with
  | none => .error .noBlock
  | some body =>
    let data := (Text.withoutBlanks body).toList
    if data.any fun c => 128 ≤ c.toNat then .error .foreignText
    let bytes ← (Base64.decode data).mapError .base64
    (SubjectPublicKey.read bytes).mapError .key

end InstanceLink.KeyBlock
