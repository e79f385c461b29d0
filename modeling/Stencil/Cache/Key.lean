import Stencil.Digest.Sha256
import Stencil.Json.Printer
import Stencil.Error

/-! Keys of cached renders: a namespace, the name of the template, and the fingerprint of what it was
rendered from. -/
namespace Stencil.Cache

/-- Characters that keys keep. -/
def isKeyChar (c : Char) : Bool := c.isAlphanum || c == '_' || c == '.' || c == '-'

/-- A text with an underscore for every character that keys do not keep. -/
def sanitize (s : List Char) : List Char := s.map fun c => if isKeyChar c then c else '_'

/-- The bytes that a fingerprint is taken of: the context as JSON in its own order and, after a zero
byte, the salt if there is one. -/
def fingerprintBytes (context : Value) (salt : List Char) : List UInt8 :=
  Text.Utf8.encode (Json.line context) ++ if salt = [] then [] else 0 :: Text.Utf8.encode salt

/-- The fingerprint of a context. -/
def fingerprint (context : Value) (salt : String) : Except Error String :=
  match Json.fault? context with
  | some fault => .error (.ofWriteFault true fault)
  | none => .ok (String.ofList (Digest.hexText (Digest.sha256 (fingerprintBytes context salt.toList))))

/-- What the keys of all renders of a template begin with. -/
def templatePrefix (space template : String) : String :=
  String.ofList (sanitize (space.toList ++ '_' :: template.toList ++ ['_']))

/-- The key of one render. -/
def renderKey (space template fingerprint : String) : String :=
  String.ofList (sanitize (space.toList ++ '_' :: template.toList ++ '_' :: fingerprint.toList))

@[simp] theorem sanitize_append (s t : List Char) : sanitize (s ++ t) = sanitize s ++ sanitize t := by
  simp [sanitize]

@[simp] theorem length_sanitize (s : List Char) : (sanitize s).length = s.length := by
  simp [sanitize]

theorem isKeyChar_of_mem_sanitize {s : List Char} {c : Char} (h : c ∈ sanitize s) :
    isKeyChar c = true := by
  obtain ⟨d, _, rfl⟩ := List.mem_map.mp h
  by_cases hd : isKeyChar d = true
  · rw [if_pos hd]; exact hd
  · rw [if_neg hd]; decide

end Stencil.Cache
