import BeamLint.Text.Blank

/-!
# Contents of sources

A source holds a text or bytes. Bytes have to be UTF-8 in its strict form; the replacement
character in them is the trace of an earlier lossy decoding, and they are refused as well. A source
with nothing but blanks holds no text to check.
-/

namespace BeamLint

/-- What a source holds. -/
inductive Content where
  | text (s : String)
  | bytes (b : ByteArray)

/-- The character that stands for what could not be decoded. -/
def replacementChar : Char := Char.ofNat 0xFFFD

/-- The text that bytes encode, unless it shows an earlier lossy decoding. -/
def decodeBytes (b : ByteArray) : Option String :=
  (String.fromUTF8? b).filter fun s => !s.toList.contains replacementChar

/-- The text to check. -/
def Content.decode (c : Content) : Option String :=
  let text? :=
    match c with
    | .text s => some s
    | .bytes b => decodeBytes b
  text?.filter fun s => !Text.isAllBlank s.toList

/-- A source: a path and what is found there. -/
structure Source where
  path : String
  content : Content

end BeamLint
