/-!
# Texts as bytes

Byte sequences are lists of bytes, ordered lexicographically. A text is the sequence of its UTF-8
encoding; not every sequence is a text.

Any sequence can be shown as text. What is valid UTF-8 is shown as it reads; each longest beginning
of a character that does not go on as one, and each byte that begins none, is shown as the
replacement character.
-/

namespace EdgeGateway

/-- A sequence of bytes. -/
abbrev Bytes := List UInt8

namespace Bytes

/-- The UTF-8 encoding of a text. -/
def ofText (text : String) : Bytes := text.toUTF8.data.toList

/-- The text that a sequence encodes, if it is valid UTF-8. -/
def text? (bytes : Bytes) : Option String := String.fromUTF8? ⟨bytes.toArray⟩

/-- Reading back what a text encodes gives the text. -/
@[simp] theorem text?_ofText (text : String) : text? (ofText text) = some text := by
  have same : (⟨(ofText text).toArray⟩ : ByteArray) = text.toByteArray := by
    simp [ofText, String.toUTF8]
  rw [text?, same, String.fromUTF8?, dif_pos text.isValidUTF8]
  rfl

/-! ## Bytes shown as text -/

/-- Stands for bytes that are no text. -/
def replacement : Char := '\uFFFD'

/-- A character whose first bytes have been read. -/
structure Begun where
  /-- The bits read so far. -/
  bits : Nat
  /-- How many bytes are still to come. -/
  missing : Nat
  /-- The least byte that may come next. -/
  least : Nat := 0x80
  /-- The greatest byte that may come next. -/
  greatest : Nat := 0xBF

/-- What a first byte of several begins. Overlong forms, surrogates and codes above U+10FFFF are
ruled out by the second byte. -/
def begin? (byte : Nat) : Option Begun :=
  if 0xC2 ≤ byte ∧ byte ≤ 0xDF then some { bits := byte - 0xC0, missing := 1 }
  else if byte = 0xE0 then some { bits := 0, missing := 2, least := 0xA0 }
  else if byte = 0xED then some { bits := 0xD, missing := 2, greatest := 0x9F }
  else if 0xE1 ≤ byte ∧ byte ≤ 0xEF then some { bits := byte - 0xE0, missing := 2 }
  else if byte = 0xF0 then some { bits := 0, missing := 3, least := 0x90 }
  else if 0xF1 ≤ byte ∧ byte ≤ 0xF3 then some { bits := byte - 0xF0, missing := 3 }
  else if byte = 0xF4 then some { bits := 4, missing := 3, greatest := 0x8F }
  else none

/-- Reads a byte between characters: the characters shown for it, and the character it begins. -/
def readFirst (byte : Nat) : List Char × Option Begun :=
  if byte < 0x80 then ([Char.ofNat byte], none)
  else
    match begin? byte with
    | some begun => ([], some begun)
    | none => ([replacement], none)

/-- Reads the next byte. -/
def readNext (begun : Option Begun) (byte : Nat) : List Char × Option Begun :=
  match begun with
  | none => readFirst byte
  | some begun =>
    if begun.least ≤ byte ∧ byte ≤ begun.greatest then
      let bits := begun.bits * 0x40 + (byte - 0x80)
      if begun.missing = 1 then ([Char.ofNat bits], none)
      else ([], some { bits, missing := begun.missing - 1 })
    else
      let (shown, begun) := readFirst byte
      (replacement :: shown, begun)

/-- The characters shown for some bytes, behind the beginning of a character. -/
def shownBehind (begun : Option Begun) : Bytes → List Char
  | [] => if begun.isSome then [replacement] else []
  | byte :: bytes =>
    let (shown, begun) := readNext begun byte.toNat
    shown ++ shownBehind begun bytes

/-- Bytes shown as text. -/
def shown (bytes : Bytes) : String := String.ofList (shownBehind none bytes)

end Bytes

end EdgeGateway
