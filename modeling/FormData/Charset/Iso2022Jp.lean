import FormData.Charset.MultiOctet
import FormData.Charset.Reference

/-!
# ISO-2022-JP

A character set that switches between three alphabets by escape sequences.

The text begins in ASCII. A kanji or kana is two octets in the double-octet
alphabet, and the yen sign and the overline are single octets in the Roman
alphabet, where they take the places of the backslash and the tilde. Which
characters the double-octet alphabet has is given by a list. An escape sequence
is written only when the alphabet changes, so what a character costs depends on
what stood in front of it, and encoding carries the current alphabet along. The
text ends in ASCII again.

Three controls would be taken for escapes by a reader and are never let
through: each is written as a reference to the replacement character. A
reference is ASCII, and so is legal in the Roman alphabet too, where it is
written without a switch; in the double-octet alphabet it is not, and the
text returns to ASCII first.

## Main definitions

* `Iso2022Jp.Alphabet`: The three alphabets.
* `Iso2022Jp.write`: Writing one character.
* `Iso2022Jp.encode`: Writing a text.
-/

namespace FormData

namespace Iso2022Jp

/-- The alphabet a stretch of text is written in. -/
inductive Alphabet where
  | ascii
  | roman
  | double
  deriving Repr, DecidableEq

/-- The sequence that switches to an alphabet. -/
def Alphabet.escape : Alphabet → Bytes
  | .ascii => [0x1B, 0x28, 0x42]
  | .roman => [0x1B, 0x28, 0x4A]
  | .double => [0x1B, 0x24, 0x42]

/-- What to write in order to get from one alphabet to another. -/
def Alphabet.switch (current wanted : Alphabet) : Bytes :=
  if current = wanted then [] else wanted.escape

/-- What writing one character amounts to. -/
structure Written where
  bytes : Bytes
  /-- The alphabet the text is in afterwards. -/
  alphabet : Alphabet
  /-- Whether a reference had to stand in for the character. -/
  unmappable : Bool
  deriving Repr, DecidableEq

/-- Whether a reader would take this control for part of an escape. -/
def isShiftControl (c : Char) : Bool :=
  c.toNat == 0x0E || c.toNat == 0x0F || c.toNat == 0x1B

/-- Write a reference in the current alphabet, or in ASCII if the current one
    has no room for it. -/
def writeReference (current : Alphabet) (codePoint : Nat) : Written :=
  let wanted := if current = .roman then .roman else .ascii
  { bytes := current.switch wanted ++ characterReference codePoint
    alphabet := wanted
    unmappable := true }

/-- Write octets in an alphabet. -/
def writeIn (current wanted : Alphabet) (bytes : Bytes) : Written :=
  { bytes := current.switch wanted ++ bytes, alphabet := wanted, unmappable := false }

/-- Write one character, given the characters of the double-octet alphabet with
    their codes. An ASCII character stays in the Roman alphabet when it stands
    there too. -/
def write (codes : List (Char × Nat)) (current : Alphabet) (c : Char) : Written :=
  if isShiftControl c then writeReference current 0xFFFD
  else if c.toNat < 128 then
    let wanted := if current = .roman ∧ c ≠ '\\' ∧ c ≠ '~' then .roman else .ascii
    writeIn current wanted [UInt8.ofNat c.toNat]
  else if c = '¥' then writeIn current .roman [0x5C]
  else if c = '‾' then writeIn current .roman [0x7E]
  else match codes.lookup c with
    | some code => writeIn current .double (MultiOctet.octets code)
    | none => writeReference current c.toNat

/-- Write the rest of a text, given the alphabet it is in. -/
def encodeFrom (codes : List (Char × Nat)) : Alphabet → List Char → Bytes × Bool
  | current, [] => (current.switch .ascii, false)
  | current, c :: rest =>
    let written := write codes current c
    let (bytes, unmappable) := encodeFrom codes written.alphabet rest
    (written.bytes ++ bytes, written.unmappable || unmappable)

/-- Write a text, and tell whether a reference stands in for any of it. -/
def encode (codes : List (Char × Nat)) (text : List Char) : Bytes × Bool :=
  encodeFrom codes .ascii text

end Iso2022Jp

end FormData
