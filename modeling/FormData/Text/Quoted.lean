import FormData.Text.Printable
import FormData.Text.Utf8

/-!
# Quoted Text in Messages

How a name, a path or a delimiter line is spelled inside a message.

Messages name things a caller chose, and those names can hold anything: line
endings, quotes, octets that are not text. A quoted spelling keeps a message
on one line and keeps what was quoted recoverable. A character that would end
the quotation or begin an escape is written behind a backslash, the common
controls by letter, every other unprintable character by its number in braces
(`Printable.isPrintable`), and the rest as they are.

Three kinds of thing are quoted, and they differ only at the edges. Text and
paths stand between double quotes and leave the apostrophe alone; a single
character stands between apostrophes and leaves the double quote alone. A
path may hold octets that are no text, each written as two upper-case
hexadecimal digits. A delimiter line is octets throughout and keeps to ASCII,
its digits lower-case.

## Main definitions

* `Quoted.text`: A text between double quotes.
* `Quoted.char`: A single character between apostrophes.
* `Quoted.path`: The octets of a path between double quotes.
* `Quoted.octets`: A line of octets, marked as such.
-/

namespace FormData

namespace Quoted

/-- Two hexadecimal digits for an octet, from the given digits. -/
def hexPair (digits : Nat → Char) (b : UInt8) : List Char :=
  [digits (b.toNat / 16), digits (b.toNat % 16)]

/-- The lower-case hexadecimal digit of a number below sixteen. -/
def lowerDigit (n : Nat) : Char :=
  if n < 10 then Char.ofNat (48 + n) else Char.ofNat (87 + n)

/-- The upper-case hexadecimal digit of a number below sixteen. -/
def upperDigit (n : Nat) : Char :=
  if n < 10 then Char.ofNat (48 + n) else Char.ofNat (55 + n)

/-- A character spelled by its number, in braces and without padding. -/
def byNumber (c : Char) : List Char :=
  ['\\', 'u', '\x7b'] ++ Nat.toDigits 16 c.toNat ++ ['\x7d']

/-- One character inside a quotation that the character `mark` encloses. -/
def spell (mark c : Char) : List Char :=
  if c = '\x00' then ['\\', '0']
  else if c = '\t' then ['\\', 't']
  else if c = '\r' then ['\\', 'r']
  else if c = '\n' then ['\\', 'n']
  else if c = '\\' ∨ c = mark then ['\\', c]
  else if Printable.isPrintable c then [c]
  else byNumber c

/-- Put the enclosing mark on both sides. -/
def enclose (mark : Char) (inner : List Char) : String :=
  String.ofList (mark :: inner ++ [mark])

/-- A text between double quotes. -/
def text (s : String) : String :=
  enclose '"' (s.toList.flatMap (spell '"'))

/-- A single character between apostrophes. -/
def char (c : Char) : String :=
  enclose '\'' (spell '\'' c)

/-- One piece of a path: a character as in a text, an octet that is no text
    by its two upper-case digits. -/
def spellPiece : Utf8.Piece → List Char
  | .scalar c => spell '"' c
  | .stray bytes => bytes.flatMap (fun b => ['\\', 'x'] ++ hexPair upperDigit b)

/-- The octets of a path between double quotes. -/
def path (bytes : Bytes) : String :=
  enclose '"' ((Utf8.pieces bytes).flatMap spellPiece)

/-- One octet of a delimiter line. -/
def spellOctet (b : UInt8) : List Char :=
  if b = 10 then ['\\', 'n']
  else if b = 13 then ['\\', 'r']
  else if b = 9 then ['\\', 't']
  else if b = 92 ∨ b = 34 then ['\\', Char.ofNat b.toNat]
  else if b = 0 then ['\\', '0']
  else if 32 ≤ b ∧ b ≤ 126 then [Char.ofNat b.toNat]
  else ['\\', 'x'] ++ hexPair lowerDigit b

/-- A line of octets between double quotes, with the letter that tells it
    from a text in front. -/
def octets (bytes : Bytes) : String :=
  "b" ++ enclose '"' (bytes.flatMap spellOctet)

end Quoted

end FormData
