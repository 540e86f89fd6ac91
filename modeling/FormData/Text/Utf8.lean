import FormData.Bytes

/-!
# Unicode Text as Octets

Writing text in UTF-8, and reading octets that may or may not be UTF-8.

Field names, file names and text values are `String`s and reach the wire as
UTF-8, so `utf8` is used everywhere. It is phrased over the list of
characters rather than over the string's own storage: appending two texts
then appends their octets by a lemma on `flatMap`, and no statement has to
look at how a string is kept.

Paths go the other way. A path is octets, and its name has to be shown even
if those octets are not text. `pieces` splits octets into the scalars they
encode and the stray runs in between. Where a sequence breaks off, the octets
that could have begun a scalar form one stray run and reading starts again at
the octet that broke it, so each damaged character counts once. The ranges
allowed for a second octet rule out overlong forms, surrogates and numbers
beyond the last scalar, so every completed sequence is a scalar.

The reader takes one octet at a time (`Reader.feed`), which makes `pieces` a
recursion on the list and leaves no index to keep in range.

## Main definitions

* `utf8`: The octets of a text.
* `Utf8.Piece`: A scalar, or octets that encode none.
* `Utf8.pieces`: Splitting octets into scalars and stray runs.
* `Utf8.lossy`: Reading octets as text, with a replacement for each stray run.

## Theorems

* `utf8_append`: The octets of joined texts are the joined octets.
-/

namespace FormData

/-- The octets of a text. -/
def utf8 (text : String) : Bytes :=
  text.toList.flatMap String.utf8EncodeChar

theorem utf8_append (left right : String) : utf8 (left ++ right) = utf8 left ++ utf8 right := by
  simp only [utf8, String.toList_append, List.flatMap_append]

namespace Utf8

/-- What a stretch of octets amounts to: one scalar, or a run of octets that
    encodes none. -/
inductive Piece where
  | scalar (c : Char)
  | stray (bytes : Bytes)
  deriving Repr, DecidableEq

/-- A sequence that has begun and is not complete. The next octet has to lie
    between `low` and `high`; only the first continuation is ever held to a
    narrower range than the general one. -/
structure Reader where
  /-- How many octets are still to come. -/
  missing : Nat
  /-- The bits read so far. -/
  value : Nat
  /-- The least octet that may come next. -/
  low : UInt8 := 0x80
  /-- The greatest octet that may come next. -/
  high : UInt8 := 0xBF
  /-- The octets read so far, for the case that the sequence breaks off. -/
  seen : Bytes
  deriving Repr, DecidableEq

namespace Reader

/-- Begin a sequence at its first octet: a complete piece, or a reader
    waiting for the rest. -/
def start (b : UInt8) : List Piece × Option Reader :=
  if b < 0x80 then ([.scalar (Char.ofNat b.toNat)], none)
  else if 0xC2 ≤ b ∧ b ≤ 0xDF then
    ([], some { missing := 1, value := b.toNat % 32, seen := [b] })
  else if b = 0xE0 then
    ([], some { missing := 2, value := 0, low := 0xA0, seen := [b] })
  else if b = 0xED then
    ([], some { missing := 2, value := 13, high := 0x9F, seen := [b] })
  else if 0xE1 ≤ b ∧ b ≤ 0xEF then
    ([], some { missing := 2, value := b.toNat % 16, seen := [b] })
  else if b = 0xF0 then
    ([], some { missing := 3, value := 0, low := 0x90, seen := [b] })
  else if b = 0xF4 then
    ([], some { missing := 3, value := 4, high := 0x8F, seen := [b] })
  else if 0xF1 ≤ b ∧ b ≤ 0xF3 then
    ([], some { missing := 3, value := b.toNat % 8, seen := [b] })
  else ([.stray [b]], none)

/-- Take one more octet. An octet that does not fit ends the sequence as a
    stray run and begins the next one. -/
def feed : Option Reader → UInt8 → List Piece × Option Reader
  | none, b => start b
  | some r, b =>
    if r.low ≤ b ∧ b ≤ r.high then
      let value := r.value * 64 + b.toNat % 64
      if r.missing ≤ 1 then ([.scalar (Char.ofNat value)], none)
      else ([], some { missing := r.missing - 1, value, seen := r.seen ++ [b] })
    else
      (.stray r.seen :: (start b).1, (start b).2)

/-- Read octets to their end. A sequence left incomplete there is stray. -/
def run : Option Reader → Bytes → List Piece
  | none, [] => []
  | some r, [] => [.stray r.seen]
  | reader, b :: rest => (feed reader b).1 ++ run (feed reader b).2 rest

end Reader

/-- The scalars that octets encode, and the stray runs between them. -/
def pieces (bytes : Bytes) : List Piece :=
  Reader.run none bytes

/-- The replacement written for a stray run. -/
def replacement : Char := '\uFFFD'

/-- The character a piece is shown as. -/
def Piece.toChar : Piece → Char
  | .scalar c => c
  | .stray _ => replacement

/-- Read octets as text, each stray run becoming one replacement character. -/
def lossy (bytes : Bytes) : String :=
  String.ofList ((pieces bytes).map Piece.toChar)

end Utf8

end FormData
