import FormData.Text.Quoted

/-!
# Boundaries

The token that frames a form body, and the lines derived from it.

A body is a sequence of parts between delimiter lines, and every delimiter
line is built from one token. A token is acceptable when it is between one and
seventy characters from a small set and does not end with a space; `flaw?`
says what is wrong with any other. It looks for one fault at a time, in a
fixed order, so a token with several faults is always refused for the same
one. Length is counted in octets, which agrees with counting characters on
every token that could be accepted, and for the others decides which fault is
reported.

A `Boundary` carries the fact that its token has no flaw. Everything that
frames a body can then rely on the token being free of line endings, and no
later definition has to say what it would do with a bad one.

The four lines share a middle, the token behind two dashes (`mark`). The first
delimiter of a body has no line ending in front of it and the last has two
more dashes behind it; a body with no parts has one line that is both.

The content type announces the token. It is written bare where the header
grammar allows, and between double quotes otherwise; none of the characters a
token may hold has to be escaped there.

## Main definitions

* `TokenFlaw`: What makes a token unacceptable.
* `Boundary.flaw?`: The flaw of a token, if it has one.
* `Boundary`: An acceptable token.
* `Boundary.ofToken?`: Accepting a token or naming its flaw.
* `Boundary.first`, `middle`, `only`, `last`: The four delimiter lines.
* `Boundary.contentType`: The content type of a body framed by the token.

## Theorems

* `Boundary.ofToken?_token`: The token of a boundary is accepted as that
  boundary.
* `Boundary.token_of_ofToken?`: An accepted token is the boundary's token.
-/

namespace FormData

/-- What makes a token unacceptable. -/
inductive TokenFlaw where
  /-- There is no character at all. -/
  | empty
  /-- There are too many octets; their number is kept. -/
  | tooLong (length : Nat)
  /-- The last character is a space. -/
  | trailingSpace
  /-- A character is not one a token may hold; the first such is kept. -/
  | foreign (c : Char)
  /-- A caller refuses the token, in words of its own. -/
  | stated (reason : String)
  deriving Repr, DecidableEq

namespace Boundary

/-- The greatest number of octets in a token. -/
def maxLength : Nat := 70

/-- The characters besides letters and digits that a token may hold. -/
def marks : List Char :=
  ['\'', '(', ')', '+', '_', ',', '-', '.', '/', ':', '=', '?', ' ']

/-- Whether a token may hold this character. -/
def isTokenChar (c : Char) : Bool :=
  c.isAlphanum || marks.contains c

/-- The flaw of a token, if it has one. The first test that fails decides. -/
def flaw? (token : String) : Option TokenFlaw :=
  if token.toList = [] then some .empty
  else if maxLength < (utf8 token).length then some (.tooLong (utf8 token).length)
  else if token.toList.getLast? = some ' ' then some .trailingSpace
  else (token.toList.find? (fun c => !isTokenChar c)).map .foreign

end Boundary

namespace TokenFlaw

/-- The wording of a flaw. -/
def reason : TokenFlaw → String
  | .empty => "token is empty"
  | .tooLong length =>
    "token length " ++ toString length ++ " exceed the limit " ++ toString Boundary.maxLength
  | .trailingSpace => "token ends with a space"
  | .foreign c => "token contains invalid character " ++ Quoted.char c
  | .stated reason => reason

end TokenFlaw

/-- An acceptable token. -/
structure Boundary where
  /-- The token itself, without the dashes of the delimiter lines. -/
  token : String
  /-- The token has no flaw. -/
  sound : Boundary.flaw? token = none
  deriving DecidableEq

namespace Boundary

/-- Accept a token, or name its flaw. -/
def ofToken? (token : String) : Except TokenFlaw Boundary :=
  match h : flaw? token with
  | none => .ok ⟨token, h⟩
  | some flaw => .error flaw

/-- The token behind two dashes, the common part of every delimiter line. -/
def mark (b : Boundary) : Bytes :=
  Bytes.dashes ++ utf8 b.token

/-- The line in front of the first part. -/
def first (b : Boundary) : Bytes :=
  b.mark ++ Bytes.crlf

/-- The line in front of every later part. -/
def middle (b : Boundary) : Bytes :=
  Bytes.crlf ++ b.mark ++ Bytes.crlf

/-- The line that is the whole body when there are no parts. -/
def only (b : Boundary) : Bytes :=
  b.mark ++ Bytes.dashes ++ Bytes.crlf

/-- The line behind the last part. -/
def last (b : Boundary) : Bytes :=
  Bytes.crlf ++ b.mark ++ Bytes.dashes ++ Bytes.crlf

/-- The characters besides letters and digits that a parameter value may hold
    without being quoted. -/
def bareMarks : List Char :=
  ['\'', '+', '_', '-', '.']

/-- Whether a parameter value may hold this character without being quoted. -/
def isBareChar (c : Char) : Bool :=
  c.isAlphanum || bareMarks.contains c

/-- Whether the token is announced without quotes. -/
def isBare (b : Boundary) : Bool :=
  b.token.toList.all isBareChar

/-- The content type of a body framed by this token. -/
def contentType (b : Boundary) : String :=
  "multipart/form-data; boundary="
    ++ (if b.isBare then b.token else "\"" ++ b.token ++ "\"")

/-- A boundary as it is shown in messages: its token and its lines. -/
def describe (b : Boundary) : String :=
  "Boundary \x7b token: " ++ Quoted.text b.token
    ++ ", first: " ++ Quoted.octets b.first
    ++ ", middle: " ++ Quoted.octets b.middle
    ++ ", only: " ++ Quoted.octets b.only
    ++ ", last: " ++ Quoted.octets b.last
    ++ " \x7d"

/-- Acceptance depends on nothing but the flaw. -/
theorem ofToken?_of_flaw?_eq_none {token : String} (h : flaw? token = none) :
    ofToken? token = .ok ⟨token, h⟩ := by
  unfold ofToken?
  split
  · rfl
  · rename_i hsome
    rw [h] at hsome
    exact absurd hsome (by simp only [reduceCtorEq, not_false_eq_true])

/-- The token of a boundary is accepted as that boundary. -/
theorem ofToken?_token (b : Boundary) : ofToken? b.token = .ok b :=
  ofToken?_of_flaw?_eq_none b.sound

/-- An accepted token is the token of the boundary it gives. -/
theorem token_of_ofToken? {token : String} {b : Boundary} (h : ofToken? token = .ok b) :
    b.token = token := by
  unfold ofToken? at h
  split at h
  · injection h with h
    rw [← h]
  · exact absurd h (by simp only [reduceCtorEq, not_false_eq_true])

end Boundary

end FormData
