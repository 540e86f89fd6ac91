/-!
# Octets

What a form body is made of once it leaves the program: plain sequences of
octets.

Everything the library writes ends up here, so the type is the simplest one
that can be reasoned about, a list. Pieces of a body are handed out one at a
time and never joined unless a caller asks, so appending is not on any hot
path, and a list lets a statement about a long body be an induction over the
pieces that made it.

The line ending and the double dash are the two marks the wire format is
built from; they are named so that no module spells them twice.

## Main definitions

* `Bytes`: A sequence of octets.
* `Bytes.crlf`: The line ending, carriage return then line feed.
* `Bytes.dashes`: The two dashes that open and close a delimiter.
* `Bytes.total`: The octets held by a list of pieces.

## Theorems

* `Bytes.total_append`: The totals of two lists of pieces add up.
* `Bytes.length_flatten`: The total is the length of the pieces joined.
-/

namespace FormData

/-- A sequence of octets. -/
abbrev Bytes := List UInt8

namespace Bytes

/-- Carriage return. -/
def cr : UInt8 := 13

/-- Line feed. -/
def lf : UInt8 := 10

/-- The double quote that encloses a parameter value. -/
def quote : UInt8 := 34

/-- The slash that separates the segments of a path. -/
def slash : UInt8 := 47

/-- The line ending. -/
def crlf : Bytes := [cr, lf]

/-- The two dashes in front of a delimiter, and behind the final one. -/
def dashes : Bytes := [45, 45]

/-- How many octets a list of pieces holds. -/
def total : List Bytes → Nat
  | [] => 0
  | piece :: pieces => piece.length + total pieces

@[simp] theorem total_nil : total [] = 0 := rfl

@[simp] theorem total_cons (piece : Bytes) (pieces : List Bytes) :
    total (piece :: pieces) = piece.length + total pieces := rfl

@[simp] theorem total_append (left right : List Bytes) :
    total (left ++ right) = total left + total right := by
  induction left with
  | nil => exact (Nat.zero_add _).symm
  | cons piece rest ih =>
      rw [List.cons_append, total_cons, total_cons, ih, Nat.add_assoc]

/-- Joining the pieces loses nothing and adds nothing. -/
theorem length_flatten (pieces : List Bytes) : pieces.flatten.length = total pieces := by
  induction pieces with
  | nil => rfl
  | cons piece rest ih =>
      rw [List.flatten_cons, List.length_append, ih, total_cons]

end Bytes

end FormData
