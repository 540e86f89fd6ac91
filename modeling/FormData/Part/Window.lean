import FormData.Event
import FormData.Fault

/-!
# File Windows

Reading a file in consecutive stretches of bounded size.

A file may be larger than can be mapped at once, so its content is taken in
windows, each of at most a given number of octets. Which windows there are
depends on the size and the limit alone (`Window.plan`); reading them is a
second step (`Window.readAll`), which takes the operation that maps a stretch
as an argument. It reads in order and stops at the first stretch that cannot
be mapped, so a failure names the first bad offset and nothing behind it is
touched. An empty file has no windows.

The limit is positive, which is why the plan ends: every window takes
something off what is left.

## Main definitions

* `Window`: A stretch of a file.
* `Window.plan`: The windows of a file of a given size.
* `Window.readAll`: The content of each window, or the first failure.
* `Window.slice`: Mapping a stretch of content that is at hand.
-/

namespace FormData

/-- A stretch of a file. -/
structure Window where
  offset : Nat
  length : Nat
  deriving Repr, DecidableEq

namespace Window

/-- The windows from an offset to the end of a file. -/
def plan (limit : Nat) (positive : 0 < limit) (size offset : Nat) : List Window :=
  if offset < size then
    { offset, length := min (size - offset) limit }
      :: plan limit positive size (offset + min (size - offset) limit)
  else []
termination_by size - offset

/-- Map a stretch of content that is at hand. -/
def slice (data : Bytes) (offset length : Nat) : Except IoFault Bytes :=
  .ok ((data.drop offset).take length)

/-- Read windows in order, reporting each one, until one cannot be mapped. -/
def readAll (path : Bytes) (mapping : Nat → Nat → Except IoFault Bytes) :
    List Window → Traced (Except Fault (List Bytes))
  | [] => { result := .ok [] }
  | window :: rest =>
    match mapping window.offset window.length with
    | .error cause => { result := .error (.cannotMap path window.offset cause) }
    | .ok bytes =>
      let read := readAll path mapping rest
      { result := read.result.map (bytes :: ·)
        events := .mappedWindow path window.offset window.length :: read.events }

end Window

end FormData
