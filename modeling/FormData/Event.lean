import FormData.Text.Quoted

/-!
# Trace Events

What the library reports while it works.

An event is kept as data: what happened and to what. Its level, its message
and its fields are read off it, so a statement about when an event occurs is
a statement about a list of values, and the wording stays in one place. The
order of the fields is part of an event's form.

An operation that reports something returns its result together with the
events, in the order in which they occurred (`Traced`).

## Main definitions

* `Event`: Something worth reporting.
* `Event.level`, `message`, `fields`: How an event is reported.
* `Traced`: A result with the events on the way to it.
-/

namespace FormData

/-- Something worth reporting. -/
inductive Event where
  /-- A part was put into a body, whose length afterwards is given. -/
  | addedPart (name : String) (partLength bodyLength : Nat)
  /-- A part was taken out of a body, whose length afterwards is given. -/
  | removedPart (name : String) (partLength bodyLength : Nat)
  /-- A stretch of a file was mapped. -/
  | mappedWindow (path : Bytes) (offset size : Nat)
  /-- A file part was made, with so many windows. -/
  | openedFile (name : String) (path : Bytes) (length windows : Nat)
  /-- The handle of a file part was closed. -/
  | releasedFile (name : String) (path : Bytes)
  /-- A traversal of so many parts was closed, with so much left to yield. -/
  | closedTraversal (parts remaining : Nat)
  /-- A text value has characters that its character set lacks. -/
  | unmappable (field charset : String)
  deriving Repr, DecidableEq

namespace Event

/-- How much an event matters. -/
inductive Level where
  | trace
  | debug
  | warn
  deriving Repr, DecidableEq

/-- The name of a level. -/
def Level.name : Level → String
  | .trace => "TRACE"
  | .debug => "DEBUG"
  | .warn => "WARN"

/-- How much an event matters. -/
def level : Event → Level
  | .mappedWindow .. | .closedTraversal .. => .trace
  | .unmappable .. => .warn
  | .addedPart .. | .removedPart .. | .openedFile .. | .releasedFile .. => .debug

/-- The message of an event. -/
def message : Event → String
  | .addedPart .. => "added part"
  | .removedPart .. => "removed part"
  | .mappedWindow .. => "mapped file window"
  | .openedFile .. => "opened file part"
  | .releasedFile .. => "release file part"
  | .closedTraversal .. => "close body iterator"
  | .unmappable .. => "field value has unmappable characters"

/-- The fields of an event, in order, each with its text. -/
def fields : Event → List (String × String)
  | .addedPart name partLength bodyLength
  | .removedPart name partLength bodyLength =>
    [("name", name), ("part_length", toString partLength),
     ("body_length", toString bodyLength)]
  | .mappedWindow path offset size =>
    [("path", Quoted.path path), ("offset", toString offset), ("size", toString size)]
  | .openedFile name path length windows =>
    [("name", name), ("path", Quoted.path path), ("length", toString length),
     ("windows", toString windows)]
  | .releasedFile name path =>
    [("name", name), ("path", Quoted.path path)]
  | .closedTraversal parts remaining =>
    [("parts", toString parts), ("remaining", toString remaining)]
  | .unmappable field charset =>
    [("field", field), ("charset", charset)]

end Event

/-- A result with the events on the way to it. -/
structure Traced (α : Type) where
  result : α
  events : List Event := []

end FormData
