import FormData.Header.Block
import FormData.Text.Quoted

/-!
# Parts

What a form body is made of between its delimiter lines.

A part has a name, a length, and its octets as a list of pieces in the order
in which they are written. It is a value and never changes. Whatever may
happen to a part while it is in use, such as having its resources released, is
recorded beside it, so two traversals that share a part cannot disturb one
another through it.

There are three kinds. A field holds its value in memory, a file holds the
windows of a file that was opened when the part was made, and a part of the
caller's own yields whatever pieces the caller chose. The first two keep the
length that was added up from their pieces when they were made, together with
the fact that it is right. The last reports a length of its own, which need not
be right; the library never relies on it being right.

## Main definitions

* `FieldPart`, `FilePart`, `CustomPart`: The three kinds of part.
* `FieldPart.ofPieces`, `FilePart.ofPieces`: Making a part adds up its length.
* `Part`: A part of any kind.
* `Part.name`, `length`, `chunks`: What every part has.
* `Part.content`: The octets of a part, joined.
* `Part.describe`: A part as it is shown in messages.

## Theorems

* `Part.length_field`, `Part.length_file`: A field or file reports its true
  length.
-/

namespace FormData

/-- A field with its value in memory. -/
structure FieldPart where
  name : String
  /-- The block in front of the value. -/
  header : Bytes
  value : Bytes
  /-- The number of octets, kept from when the field was made. -/
  length : Nat
  length_eq : length = Bytes.total [header, value]
  deriving Repr, DecidableEq

/-- A file, opened when the part was made. -/
structure FilePart where
  name : String
  path : Bytes
  /-- The block in front of the content. -/
  header : Bytes
  /-- The content in consecutive windows. -/
  windows : List Bytes
  /-- The number of octets, kept from when the file was opened. -/
  length : Nat
  length_eq : length = Bytes.total (header :: windows)
  deriving Repr, DecidableEq

/-- A part of the caller's own. -/
structure CustomPart where
  name : String
  chunks : List Bytes
  /-- The length it reports. -/
  length : Nat
  /-- Whether it keeps count of how often it is released. -/
  countsReleases : Bool
  deriving Repr, DecidableEq

namespace FieldPart

/-- A field from its block and its value. -/
def ofPieces (name : String) (header value : Bytes) : FieldPart where
  name
  header
  value
  length := Bytes.total [header, value]
  length_eq := rfl

/-- The pieces of a field: the header block, then the value, even if empty. -/
def chunks (field : FieldPart) : List Bytes :=
  [field.header, field.value]

end FieldPart

namespace FilePart

/-- A file from its block and its windows. -/
def ofPieces (name : String) (path header : Bytes) (windows : List Bytes) : FilePart where
  name
  path
  header
  windows
  length := Bytes.total (header :: windows)
  length_eq := rfl

/-- The pieces of a file: the header block, then the windows. -/
def chunks (file : FilePart) : List Bytes :=
  file.header :: file.windows

end FilePart

/-- A part of a form body. -/
inductive Part where
  | field (f : FieldPart)
  | file (f : FilePart)
  | custom (c : CustomPart)
  deriving Repr, DecidableEq

namespace Part

/-- The name of the form field. -/
def name : Part → String
  | .field f => f.name
  | .file f => f.name
  | .custom c => c.name

/-- The octets in the order they are written, piece by piece. -/
def chunks : Part → List Bytes
  | .field f => f.chunks
  | .file f => f.chunks
  | .custom c => c.chunks

/-- The number of octets the part reports. -/
def length : Part → Nat
  | .field f => f.length
  | .file f => f.length
  | .custom c => c.length

/-- The octets of the part, joined. -/
def content (part : Part) : Bytes :=
  part.chunks.flatten

/-- The length that a field keeps is that of its pieces. -/
theorem length_field (f : FieldPart) :
    (Part.field f).length = Bytes.total (Part.field f).chunks :=
  f.length_eq

/-- The length that a file keeps is that of its pieces. -/
theorem length_file (f : FilePart) :
    (Part.file f).length = Bytes.total (Part.file f).chunks :=
  f.length_eq

/-- The file a part holds, if it holds one. -/
def file? : Part → Option FilePart
  | .file f => some f
  | .field _ | .custom _ => none

/-- A part as it is shown in messages, given whether it has been released. -/
def describe (released : Bool) : Part → String
  | .field f =>
    "FieldPart \x7b name: " ++ Quoted.text f.name
      ++ ", length: " ++ toString (Part.field f).length ++ " \x7d"
  | .file f =>
    "FilePart \x7b name: " ++ Quoted.text f.name
      ++ ", path: " ++ Quoted.path f.path
      ++ ", length: " ++ toString (Part.file f).length
      ++ ", released: " ++ toString released ++ " \x7d"
  | .custom _ => "RawPart"

end Part

end FormData
