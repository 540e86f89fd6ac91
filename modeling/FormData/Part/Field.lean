import FormData.Charset
import FormData.Event
import FormData.Header.Map
import FormData.Part

/-!
# Making Fields

Fields from text, from text in a character set, and from octets.

Making a field cannot fail. A plain text has no header but the one that names
the field. A text sent in a character set has a second line that announces the
set, which is the set the value is really written in. If a character had to be
replaced by a reference, that is worth a warning, raised before the field is
there. Octets come with whatever headers the caller attaches.

## Main definitions

* `FieldPart.text`: A field from text.
* `FieldPart.textIn`: A field from text in a character set.
* `FieldPart.bytes`: A field from octets with headers.
-/

namespace FormData

/-- The name of the header that announces what a value is. -/
def contentTypeName : Bytes :=
  utf8 "Content-Type"

namespace FieldPart

/-- A field from text, written as UTF-8 without announcing it. -/
def text (name value : String) : FieldPart :=
  ofPieces name (headerBlock name none []) (utf8 value)

/-- The header line that announces a character set. -/
def charsetLine (announced : String) : HeaderLine where
  name := contentTypeName
  value := utf8 ("text/plain; charset=" ++ announced)

/-- A field from text in a character set. -/
def textIn (charset : Charset) (name value : String) : Traced FieldPart :=
  let encoded := charset.encode value
  { result :=
      ofPieces name (headerBlock name none [charsetLine charset.announced]) encoded.bytes
    events := if encoded.unmappable then [.unmappable name charset.announced] else [] }

/-- A field from octets, with the headers attached to it. -/
def bytes (name : String) (value : Bytes) (headers : HeaderMap) : FieldPart :=
  ofPieces name (headerBlock name none headers.lines) value

end FieldPart

end FormData
