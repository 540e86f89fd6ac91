import FormData.Part.FileRequest

/-!
# Part Requests

A part as a caller asks for it, and making it.

A request still holds what has to be checked: header edits on raw octets, and
a character set by name. Everything that can be checked without touching a
file is checked first, so a request with a bad header is refused before the
file it names is looked at. What is wrong is kept apart by where it comes
from, since only the faults of the library itself have a kind and a cause.

## Main definitions

* `PartRequest`: A part as a caller asks for it.
* `RequestFault`: Why a request is refused.
* `PartRequest.make`: The part that is asked for.
-/

namespace FormData

/-- A setting of a file request, its headers not yet looked at. -/
inductive FileOption where
  | fileName (fileName : String)
  | contentType (contentType : String)
  | headers (edits : List HeaderEdit)
  | maxWindow (limit : Nat) (positive : 0 < limit)

/-- A part as a caller asks for it. -/
inductive PartRequest where
  | text (name value : String)
  /-- A text in a character set, its tables given where the set needs some. -/
  | textIn (name value charset : String) (tables : MultiOctet.Tables := .working)
  | bytes (name : String) (value : Bytes) (headers : List HeaderEdit)
  | file (name : String) (path : Bytes) (options : List FileOption)
  | custom (c : CustomPart)

/-- Why a request is refused. -/
inductive RequestFault where
  /-- The library refuses it. -/
  | fault (fault : Fault)
  /-- A header is not acceptable. -/
  | header (flaw : HeaderFlaw)
  /-- There is no character set of this name. -/
  | unknownCharset (name : String)
  deriving Repr, DecidableEq

namespace RequestFault

/-- The wording of a refusal. -/
def message : RequestFault → String
  | .fault f => f.message
  | .header flaw => flaw.reason
  | .unknownCharset name => name

end RequestFault

namespace FileOption

/-- The setting an option stands for, or what is wrong with its headers. -/
def setting? : FileOption → Except HeaderFlaw FileRequest.Setting
  | .fileName name => .ok (.fileName name)
  | .contentType type => .ok (.contentType type)
  | .headers edits => (HeaderMap.ofEdits? edits).map .headers
  | .maxWindow limit positive => .ok (.maxWindow limit positive)

end FileOption

namespace PartRequest

/-- Make the part of a file in a tree. -/
def makeFile (tree : FileTree) (name : String) (path : Bytes) (options : List FileOption) :
    Traced (Except RequestFault Part) :=
  match options.mapM FileOption.setting? with
  | .error flaw => { result := .error (.header flaw) }
  | .ok settings =>
    let request : FileRequest := { name, path }
    let opened := (request.settleAll settings).openIn tree
    { result := match opened.result with
        | .error f => .error (.fault f)
        | .ok f => .ok (.file f)
      events := opened.events }

/-- Make the part that is asked for. -/
def make (tree : FileTree) : PartRequest → Traced (Except RequestFault Part)
  | .text name value => { result := .ok (.field (FieldPart.text name value)) }
  | .textIn name value charset tables =>
    match Charset.named? tables charset with
    | none => { result := .error (.unknownCharset charset) }
    | some charset =>
      let made := FieldPart.textIn charset name value
      { result := .ok (.field made.result), events := made.events }
  | .bytes name value headers =>
    match HeaderMap.ofEdits? headers with
    | .error flaw => { result := .error (.header flaw) }
    | .ok headers => { result := .ok (.field (FieldPart.bytes name value headers)) }
  | .file name path options => makeFile tree name path options
  | .custom c => { result := .ok (.custom c) }

end PartRequest

end FormData
