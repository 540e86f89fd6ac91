import FormData.FileTree
import FormData.Part.Field
import FormData.Part.Window

/-!
# Making File Parts

What a caller may settle about a file before it is opened, and opening it.

A request names a field and a path, and starts with defaults for everything
else. Each setting replaces one of them, and the last one of a kind counts.
Settings of different kinds do not disturb each other, with one exception that
is the same in either order: once headers are given, they replace every header
of the part but the one that names the field, and a content type is ignored.
That holds for an empty set of headers too, so whether headers were given is
kept apart from what they are.

Opening looks the path up, refuses what is not a regular file, and reads the
windows of the content. The file name that is announced defaults to the last
segment of the path, read as text.

## Main definitions

* `FileRequest`: What is settled about a file part.
* `FileRequest.Setting`: One setting.
* `FileRequest.openWith`: The part of a file, given how to map it.
* `FileRequest.openIn`: The part of a file in a tree.
-/

namespace FormData

namespace FileRequest

/-- The content type announced when none is given. -/
def defaultContentType : String := "application/octet-stream"

/-- The most octets mapped at once when no limit is given. -/
def defaultMaxWindow : Nat := 1073741824

end FileRequest

/-- What is settled about a file part before the file is opened. -/
structure FileRequest where
  name : String
  path : Bytes
  /-- The file name to announce, if it is not the one in the path. -/
  fileName : Option String := none
  /-- The content type to announce. -/
  contentType : String := FileRequest.defaultContentType
  /-- The headers that replace the content type, once they are given. -/
  headers : Option HeaderMap := none
  /-- The most octets to map at once. -/
  maxWindow : Nat := FileRequest.defaultMaxWindow
  maxWindow_pos : 0 < maxWindow := by decide

namespace FileRequest

/-- One setting of a request. -/
inductive Setting where
  | fileName (fileName : String)
  | contentType (contentType : String)
  | headers (headers : HeaderMap)
  | maxWindow (limit : Nat) (positive : 0 < limit)

/-- Settle one thing. -/
def settle (request : FileRequest) : Setting → FileRequest
  | .fileName fileName => { request with fileName := some fileName }
  | .contentType contentType => { request with contentType }
  | .headers headers => { request with headers := some headers }
  | .maxWindow limit positive =>
    { request with maxWindow := limit, maxWindow_pos := positive }

/-- Settle things in order. -/
def settleAll (request : FileRequest) (settings : List Setting) : FileRequest :=
  settings.foldl settle request

/-- The file name to announce. -/
def announcedName (request : FileRequest) : String :=
  request.fileName.getD (((Path.fileName? request.path).map Utf8.lossy).getD "")

/-- The header lines behind the one that names the field. -/
def headerLines (request : FileRequest) : List HeaderLine :=
  match request.headers with
  | some headers => headers.lines
  | none => [{ name := contentTypeName, value := utf8 request.contentType }]

/-- The block in front of the content. -/
def header (request : FileRequest) : Bytes :=
  headerBlock request.name (some request.announcedName) request.headerLines

/-- The part of a file of the given size, its content reached by `mapping`. -/
def openWith (request : FileRequest) (mapping : Nat → Nat → Except IoFault Bytes)
    (size : Nat) : Traced (Except Fault FilePart) :=
  let read := Window.readAll request.path mapping
    (Window.plan request.maxWindow request.maxWindow_pos size 0)
  match read.result with
  | .error fault => { result := .error fault, events := read.events }
  | .ok windows =>
    let file := FilePart.ofPieces request.name request.path request.header windows
    { result := .ok file
      events := read.events ++
        [.openedFile request.name request.path file.length windows.length] }

/-- The part of the file that the path of a request leads to. -/
def openIn (request : FileRequest) (tree : FileTree) : Traced (Except Fault FilePart) :=
  match tree.lookUp request.path with
  | .error cause => { result := .error (.cannotOpen request.path cause) }
  | .ok (.file data) => request.openWith (Window.slice data) data.length
  | .ok _ => { result := .error (.notAFile request.path) }

end FileRequest

end FormData
