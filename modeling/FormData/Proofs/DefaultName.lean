import FormData.Proofs.BlockReader
import FormData.Proofs.Escaping
import FormData.Proofs.Resolution
import FormData.Proofs.Settings
import FormData.Proofs.TextReader

/-!
# The Name of a File

A file that is not given a name is announced by the last segment of its path, and
nothing else of the path is told.

The name is taken from the path by one reading and the file is found by another.
Whatever answers when a path is looked up, what matters about it is that it opens
files only for paths whose last segment is a name (`Path.Admits`). A tree of files
does (`Path.admits_lookUp`). Then the name is what is behind the last slash, and
the empty name that a path without one would get is not reached.

Between the path and the header the name is read as text, which may be a
replacement in part, and escaped. Neither brings in a slash and neither leaves
nothing (`slash_not_mem_escape_lossy`, `escape_lossy_ne_nil`). So a receiver is
given a name, and none that looks like a path. Since all of this depends on the
last segment alone, so does the header.

## Main definitions

* `Path.Admits`: An answer that is a file only if the last segment is a name.

## Theorems

* `Path.admits_lookUp`: A tree answers so.
* `slash_not_mem_escape_lossy`: No slash comes in between a path and its header.
* `escape_lossy_ne_nil`: Nor does a name vanish.
* `FileRequest.announcedName_settleAll`: The name that is announced.
* `FileRequest.defaultName`: What a receiver reads.
-/

namespace FormData

namespace Path

/-- What a path leads to is a file only if its last segment is a name. -/
def Admits (path : Bytes) (found : Except IoFault FileTree.Entry) : Prop :=
  ∀ data, found = .ok (.file data) → MayBeFile path

theorem admits_lookUp (tree : FileTree) (path : Bytes) : Admits path (tree.lookUp path) :=
  fun data h => FileTree.mayBeFile_of_lookUp tree path data h

end Path

/-- Escaping brings in no slash. -/
theorem slash_mem_of_mem_escape (octets : Bytes) (h : Bytes.slash ∈ escape octets) :
    Bytes.slash ∈ octets := by
  have hcodes : ∀ octet ∈ Bytes.escaped, Bytes.slash ∉ escapeOctet octet :=
    forall_escaped (by decide) (by decide) (by decide)
  rcases List.mem_flatMap.mp h with ⟨octet, hmem, hslash⟩
  by_cases hescaped : octet ∈ Bytes.escaped
  · exact absurd hslash (hcodes octet hescaped)
  · rw [escapeOctet_of_not_mem octet hescaped, List.mem_singleton] at hslash
    rw [hslash]
    exact hmem

theorem slash_not_mem_lossy (octets : Bytes) (h : Bytes.slash ∉ octets) :
    '/' ∉ (Utf8.lossy octets).toList := fun hmem =>
  h (Utf8.mem_of_mem_lossy octets '/' (by decide) (by decide) hmem)

/-- Octets without a slash are shown as a name without one. -/
theorem slash_not_mem_escape_lossy (octets : Bytes) (h : Bytes.slash ∉ octets) :
    Bytes.slash ∉ escape (utf8 (Utf8.lossy octets)) := by
  intro hmem
  -- Among the octets of a text a slash is a character of its own.
  have hascii : ∀ d ∈ ['/'], d.toNat ≤ 127 := List.forall_mem_singleton.mpr (by decide)
  have hchars := flatMap_utf8_infix_iff '/' [] (Utf8.lossy octets).toList hascii
  have hoctet : ['/'].flatMap String.utf8EncodeChar = [Bytes.slash] := by decide
  rw [hoctet, List.singleton_infix_iff, List.singleton_infix_iff] at hchars
  exact slash_not_mem_lossy octets h (hchars.mp (slash_mem_of_mem_escape _ hmem))

theorem escapeOctet_ne_nil (octet : UInt8) : escapeOctet octet ≠ [] := by
  by_cases hescaped : octet ∈ Bytes.escaped
  · have hlength := length_escapeOctet octet hescaped
    intro hnil
    rw [hnil] at hlength
    cases hlength
  · rw [escapeOctet_of_not_mem octet hescaped]
    exact List.cons_ne_nil _ _

/-- Octets are shown as some name. -/
theorem escape_lossy_ne_nil (octets : Bytes) (h : octets ≠ []) :
    escape (utf8 (Utf8.lossy octets)) ≠ [] := by
  intro hnil
  rw [escape, List.flatMap_eq_nil_iff] at hnil
  have hutf8 : utf8 (Utf8.lossy octets) = [] :=
    List.eq_nil_iff_forall_not_mem.mpr fun octet hmem => escapeOctet_ne_nil octet (hnil octet hmem)
  exact Utf8.lossy_ne_empty octets h (Utf8.utf8_injective hutf8)

namespace FileRequest

/-- Where no name is given, the name that is announced is the one in the path. -/
theorem announcedName_settleAll (name : String) (path : Bytes) (settings : List Setting)
    (hnone : ∀ setting ∈ settings, setting.fileName? = none) (h : Path.MayBeFile path) :
    (settleAll { name, path } settings).announcedName
      = Utf8.lossy (Path.lastSegment path) := by
  have hfileName : (settleAll { name, path } settings).fileName = none := by
    rw [fileName_settleAll, (lastGiven_eq_none_iff _ _).mpr hnone, Option.none_or]
  rw [announcedName, hfileName, (name_path_settleAll { name, path } settings).2,
    Path.fileName?_of_mayBeFile path h]
  rfl

/-- The header lines behind the first do not depend on the path. -/
theorem headerLines_settleAll (name : String) (path path' : Bytes) (settings : List Setting) :
    (settleAll { name, path := path' } settings).headerLines
      = (settleAll { name, path } settings).headerLines := by
  simp only [headerLines, headers_settleAll, contentType_settleAll]

/-- The header of a part that is opened. -/
theorem header_of_openGiven (name : String) (path : Bytes) (settings : List Setting)
    (hnone : ∀ setting ∈ settings, setting.fileName? = none)
    (found : Except IoFault FileTree.Entry) (hadmits : Path.Admits path found)
    (mapping : Bytes → Nat → Nat → Except IoFault Bytes) (file : FilePart)
    (h : ((settleAll { name, path } settings).openGiven found mapping).result = .ok file) :
    Path.MayBeFile path
      ∧ file.header = headerBlock name (some (Utf8.lossy (Path.lastSegment path)))
        (settleAll { name, path } settings).headerLines := by
  rcases of_openGiven_eq_ok _ found mapping file h with ⟨-, -, hheader, data, hfound, -⟩
  have hmay := hadmits data hfound
  refine ⟨hmay, ?_⟩
  rw [hheader, header, announcedName_settleAll name path settings hnone hmay,
    (name_path_settleAll { name, path } settings).1]

/-- What a receiver is told about a file that is not given a name. Looking the path
    up may give any answer that is a file only if the last segment is a name, and a
    tree of files gives no other. If the file is opened, the path names it by its
    last segment. The first line of the header says the name of the field and that
    segment, read as text and escaped, and nothing else. It is not empty, and it has
    no slash, neither read nor escaped. Another path with the same last segment,
    opened with the same settings, has the same header, wherever it leads and
    whatever is found there. -/
theorem defaultName (name : String) (path : Bytes) (settings : List Setting)
    (hnone : ∀ setting ∈ settings, setting.fileName? = none) :
    let request (path : Bytes) : FileRequest := settleAll { name, path } settings
    let fileName := Utf8.lossy (Path.lastSegment path)
    let parameter := escape (utf8 fileName)
    (∀ tree : FileTree,
      (request path).openIn tree = (request path).openGiven (tree.lookUp path) Window.slice
      ∧ Path.Admits path (tree.lookUp path))
    ∧ ∀ found mapping file, Path.Admits path found →
        ((request path).openGiven found mapping).result = .ok file →
        (path = Path.lastSegment path
          ∨ ∃ front, path = front ++ Bytes.slash :: Path.lastSegment path)
        ∧ Bytes.slash ∉ Path.lastSegment path
        ∧ Path.fileName? path = some (Path.lastSegment path)
        ∧ (∃ line rest, file.header.dropInfix? Bytes.crlf = some (line, rest)
            ∧ Disposition.read? line = some {
              kind := utf8 "form-data"
              parameters :=
                [⟨utf8 "name", escape (utf8 name)⟩, ⟨utf8 "filename", parameter⟩] })
        ∧ fileName ≠ "" ∧ parameter ≠ []
        ∧ '/' ∉ fileName.toList ∧ Bytes.slash ∉ parameter
        ∧ ∀ path' found' mapping' file', Path.lastSegment path' = Path.lastSegment path →
            Path.Admits path' found' →
            ((request path').openGiven found' mapping').result = .ok file' →
            file'.header = file.header := by
  intro request fileName parameter
  have hslash := Path.slash_not_mem_lastSegment path
  have hpath : ∀ path, (request path).path = path := fun path =>
    (name_path_settleAll { name, path } settings).2
  refine ⟨fun tree => ⟨?_, Path.admits_lookUp tree path⟩, ?_⟩
  · rw [openIn_eq_openGiven, hpath]
  intro found mapping file hadmits hfile
  rcases header_of_openGiven name path settings hnone found hadmits mapping file hfile with
    ⟨hmay, hheader⟩
  have hne := Path.lastSegment_ne_nil path hmay.path_ne_nil hmay.no_slash
  refine ⟨Path.lastSegment_cases path, hslash, Path.fileName?_of_mayBeFile path hmay, ?_,
    Utf8.lossy_ne_empty _ hne, escape_lossy_ne_nil _ hne, slash_not_mem_lossy _ hslash,
    slash_not_mem_escape_lossy _ hslash, ?_⟩
  · refine ⟨dispositionLine name (some fileName),
      (request path).headerLines.flatMap HeaderLine.render ++ Bytes.crlf, ?_,
      Disposition.read?_dispositionLine name (some fileName)⟩
    rw [hheader, headerBlock, List.append_assoc (dispositionLine _ _ ++ Bytes.crlf)]
    exact dropInfix?_crlf_append _ _ (cr_not_mem_dispositionLine name (some fileName))
  · intro path' found' mapping' file' hsame hadmits' hfile'
    rw [(header_of_openGiven name path' settings hnone found' hadmits' mapping' file' hfile').2,
      hheader, hsame, headerLines_settleAll name path path' settings]

/-- The path goes through a link and up again, and has repeated slashes and a dot.
    Its last segment is no text, and has a quote. Another file of this name, in the
    working directory, has the same header. -/
theorem defaultName_through_link :
    let last : Bytes := [255, 34]
    let path := utf8 "/l/.././b//" ++ last
    let tree := FileTree.initial.changes
      [.makeDirectory (utf8 "/a/b"), .link (utf8 "/l") (utf8 "a/b"),
       .create (utf8 "/a/b/" ++ last) [1], .create last [2, 3]]
    let request (path : Bytes) : FileRequest :=
      settleAll { name := "n", path } [.contentType "text/plain"]
    ∃ file file', ((request path).openIn tree).result = .ok file
      ∧ file.windows.flatten = [1]
      ∧ file.header
        = utf8 "Content-Disposition: form-data; name=\"n\"; filename=\"\uFFFD%22\"\r\n"
          ++ utf8 "Content-Type: text/plain\r\n\r\n"
      ∧ ((request last).openIn tree).result = .ok file' ∧ file'.windows.flatten = [2, 3]
      ∧ file'.header = file.header := by
  intro last path tree request
  have hlink := tree.lookUp_of_toOption path (.file [1]) (by decide +kernel)
  have hhere := tree.lookUp_of_toOption last (.file [2, 3]) (by decide +kernel)
  rcases openIn_file (request path) tree [1] hlink with ⟨file, hfile, hheader, hdata⟩
  rcases openIn_file (request last) tree [2, 3] hhere with ⟨file', hfile', -, hdata'⟩
  rcases defaultName "n" path [.contentType "text/plain"] (by decide) with ⟨htree, hopened⟩
  rcases defaultName "n" last [.contentType "text/plain"] (by decide) with ⟨htree', -⟩
  refine ⟨file, file', hfile, hdata, ?_, hfile', hdata', ?_⟩
  · rw [hheader]
    decide
  · rw [(htree tree).1] at hfile
    rw [(htree' tree).1] at hfile'
    rcases hopened _ _ file (htree tree).2 hfile with ⟨-, -, -, -, -, -, -, -, hsame⟩
    exact hsame last _ _ file' (by decide) (htree' tree).2 hfile'

end FileRequest

end FormData
