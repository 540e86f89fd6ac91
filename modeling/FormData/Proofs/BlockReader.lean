import FormData.Proofs.Lines
import FormData.Proofs.Receiver

/-!
# Reading a Part

Taking the octets of a part apart again.

A reader of a part knows the grammar and nothing about what was written. It
looks for the first empty line, which ends the block, and what is behind that
is the content. It cuts the block at its line endings. The first line is the
disposition, with a kind and parameters between quotes, and a parameter ends at
the next quote, since nothing can stand for a quote within one. Each other line
is a header name up to the first colon, one space, and a value as it is.

Everything that could mislead such a reader is ruled out where the block is
made. A line that was broken would look like two, and none is. An empty line
would end the block too soon, and none is there, since every line has a name in
front. A quote within a parameter would end it, and those are escaped. So each
step of the reader undoes one step of the writer, whatever the names and the
content are, also if the content begins with line endings
(`separate_headerBlock`).

What is read is the escaped form of a name. Which names have the same one is
another question.

## Main definitions

* `splitLines`: The lines of a text.
* `HeaderLine.read?`: Reading a header line.
* `Disposition`: What the first line of a block says.
* `Disposition.read?`: Reading it.
* `readPart?`: Reading a part.

## Theorems

* `splitLines_intercalate`: Lines that are not broken are read back.
* `dropInfix?_blank`: The first empty line is the one behind all lines.
* `HeaderLine.read?_text`: A plain header line is read back.
* `Disposition.read?_dispositionLine`: So is the disposition.
* `readPart?_headerBlock`: So is a part.
* `separate_headerBlock`: All of it, step by step.
-/

namespace FormData

namespace Bytes

/-- The one octet between a colon and a value. -/
def space : UInt8 := 32

/-- The octet in front of a parameter. -/
def semicolon : UInt8 := 59

/-- The octet between the name of a parameter and its value. -/
def equals : UInt8 := 61

end Bytes

theorem length_lt_of_dropInfix? (input pattern before after : Bytes) (hne : pattern ≠ [])
    (h : input.dropInfix? pattern = some (before, after)) : after.length < input.length := by
  rcases List.dropInfix?_eq_some_iff.mp h with ⟨⟨found, hinput, hfound⟩, -⟩
  rw [beq_iff_eq] at hfound
  have hpos : 0 < pattern.length := List.length_pos_iff.mpr hne
  rw [hinput, hfound]
  simp only [List.length_append]
  omega

/-- The lines of a text, cut at its line endings. -/
def splitLines (input : Bytes) : List Bytes :=
  match _ : input.dropInfix? Bytes.crlf with
  | none => [input]
  | some (line, rest) => line :: splitLines rest
termination_by input.length
decreasing_by
  exact length_lt_of_dropInfix? input Bytes.crlf line rest (List.cons_ne_nil _ _) ‹_›

theorem not_infix_of_not_mem (octet : UInt8) (tail text : Bytes) (h : octet ∉ text) :
    ¬ octet :: tail <:+: text := by
  rintro ⟨before, after, hsplit⟩
  refine h ?_
  rw [← hsplit]
  exact List.mem_append_left _ (List.mem_append_right _ List.mem_cons_self)

/-- A pattern is found where it was put if its first octet is neither in front
    of it nor behind the first octet. -/
theorem dropInfix?_append_of_not_mem (octet : UInt8) (tail before after : Bytes)
    (htail : octet ∉ tail) (hbefore : octet ∉ before) :
    (before ++ octet :: tail ++ after).dropInfix? (octet :: tail) = some (before, after) :=
  dropInfix?_append octet tail before after htail (not_infix_of_not_mem octet tail before hbefore)

theorem dropInfix?_crlf_append (line rest : Bytes) (hline : Bytes.cr ∉ line) :
    (line ++ Bytes.crlf ++ rest).dropInfix? Bytes.crlf = some (line, rest) :=
  dropInfix?_append_of_not_mem Bytes.cr [Bytes.lf] line rest (by decide) hline

theorem dropInfix?_crlf_eq_none (line : Bytes) (hline : Bytes.cr ∉ line) :
    line.dropInfix? Bytes.crlf = none := by
  rcases hfind : line.dropInfix? Bytes.crlf with _ | ⟨before, after⟩
  · rfl
  · rcases List.dropInfix?_eq_some_iff.mp hfind with ⟨⟨found, hsplit, hfound⟩, -⟩
    rw [beq_iff_eq] at hfound
    rw [hfound] at hsplit
    exact absurd ⟨before, after, hsplit.symm⟩ (not_infix_of_not_mem Bytes.cr [Bytes.lf] line hline)

/-- Lines that are not broken are read back from the text they make up. -/
theorem splitLines_intercalate (first : Bytes) (rest : List Bytes)
    (hcr : ∀ line ∈ first :: rest, Bytes.cr ∉ line) :
    splitLines (Bytes.crlf.intercalate (first :: rest)) = first :: rest := by
  have hfirst := hcr first List.mem_cons_self
  induction rest generalizing first with
  | nil =>
      rw [List.intercalate_singleton, splitLines]
      split
      · rfl
      · rename_i hsome
        rw [dropInfix?_crlf_eq_none first hfirst] at hsome
        cases hsome
  | cons next rest ih =>
      have hlater : ∀ line ∈ next :: rest, Bytes.cr ∉ line := fun line hline =>
        hcr line (List.mem_cons_of_mem _ hline)
      have hcut := dropInfix?_crlf_append first (Bytes.crlf.intercalate (next :: rest)) hfirst
      rw [List.intercalate_cons_cons, splitLines]
      split
      · rename_i hnone
        rw [hcut] at hnone
        cases hnone
      · rename_i line after hsome
        rw [hcut] at hsome
        cases hsome
        rw [ih next hlater (hlater next List.mem_cons_self)]

theorem intercalate_eq_append_flatMap (first : Bytes) (rest : List Bytes) :
    Bytes.crlf.intercalate (first :: rest) = first ++ rest.flatMap (Bytes.crlf ++ ·) := by
  induction rest generalizing first with
  | nil => rw [List.intercalate_singleton, List.flatMap_nil, List.append_nil]
  | cons next rest ih =>
      rw [List.intercalate_cons_cons, ih next, List.flatMap_cons, List.append_assoc,
        List.append_assoc]

/-- An empty line stands nowhere in front of the one behind all lines: no line
    is broken, and none but the first may be empty. -/
theorem length_le_of_blank (first : Bytes) (rest : List Bytes) (content before after : Bytes)
    (hcr : ∀ line ∈ first :: rest, Bytes.cr ∉ line) (hne : ∀ line ∈ rest, line ≠ [])
    (h : Bytes.crlf.intercalate (first :: rest) ++ Bytes.crlf ++ (Bytes.crlf ++ content)
      = before ++ Bytes.cr :: Bytes.lf :: (Bytes.crlf ++ after)) :
    (Bytes.crlf.intercalate (first :: rest)).length ≤ before.length := by
  have hfirst := hcr first List.mem_cons_self
  induction rest generalizing first before with
  | nil =>
      rw [List.intercalate_singleton] at h ⊢
      rcases append_crlf_cases first _ before _ hfirst h with ⟨rfl, -⟩ | ⟨more, rfl, -⟩
      · exact Nat.le_refl _
      · simp only [List.length_append]
        omega
  | cons next rest ih =>
      have hlater : ∀ line ∈ next :: rest, Bytes.cr ∉ line := fun line hline =>
        hcr line (List.mem_cons_of_mem _ hline)
      have hnext := hlater next List.mem_cons_self
      rw [List.intercalate_cons_cons, List.append_assoc, List.append_assoc] at h
      rcases append_crlf_cases first _ before _ hfirst (by rw [← h, List.append_assoc]) with
        ⟨-, hempty⟩ | ⟨more, rfl, hmore⟩
      · -- An empty line right here would begin where the next line does.
        exfalso
        rw [intercalate_eq_append_flatMap] at hempty
        rcases hnil : next with _ | ⟨octet, octets⟩
        · exact hne next List.mem_cons_self hnil
        · rw [hnil] at hempty hnext
          have hhead : Bytes.cr = octet := (List.cons.inj (List.cons.inj hempty).2).1
          rw [← hhead] at hnext
          exact hnext List.mem_cons_self
      · have hle := ih next more hlater (fun line hline => hne line (List.mem_cons_of_mem _ hline))
          (by rw [List.append_assoc, hmore]) hnext
        rw [List.intercalate_cons_cons]
        simp only [List.length_append] at hle ⊢
        omega

theorem dropInfix?_blank (first : Bytes) (rest : List Bytes) (content : Bytes)
    (hcr : ∀ line ∈ first :: rest, Bytes.cr ∉ line) (hne : ∀ line ∈ rest, line ≠ []) :
    (Bytes.crlf.intercalate (first :: rest) ++ Bytes.crlf ++ Bytes.crlf ++ content).dropInfix?
        (Bytes.crlf ++ Bytes.crlf)
      = some (Bytes.crlf.intercalate (first :: rest), content) := by
  rw [List.dropInfix?_eq_some_iff]
  refine ⟨⟨Bytes.crlf ++ Bytes.crlf, by simp only [List.append_assoc], beq_self_eq_true _⟩, ?_⟩
  intro before found after hsplit hfound
  rw [beq_iff_eq] at hfound
  refine length_le_of_blank first rest content before after hcr hne ?_
  rw [← List.append_assoc, hsplit, hfound, List.append_assoc, List.append_assoc]
  rfl

/-- Read a header line: a name up to the first colon, one space, and a value as
    it is. -/
def HeaderLine.read? (text : Bytes) : Option HeaderLine :=
  (text.dropInfix? [Bytes.colon]).bind fun cut =>
    (cut.2.dropPrefix? [Bytes.space]).map fun value => ⟨cut.1, value⟩

theorem HeaderLine.read?_text (line : HeaderLine) (hcolon : Bytes.colon ∉ line.name) :
    HeaderLine.read? line.text = some line := by
  have hsplit : line.text = line.name ++ [Bytes.colon] ++ ([Bytes.space] ++ line.value) := by
    have hseparator : utf8 ": " = [Bytes.colon, Bytes.space] := by decide
    simp only [text, hseparator, List.append_assoc, List.cons_append, List.nil_append]
  rw [read?, hsplit, dropInfix?_append_of_not_mem Bytes.colon [] _ _ List.not_mem_nil hcolon,
    Option.bind_some, List.dropPrefix?_append_of_beq _ (beq_self_eq_true _), Option.map_some]

/-- A parameter of a disposition, its value as it stands between the quotes. -/
structure Parameter where
  name : Bytes
  value : Bytes
  deriving Repr, DecidableEq

/-- Read one parameter, and keep what is behind it. The value ends at the next
    quote. -/
def readParameter? (input : Bytes) : Option (Parameter × Bytes) :=
  (input.dropPrefix? [Bytes.semicolon, Bytes.space]).bind fun rest =>
    (rest.dropInfix? [Bytes.equals, Bytes.quote]).bind fun named =>
      (named.2.dropInfix? [Bytes.quote]).map fun quoted => (⟨named.1, quoted.1⟩, quoted.2)

theorem length_lt_of_readParameter? (input after : Bytes) (parameter : Parameter)
    (h : readParameter? input = some (parameter, after)) : after.length < input.length := by
  unfold readParameter? at h
  rcases Option.bind_eq_some_iff.mp h with ⟨rest, hlead, h⟩
  rcases Option.bind_eq_some_iff.mp h with ⟨named, hnamed, h⟩
  rcases Option.map_eq_some_iff.mp h with ⟨quoted, hquoted, hresult⟩
  rcases List.dropPrefix?_eq_some_iff.mp hlead with ⟨lead, hinput, -⟩
  have hnamed' := length_le_of_dropInfix? rest _ named.1 named.2 hnamed
  have hquoted' := length_lt_of_dropInfix? named.2 [Bytes.quote] quoted.1 quoted.2
    (List.cons_ne_nil _ _) hquoted
  rw [hinput, ← (Prod.mk.inj hresult).2, List.length_append]
  omega

/-- Read parameters to their end. -/
def readParameters? (input : Bytes) : Option (List Parameter) :=
  if input = [] then some []
  else
    match _ : readParameter? input with
    | none => none
    | some (parameter, rest) => (readParameters? rest).map (parameter :: ·)
termination_by input.length
decreasing_by exact length_lt_of_readParameter? input rest parameter ‹_›

/-- What the first line of a block says. -/
structure Disposition where
  kind : Bytes
  parameters : List Parameter
  deriving Repr, DecidableEq

/-- Read the first line of a block: a header whose value is a kind, up to the
    first semicolon, and parameters. -/
def Disposition.read? (text : Bytes) : Option Disposition :=
  (HeaderLine.read? text).bind fun line =>
    if line.name = utf8 "Content-Disposition" then
      (readParameters? (line.value.dropWhile (· != Bytes.semicolon))).map fun parameters =>
        ⟨line.value.takeWhile (· != Bytes.semicolon), parameters⟩
    else none

/-- A parameter as it is written is read back, whatever is behind it. -/
theorem readParameter?_quotedParameter (lead value : String) (name rest : Bytes)
    (hlead : utf8 lead = [Bytes.semicolon, Bytes.space] ++ name ++ [Bytes.equals])
    (hname : Bytes.equals ∉ name) :
    readParameter? (quotedParameter lead value ++ rest)
      = some (⟨name, escape (utf8 value)⟩, rest) := by
  have hsplit : quotedParameter lead value ++ rest
      = [Bytes.semicolon, Bytes.space] ++ (name ++ [Bytes.equals, Bytes.quote]
        ++ (escape (utf8 value) ++ [Bytes.quote] ++ rest)) := by
    simp only [quotedParameter, hlead, List.append_assoc, List.cons_append, List.nil_append]
  -- The escaping is what lets the value end at the quote that was put behind it.
  have hquote : Bytes.quote ∉ escape (utf8 value) := not_mem_escape _ _ List.mem_cons_self
  rw [readParameter?, hsplit, List.dropPrefix?_append_of_beq _ (beq_self_eq_true _),
    Option.bind_some,
    dropInfix?_append_of_not_mem Bytes.equals [Bytes.quote] name _ (by decide) hname,
    Option.bind_some, dropInfix?_append_of_not_mem Bytes.quote [] _ _ List.not_mem_nil hquote,
    Option.map_some]

theorem readParameters?_append (input rest : Bytes) (parameter : Parameter)
    (h : readParameter? input = some (parameter, rest)) :
    readParameters? input = (readParameters? rest).map (parameter :: ·) := by
  have hne : input ≠ [] := by
    rintro rfl
    cases h
  rw [readParameters?, if_neg hne]
  split
  · rename_i hnone
    rw [hnone] at h
    cases h
  · rename_i hsome
    rw [hsome] at h
    cases h
    rfl

/-- What the first line of a block says of a field and a file. -/
def Disposition.ofNames (name : String) (fileName : Option String) : Disposition where
  kind := utf8 "form-data"
  parameters := ⟨utf8 "name", escape (utf8 name)⟩
    :: fileName.toList.map fun fileName => ⟨utf8 "filename", escape (utf8 fileName)⟩

theorem readParameters?_nil : readParameters? [] = some [] := by
  rw [readParameters?, if_pos rfl]

/-- The parameters of a disposition as they are written. -/
def writtenParameters (name : String) (fileName : Option String) : Bytes :=
  quotedParameter "; name=" name
    ++ (match fileName with
      | none => []
      | some fileName => quotedParameter "; filename=" fileName)

/-- The name of the field is read, and the name of the file where there is one.
    No other parameter is. -/
theorem readParameters?_writtenParameters (name : String) (fileName : Option String) :
    readParameters? (writtenParameters name fileName)
      = some (Disposition.ofNames name fileName).parameters := by
  have hname : utf8 "; name="
      = [Bytes.semicolon, Bytes.space] ++ utf8 "name" ++ [Bytes.equals] := by
    decide
  have hfile : utf8 "; filename="
      = [Bytes.semicolon, Bytes.space] ++ utf8 "filename" ++ [Bytes.equals] := by
    decide
  have hfirst := fun rest => readParameters?_append _ rest _
    (readParameter?_quotedParameter "; name=" name (utf8 "name") rest hname (by decide))
  cases fileName with
  | none =>
      rw [writtenParameters, hfirst, readParameters?_nil, Option.map_some, Disposition.ofNames,
        Option.toList_none, List.map_nil]
  | some fileName =>
      have hsecond := readParameters?_append _ [] _
        (readParameter?_quotedParameter "; filename=" fileName (utf8 "filename") [] hfile
          (by decide))
      rw [List.append_nil] at hsecond
      rw [writtenParameters, hfirst, hsecond, readParameters?_nil, Option.map_some,
        Option.map_some, Disposition.ofNames, Option.toList_some, List.map_singleton]

/-- The disposition is a header like the others. -/
theorem dispositionLine_eq_text (name : String) (fileName : Option String) :
    dispositionLine name fileName
      = HeaderLine.text
        ⟨utf8 "Content-Disposition", utf8 "form-data" ++ writtenParameters name fileName⟩ := by
  have hfront : utf8 "Content-Disposition: form-data"
      = utf8 "Content-Disposition" ++ utf8 ": " ++ utf8 "form-data" := by decide
  cases fileName with
  | none => simp only [dispositionLine, HeaderLine.text, writtenParameters, hfront,
      List.append_assoc]
  | some fileName => simp only [dispositionLine, HeaderLine.text, writtenParameters, hfront,
      List.append_assoc]

theorem Disposition.read?_dispositionLine (name : String) (fileName : Option String) :
    Disposition.read? (dispositionLine name fileName) = some (.ofNames name fileName) := by
  have hcolon : Bytes.colon ∉ utf8 "Content-Disposition" := by decide
  -- The first parameter has a semicolon in front, and that is where the kind ends.
  have hsemicolon : Bytes.semicolon ∉ utf8 "form-data" := by decide
  have hkind : ∀ octet ∈ utf8 "form-data", (octet != Bytes.semicolon) = true := by
    intro octet hoctet
    exact bne_iff_ne.mpr fun heq => hsemicolon (heq ▸ hoctet)
  have hhead : ∃ tail, writtenParameters name fileName = Bytes.semicolon :: tail := ⟨_, rfl⟩
  have hparameters := readParameters?_writtenParameters name fileName
  rw [dispositionLine_eq_text, read?, HeaderLine.read?_text _ hcolon, Option.bind_some, if_pos rfl]
  generalize writtenParameters name fileName = written at hhead hparameters
  rcases hhead with ⟨tail, rfl⟩
  have hrest : (utf8 "form-data" ++ Bytes.semicolon :: tail).dropWhile (· != Bytes.semicolon)
      = Bytes.semicolon :: tail := by
    rw [List.dropWhile_append_of_pos hkind, List.dropWhile_cons_of_neg (by decide)]
  have hfront : (utf8 "form-data" ++ Bytes.semicolon :: tail).takeWhile (· != Bytes.semicolon)
      = utf8 "form-data" := by
    rw [List.takeWhile_append_of_pos hkind, List.takeWhile_cons_of_neg (by decide),
      List.append_nil]
  simp only [hrest, hfront, hparameters, Option.map_some, ofNames]

/-- What can be read from the octets of a part. -/
structure PartReading where
  disposition : Disposition
  lines : List HeaderLine
  content : Bytes
  deriving DecidableEq

/-- Read a part: the block ends at the first empty line, its first line is the
    disposition, and every other one is a header. -/
def readPart? (input : Bytes) : Option PartReading :=
  (input.dropInfix? (Bytes.crlf ++ Bytes.crlf)).bind fun cut =>
    match splitLines cut.1 with
    | [] => none
    | first :: rest =>
      (Disposition.read? first).bind fun disposition =>
        (rest.mapM HeaderLine.read?).map fun lines => ⟨disposition, lines, cut.2⟩

/-- A block is its lines with line endings between them, and an empty line. -/
theorem headerBlock_eq_intercalate (name : String) (fileName : Option String)
    (lines : List HeaderLine) :
    headerBlock name fileName lines
      = Bytes.crlf.intercalate (dispositionLine name fileName :: lines.map HeaderLine.text)
        ++ Bytes.crlf ++ Bytes.crlf := by
  have hshift : Bytes.crlf ++ lines.flatMap HeaderLine.render
      = (lines.map HeaderLine.text).flatMap (Bytes.crlf ++ ·) ++ Bytes.crlf := by
    induction lines with
    | nil => rfl
    | cons line rest ih =>
        rw [List.flatMap_cons, List.map_cons, List.flatMap_cons, List.append_assoc, ← ih]
        simp only [HeaderLine.render, HeaderLine.text, List.append_assoc]
  rw [headerBlock, intercalate_eq_append_flatMap, List.append_assoc (dispositionLine _ _),
    List.append_assoc (dispositionLine _ _), hshift]
  simp only [List.append_assoc]

theorem mapM_read?_text (lines : List HeaderLine) (hplain : ∀ line ∈ lines, line.Plain) :
    (lines.map HeaderLine.text).mapM HeaderLine.read? = some lines := by
  induction lines with
  | nil => rfl
  | cons line rest ih =>
      have hrest := ih fun x hx => hplain x (List.mem_cons_of_mem _ hx)
      have hline := HeaderLine.read?_text line (hplain line List.mem_cons_self).colon
      rw [List.map_cons, List.mapM_cons, hline, hrest]
      rfl

/-- The lines of a block, cut where a reader cuts them. -/
theorem cut_headerBlock (name : String) (fileName : Option String) (lines : List HeaderLine)
    (content : Bytes) (hplain : ∀ line ∈ lines, line.Plain) :
    let texts := dispositionLine name fileName :: lines.map HeaderLine.text
    (headerBlock name fileName lines ++ content).dropInfix? (Bytes.crlf ++ Bytes.crlf)
        = some (Bytes.crlf.intercalate texts, content)
      ∧ splitLines (Bytes.crlf.intercalate texts) = texts := by
  intro texts
  have hcr : ∀ text ∈ texts, Bytes.cr ∉ text := by
    intro text htext
    rcases List.mem_cons.mp htext with rfl | htext
    · exact cr_not_mem_dispositionLine name fileName
    · rcases List.mem_map.mp htext with ⟨line, hline, rfl⟩
      exact (hplain line hline).cr_text
  have hne : ∀ text ∈ lines.map HeaderLine.text, text ≠ [] := by
    intro text htext hnil
    rcases List.mem_map.mp htext with ⟨line, hline, rfl⟩
    rw [HeaderLine.text, List.append_assoc, List.append_eq_nil_iff] at hnil
    exact (hplain line hline).name_ne_nil hnil.1
  rw [headerBlock_eq_intercalate]
  exact ⟨dropInfix?_blank _ _ content hcr hne, splitLines_intercalate _ _ hcr⟩

theorem readPart?_headerBlock (name : String) (fileName : Option String)
    (lines : List HeaderLine) (content : Bytes) (hplain : ∀ line ∈ lines, line.Plain) :
    readPart? (headerBlock name fileName lines ++ content)
      = some ⟨.ofNames name fileName, lines, content⟩ := by
  rcases cut_headerBlock name fileName lines content hplain with ⟨hcut, hsplit⟩
  rw [readPart?, hcut, Option.bind_some]
  simp only [hsplit, Disposition.read?_dispositionLine, mapM_read?_text lines hplain,
    Option.bind_some, Option.map_some]

theorem Disposition.ofNames_inj (name name' : String) (fileName fileName' : Option String)
    (h : ofNames name fileName = ofNames name' fileName') :
    escape (utf8 name) = escape (utf8 name')
      ∧ fileName.map (fun f => escape (utf8 f)) = fileName'.map fun f => escape (utf8 f) := by
  simp only [ofNames, Disposition.mk.injEq, List.cons.injEq, Parameter.mk.injEq, true_and] at h
  refine ⟨h.1, ?_⟩
  rcases fileName with _ | f
  · rcases fileName' with _ | f'
    · rfl
    · cases h.2
  · rcases fileName' with _ | f'
    · cases h.2
    · simp only [Option.toList_some, List.map_cons, List.map_nil, List.cons.injEq,
        Parameter.mk.injEq, true_and, and_true] at h
      simp only [Option.map_some, h.2]

/-- Block and content can be separated, and in one way only. The first empty line
    is the one that ends the block, and the content is all that is behind it.
    Cut at its line endings, the block is the disposition and one line for each
    header, in order. Each header line gives its name and its value, the
    disposition gives its kind and the escaped names, and reading all of it
    gives all of it. So what another name, file name, header or content would
    give is something else, up to the escaping. -/
theorem separate_headerBlock (name : String) (fileName : Option String)
    (lines : List HeaderLine) (content : Bytes) (hlines : Attached lines) :
    let block := headerBlock name fileName lines
    let texts := dispositionLine name fileName :: lines.map HeaderLine.text
    let head := Bytes.crlf.intercalate texts
    block = head ++ Bytes.crlf ++ Bytes.crlf
    ∧ (block ++ content).dropInfix? (Bytes.crlf ++ Bytes.crlf) = some (head, content)
    ∧ splitLines head = texts
    ∧ (∀ line ∈ lines, HeaderLine.read? line.text = some line)
    ∧ Disposition.read? (dispositionLine name fileName)
        = some {
          kind := utf8 "form-data"
          parameters := ⟨utf8 "name", escape (utf8 name)⟩
            :: fileName.toList.map fun f => ⟨utf8 "filename", escape (utf8 f)⟩ }
    ∧ readPart? (block ++ content) = some ⟨.ofNames name fileName, lines, content⟩
    ∧ ∀ name' fileName' lines' content', Attached lines' →
        headerBlock name' fileName' lines' ++ content' = block ++ content →
        escape (utf8 name') = escape (utf8 name)
        ∧ fileName'.map (fun f => escape (utf8 f)) = fileName.map (fun f => escape (utf8 f))
        ∧ lines' = lines ∧ content' = content := by
  intro block texts head
  rcases cut_headerBlock name fileName lines content hlines.plain with ⟨hcut, hsplit⟩
  have hread := readPart?_headerBlock name fileName lines content hlines.plain
  refine ⟨headerBlock_eq_intercalate name fileName lines, hcut, hsplit,
    fun line hline => line.read?_text (hlines.plain line hline).colon,
    Disposition.read?_dispositionLine name fileName, hread, ?_⟩
  intro name' fileName' lines' content' hlines' heq
  -- Both are read from the same octets.
  have hread' := readPart?_headerBlock name' fileName' lines' content' hlines'.plain
  rw [heq, hread, Option.some.injEq, PartReading.mk.injEq] at hread'
  rcases hread' with ⟨hnames, hsame, hcontent⟩
  rcases Disposition.ofNames_inj _ _ _ _ hnames with ⟨hname, hfile⟩
  exact ⟨hname.symm, hfile.symm, hsame.symm, hcontent.symm⟩

/-- A name that tries to end its quotes, a file name that tries to end the block,
    a value with a colon and spaces, and a content that begins with an empty
    line: all of it is read back. The escaped names written out give the same
    octets, so they have to be what the others escape to. -/
theorem readPart?_adversarial :
    let headers : HeaderMap :=
      ⟨[⟨⟨utf8 "x-a", by decide⟩, [⟨utf8 " b: c ", by decide⟩, ⟨[], by decide⟩]⟩]⟩
    readPart? (headerBlock "a\"; filename=\"b" (some "\r\n\r\n") headers.lines
        ++ utf8 "\r\n\r\nc")
      = some {
        disposition := {
          kind := utf8 "form-data"
          parameters :=
            [⟨utf8 "name", utf8 "a%22; filename=%22b"⟩,
             ⟨utf8 "filename", utf8 "%0D%0A%0D%0A"⟩] }
        lines := [⟨utf8 "x-a", utf8 " b: c "⟩, ⟨utf8 "x-a", []⟩]
        content := utf8 "\r\n\r\nc" }
    ∧ escape (utf8 "a%22; filename=%22b") = escape (utf8 "a\"; filename=\"b") := by
  intro headers
  rcases separate_headerBlock "a\"; filename=\"b" (some "\r\n\r\n") headers.lines
    (utf8 "\r\n\r\nc") (.headers headers) with ⟨-, -, -, -, -, hread, hunique⟩
  exact ⟨hread, (hunique "a%22; filename=%22b" (some "%0D%0A%0D%0A") headers.lines
    (utf8 "\r\n\r\nc") (.headers headers) rfl).1⟩

end FormData
