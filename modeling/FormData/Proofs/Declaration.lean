import FormData.Part.Field
import FormData.Proofs.BlockReader
import FormData.Proofs.Decoding

/-!
# The Announced Character Set

The set that a field announces is the set that reads its value.

A caller may ask for a set that is only ever read. The value is then written as
UTF-8, and the name announced is not the one that was asked for. So there are two
sets, the one that was asked for and the one that is found under the announced
name. They write alike and announce the same name (`Charset.exists_announced`).
That is a fact about the list of sets, checked on it entry by entry, and what is in
the tables of the larger sets plays no part in it. Everything about a field is made
from these two, so asking for the announced set in the first place gives the same
field and the same warning (`FieldPart.textIn_congr`).

What the value says is then a question about one set, which is read as it is
written.

## Main definitions

* `Charset.Scheme.isUnicode`: Whether a set writes all of Unicode.
* `Charset.Scheme.upperHalf`: The table of a set that has one.

## Theorems

* `Charset.named?_of_mem`: A set is found by its name.
* `Charset.exists_announced`: The set found by the announced name.
* `FieldPart.textIn_announced`: What a receiver makes of a field.
-/

namespace FormData

namespace Charset

namespace Scheme

/-- Whether a set writes all of Unicode. -/
def isUnicode : Scheme → Bool
  | .unicode => true
  | .single _ | .multi _ | .switching _ => false

/-- The code points of the octets from 128 up, in a set that has one for each. -/
def upperHalf : Scheme → List Nat
  | .single upper => upper
  | .unicode | .multi _ | .switching _ => []

theorem eq_unicode_of_isUnicode (scheme : Scheme) (h : scheme.isUnicode = true) :
    scheme = .unicode := by
  cases scheme with
  | unicode => rfl
  | single _ => cases h
  | multi _ => cases h
  | switching _ => cases h

end Scheme

/-- What can be checked of every set. A table has no more places than there are
    octets above ASCII. What writes all of Unicode is announced as UTF-8, and all
    else by its own name. -/
def isSound (charset : Charset) : Bool :=
  decide (charset.scheme.upperHalf.length ≤ 128)
    && charset.announced == (if charset.scheme.isUnicode then "UTF-8" else charset.name)
    && !(utf8 charset.announced).contains Bytes.cr

variable {tables : MultiOctet.Tables}

theorem isSound_of_mem (charset : Charset) (h : charset ∈ all tables) :
    charset.isSound = true := by
  have hfixed : fixed.all isSound = true := by decide +kernel
  -- What is in the tables is not looked at, so any tables will do.
  have hsame : (tabled tables).all isSound = (tabled .working).all isSound := rfl
  have htabled : (tabled .working).all isSound = true := by decide +kernel
  rcases List.mem_append.mp h with h | h
  · exact List.all_eq_true.mp hfixed charset h
  · exact List.all_eq_true.mp (hsame.trans htabled) charset h

theorem length_upperHalf_le (charset : Charset) (h : charset ∈ all tables) :
    charset.scheme.upperHalf.length ≤ 128 := by
  have hsound := isSound_of_mem charset h
  rw [isSound, Bool.and_eq_true, Bool.and_eq_true, decide_eq_true_eq] at hsound
  exact hsound.1.1

theorem announced_eq (charset : Charset) (h : charset ∈ all tables) :
    charset.announced = if charset.scheme.isUnicode then "UTF-8" else charset.name := by
  have hsound := isSound_of_mem charset h
  rw [isSound, Bool.and_eq_true, Bool.and_eq_true, beq_iff_eq] at hsound
  exact hsound.1.2

theorem cr_not_mem_announced (charset : Charset) (h : charset ∈ all tables) :
    Bytes.cr ∉ utf8 charset.announced := by
  have hsound := isSound_of_mem charset h
  rw [isSound, Bool.and_eq_true, Bool.not_eq_true', List.contains_eq_mem,
    decide_eq_false_iff_not] at hsound
  exact hsound.2

/-- In a list of sets with different names, each is found by its name. -/
theorem find?_of_nodup (list : List Charset) (hnodup : (list.map Charset.name).Nodup)
    (charset : Charset) (h : charset ∈ list) :
    list.find? (fun other => other.name == charset.name) = some charset := by
  induction list with
  | nil => cases h
  | cons first rest ih =>
      rw [List.map_cons, List.nodup_cons] at hnodup
      rcases List.mem_cons.mp h with rfl | hrest
      · exact List.find?_cons_of_pos (beq_self_eq_true _)
      · have hne : first.name ≠ charset.name := by
          intro heq
          rw [heq] at hnodup
          exact hnodup.1 (List.mem_map_of_mem hrest)
        rw [List.find?_cons_of_neg (by rw [beq_iff_eq]; exact hne)]
        exact ih hnodup.2 hrest

theorem named?_of_mem (charset : Charset) (h : charset ∈ all tables) :
    named? tables charset.name = some charset := by
  -- The names of the sets are the same for all tables.
  have hnames : (all tables).map Charset.name = (all .working).map Charset.name := rfl
  have hnodup : ((all .working).map Charset.name).Nodup := by decide +kernel
  exact find?_of_nodup (all tables) (hnames ▸ hnodup) charset h

/-- The set that is found by the name another announces. It announces that name
    too, and writes alike. -/
theorem exists_announced (charset : Charset) (h : charset ∈ all tables) :
    ∃ u ∈ all tables, u.name = charset.announced ∧ u.announced = charset.announced
      ∧ u.scheme = charset.scheme := by
  have hname := announced_eq charset h
  by_cases hunicode : charset.scheme.isUnicode = true
  · rw [if_pos hunicode] at hname
    exact ⟨plain "UTF-8" .unicode, List.mem_append_left _ List.mem_cons_self, hname.symm, hname.symm,
      (Scheme.eq_unicode_of_isUnicode _ hunicode).symm⟩
  · rw [if_neg hunicode] at hname
    exact ⟨charset, h, hname.symm, rfl, rfl⟩

/-- The sets that are read here, among those that are known. -/
theorem isReadable_of_mem (charset : Charset) (h : charset ∈ all tables)
    (hscheme : charset.scheme = .unicode ∨ ∃ upper, charset.scheme = .single upper) :
    charset.scheme.IsReadable := by
  have hlength := length_upperHalf_le charset h
  rcases hscheme with heq | ⟨upper, heq⟩
  · rw [heq]
    exact .unicode
  · rw [heq] at hlength ⊢
    exact .single upper hlength

end Charset

namespace FieldPart

variable {tables : MultiOctet.Tables}

-- A field looks at a set in these two respects and no other.
theorem textIn_congr (left right : Charset) (hannounced : left.announced = right.announced)
    (hscheme : left.scheme = right.scheme) (name value : String) :
    textIn left name value = textIn right name value := by
  unfold textIn Charset.encode
  rw [hannounced, hscheme]

/-- A field is read back: one line that announces the set, and the value. -/
theorem readPart?_textIn (charset : Charset) (h : charset ∈ Charset.all tables)
    (name value : String) :
    readPart? (textIn charset name value).result.chunks.flatten
      = some ⟨.ofNames name none, [charsetLine charset.announced],
        (textIn charset name value).result.value⟩ := by
  have hfront : Bytes.cr ∉ utf8 "text/plain; charset=" := by decide
  have hcr : Bytes.cr ∉ utf8 ("text/plain; charset=" ++ charset.announced) := by
    rw [utf8_append, List.mem_append, not_or]
    exact ⟨hfront, Charset.cr_not_mem_announced charset h⟩
  have hread := readPart?_headerBlock name none [charsetLine charset.announced]
    (textIn charset name value).result.value (Attached.contentType _ hcr).plain
  rw [← hread, chunks, List.flatten_cons, List.flatten_singleton]
  rfl

/-- The name that is read off a field is the one that was announced. -/
theorem eq_announced_of_readPart? (charset : Charset) (h : charset ∈ Charset.all tables)
    (name value label : String) (disposition : Disposition) (content : Bytes)
    (hread : readPart? (textIn charset name value).result.chunks.flatten
      = some ⟨disposition, [charsetLine label], content⟩) : label = charset.announced := by
  rw [readPart?_textIn charset h, Option.some.injEq, PartReading.mk.injEq] at hread
  have hline := (List.cons.inj hread.2.1).1
  have htext := Utf8.utf8_injective (HeaderLine.mk.inj hline).2
  exact ((String.append_right_inj _).mp htext).symm

/-- What a receiver makes of a text that is sent in a character set, if that set is
    written as UTF-8 or with one octet for each character, whatever tables the other
    sets have. The part has one header line, and it announces a set that is known by
    this name. Read in this set, the value is the text, but that each character the
    set does not represent is its decimal reference. The warning is raised just when
    there is such a character, and it names that set. Asking for that set in the
    first place gives the same part and the same warning. If it is UTF-8, the value
    is that of a plain text. -/
theorem textIn_announced (charset : Charset) (hknown : charset ∈ Charset.all tables)
    (hscheme : charset.scheme = .unicode ∨ ∃ upper, charset.scheme = .single upper)
    (name value : String) :
    let made := textIn charset name value
    ∃ u, Charset.named? tables u.name = some u
      ∧ readPart? made.result.chunks.flatten = some {
          disposition := .ofNames name none
          lines := [⟨utf8 "Content-Type", utf8 ("text/plain; charset=" ++ u.name)⟩]
          content := made.result.value }
      ∧ u.scheme.decode? made.result.value = some (value.toList.flatMap u.scheme.shown)
      ∧ (∀ c, u.scheme.Represents c → u.scheme.shown c = [c])
      ∧ (∀ c, ¬ u.scheme.Represents c →
          u.scheme.shown c = ("&#" ++ toString c.toNat ++ ";").toList)
      ∧ ((∃ c ∈ value.toList, ¬ u.scheme.Represents c) →
          made.events = [.unmappable name u.name])
      ∧ ((∀ c ∈ value.toList, u.scheme.Represents c) → made.events = [])
      ∧ textIn u name value = made
      ∧ (u.name = "UTF-8" → made.result.value = (text name value).value) := by
  intro made
  rcases Charset.exists_announced charset hknown with ⟨u, hmem, hname, hannounced, hsame⟩
  have hmade : textIn u name value = made := textIn_congr u charset hannounced hsame name value
  have hreadable : u.scheme.IsReadable := by
    rw [hsame]
    exact Charset.isReadable_of_mem charset hknown hscheme
  have hunmappable := Charset.Scheme.unmappable_encode_iff u.scheme hreadable value
  have hevents : made.events = if (u.scheme.encode value).unmappable then
      [.unmappable name u.name] else [] := by
    rw [← hmade, hname, ← hannounced]
    rfl
  refine ⟨u, Charset.named?_of_mem u hmem, ?_, ?_, Charset.Scheme.shown_of_represents _ hreadable,
    Charset.Scheme.shown_of_not_represents _ hreadable, ?_, ?_, hmade, ?_⟩
  · rw [readPart?_textIn charset hknown, hname]
    rfl
  · rw [← hmade]
    exact Charset.Scheme.decode?_encode u.scheme hreadable value
  · intro hmissing
    rw [hevents, if_pos (hunmappable.mpr hmissing)]
  · intro hall
    rw [hevents, if_neg]
    intro h
    rcases hunmappable.mp h with ⟨c, hc, hnot⟩
    exact hnot (hall c hc)
  · intro hutf8
    have hu : u = Charset.plain "UTF-8" .unicode := by
      have hfound := Charset.named?_of_mem u hmem
      rw [hutf8] at hfound
      exact (Option.some.inj hfound).symm
    rw [← hmade, hu]
    rfl

/-- The snowman is not in windows-1252. A receiver reads its reference, and is told
    the set to read it in. In UTF-16 it could be written, but the value is sent as
    UTF-8 and says so. -/
theorem textIn_announced_snowman :
    let legacy :=
      textIn (.plain "windows-1252" (.single SingleOctet.windows1252)) "a" "é€☃"
    let wide := textIn (.readOnly "UTF-16LE") "a" "é€☃"
    legacy.result.value = [0xE9, 0x80] ++ utf8 "&#9731;"
      ∧ legacy.events = [.unmappable "a" "windows-1252"]
      ∧ (∃ u, u.name = "windows-1252" ∧ Charset.named? .working u.name = some u
          ∧ u.scheme.decode? legacy.result.value = some "é€&#9731;".toList)
      ∧ (∃ u, u.name = "UTF-8" ∧ textIn u "a" "é€☃" = wide)
      ∧ wide.result.value = (text "a" "é€☃").value := by
  intro legacy wide
  have hlegacy :
      Charset.plain "windows-1252" (.single SingleOctet.windows1252) ∈ Charset.all .working :=
    List.mem_of_find?_eq_some (rfl : Charset.named? .working "windows-1252" = some _)
  have hwide : Charset.readOnly "UTF-16LE" ∈ Charset.all .working :=
    List.mem_of_find?_eq_some (rfl : Charset.named? .working "UTF-16LE" = some _)
  rcases textIn_announced _ hlegacy (Or.inr ⟨_, rfl⟩) "a" "é€☃" with
    ⟨u, hu, hread, hdecode, -⟩
  rcases textIn_announced _ hwide (Or.inl rfl) "a" "é€☃" with
    ⟨v, -, hread', -, -, -, -, -, hsame, hplain⟩
  have hname : u.name = "windows-1252" := eq_announced_of_readPart? _ hlegacy _ _ _ _ _ hread
  have hname' : v.name = "UTF-8" := eq_announced_of_readPart? _ hwide _ _ _ _ _ hread'
  refine ⟨by decide +kernel, by decide +kernel, ⟨u, hname, hu, ?_⟩, ⟨v, hname', hsame⟩,
    hplain hname'⟩
  rw [hname] at hu
  rw [hdecode, ← Option.some.inj hu]
  decide +kernel

end FieldPart

end FormData
