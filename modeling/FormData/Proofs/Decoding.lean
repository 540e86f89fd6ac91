import FormData.Charset
import FormData.Proofs.TextReader

/-!
# Reading a Character Set

What octets written in a character set are read as.

A receiver reads a value in the set it is told. For UTF-8 that is reading text
strictly, and for a set that spends one octet on a character it is looking each
octet up. So what a set can represent is a question about reading. There are
octets that are read as this character, or there are none (`Scheme.Represents`).
No byte order mark is looked for, since none is written, and one that is part of a
text is a character like any other.

Writing looks a number up in the table that reading takes it from, so each
character that has an octet is read back from it (`SingleOctet.char?_octet?`). This
needs that a table has no more than 128 places, or octets would be given out twice.
A character is written as a reference just when nothing is read as it
(`Scheme.isSome_code?_iff`), and a reference is ASCII, which all these sets read
alike. Since each character is written on its own, a text is read as its
characters, with the references spelled out (`Scheme.decode?_encode`).

## Main definitions

* `SingleOctet.char?`: The character an octet stands for.
* `Charset.Scheme.IsReadable`: All of Unicode, or one octet for each character.
* `Charset.Scheme.decode?`: Reading octets in such a set.
* `Charset.Scheme.Represents`: Some octets are read as this character.
* `Charset.Scheme.shown`: What a character is read as.

## Theorems

* `SingleOctet.char?_octet?`: A character is read back from its octet.
* `Charset.Scheme.isSome_code?_iff`: What has octets is what is represented.
* `Charset.Scheme.decode?_encode`: A text is read back.
-/

namespace FormData

section MapM

variable {α β γ : Type} (read : β → Option γ)

/-- What is written piece by piece is read piece by piece. -/
theorem mapM_flatMap (write : α → List β) (shown : α → List γ) (list : List α)
    (h : ∀ x ∈ list, (write x).mapM read = some (shown x)) :
    (list.flatMap write).mapM read = some (list.flatMap shown) := by
  induction list with
  | nil => rfl
  | cons x rest ih =>
      have hrest := ih fun y hy => h y (List.mem_cons_of_mem _ hy)
      rw [List.flatMap_cons, List.flatMap_cons, List.mapM_append, h x List.mem_cons_self, hrest]
      rfl

theorem mapM_singleton (x : β) : [x].mapM read = (read x).map fun y => [y] := by
  rw [List.mapM_cons, List.mapM_nil]
  cases read x <;> rfl

end MapM

/-- The character of a piece, if the octets encode one. -/
def Utf8.Piece.scalar? : Utf8.Piece → Option Char
  | .scalar c => some c
  | .stray _ => none

namespace SingleOctet

/-- The character that an octet stands for, given the upper half of the set. -/
def char? (upper : List Nat) (b : UInt8) : Option Char :=
  if b.toNat < 128 then some (Char.ofNat b.toNat)
  else upper[b.toNat - 128]?.bind fun n => if n = 0 then none else some (Char.ofNat n)

theorem char?_of_ascii (upper : List Nat) (c : Char) (h : c.toNat < 128) :
    char? upper (UInt8.ofNat c.toNat) = some c := by
  have hoctet : (UInt8.ofNat c.toNat).toNat = c.toNat :=
    UInt8.toNat_ofNat_of_lt' (by omega : c.toNat < 256)
  rw [char?, hoctet, if_pos h, c.ofNat_toNat]

/-- A character is read back from its octet, if the octets do not run out. -/
theorem char?_octet? (upper : List Nat) (hlength : upper.length ≤ 128) (c : Char) (b : UInt8)
    (h : octet? upper c = some b) : char? upper b = some c := by
  by_cases hascii : c.toNat < 128
  · rw [octet?_of_ascii upper c hascii, Option.some.injEq] at h
    rw [← h]
    exact char?_of_ascii upper c hascii
  · rw [octet?, if_neg hascii] at h
    rcases Option.map_eq_some_iff.mp h with ⟨i, hfound, rfl⟩
    rcases List.idxOf?_eq_some_iff.mp hfound with ⟨hi, hplace, -⟩
    have hoctet : (UInt8.ofNat (128 + i)).toNat = 128 + i :=
      UInt8.toNat_ofNat_of_lt' (by omega : 128 + i < 256)
    have hhalf : ¬ 128 + i < 128 := by omega
    have hnonzero : ¬ c.toNat = 0 := by omega
    rw [char?, hoctet, if_neg hhalf, Nat.add_sub_cancel_left, List.getElem?_eq_getElem hi, hplace,
      Option.bind_some, if_neg hnonzero, c.ofNat_toNat]

/-- A character that is read has an octet. -/
theorem isSome_octet? (upper : List Nat) (b : UInt8) (c : Char) (h : char? upper b = some c) :
    (octet? upper c).isSome = true := by
  by_cases hascii : c.toNat < 128
  · rw [octet?_of_ascii upper c hascii]
    rfl
  · -- Neither an ASCII octet nor a number that is no character is read as this one.
    have hnul : c ≠ Char.ofNat 0 := by
      rintro rfl
      exact hascii (by decide)
    have hnumber : ∀ n, Char.ofNat n = c → c.toNat = n := by
      rintro n rfl
      exact (Utf8.Reader.toNat_ofNat_cases n).resolve_right hnul
    rw [octet?, if_neg hascii, Option.isSome_map, List.isSome_idxOf?]
    rw [char?] at h
    by_cases hhalf : b.toNat < 128
    · rw [if_pos hhalf, Option.some.injEq] at h
      rw [hnumber _ h] at hascii
      exact absurd hhalf hascii
    · rw [if_neg hhalf] at h
      rcases Option.bind_eq_some_iff.mp h with ⟨n, hplace, hread⟩
      by_cases hzero : n = 0
      · rw [if_pos hzero] at hread
        cases hread
      · rw [if_neg hzero, Option.some.injEq] at hread
        rw [hnumber n hread]
        exact List.mem_of_getElem? hplace

/-- ASCII is read as it is. -/
theorem mapM_char?_utf8 (upper : List Nat) (text : String)
    (h : ∀ c ∈ text.toList, c.toNat < 128) :
    (utf8 text).mapM (char? upper) = some text.toList := by
  have hread := mapM_flatMap (char? upper) String.utf8EncodeChar (fun c => [c]) text.toList
    fun c hc => by
      rw [utf8EncodeChar_of_ascii c (Nat.le_of_lt_succ (h c hc)), mapM_singleton,
        char?_of_ascii upper c (h c hc), Option.map_some]
  rw [List.flatMap_singleton'] at hread
  exact hread

end SingleOctet

/-- A reference is ASCII. -/
theorem toNat_lt_of_mem_reference (n : Nat) (c : Char)
    (h : c ∈ ("&#" ++ toString n ++ ";").toList) : c.toNat < 128 := by
  simp only [String.toList_append, List.mem_append] at h
  rcases h with (h | h) | h
  · have hfront : "&#".toList.all (fun c => decide (c.toNat < 128)) = true := rfl
    exact of_decide_eq_true (List.all_eq_true.mp hfront c h)
  · rw [Nat.toString_eq_ofList_toDigits, String.toList_ofList] at h
    have hdigit := Nat.isDigit_of_mem_toDigits (by decide) (by decide) h
    rw [Char.isDigit, Bool.and_eq_true, decide_eq_true_eq, decide_eq_true_eq] at hdigit
    exact Nat.lt_of_le_of_lt hdigit.2 (by decide)
  · have hback : ";".toList.all (fun c => decide (c.toNat < 128)) = true := rfl
    exact of_decide_eq_true (List.all_eq_true.mp hback c h)

namespace Charset.Scheme

/-- A set that is read here. It writes all of Unicode, or gives each character one
    octet. -/
inductive IsReadable : Scheme → Prop where
  | unicode : IsReadable .unicode
  | single (upper : List Nat) (length : upper.length ≤ 128) : IsReadable (.single upper)

/-- Read octets in a set that writes all of Unicode or gives each character one
    octet. Nothing is read in another set. -/
def decode? : Scheme → Bytes → Option (List Char)
  | .unicode, bytes => (Utf8.pieces bytes).mapM Utf8.Piece.scalar?
  | .single upper, bytes => bytes.mapM (SingleOctet.char? upper)
  | .multi _, _ | .switching _, _ => none

/-- Some octets are read as this character. -/
def Represents (scheme : Scheme) (c : Char) : Prop :=
  ∃ octets, scheme.decode? octets = some [c]

/-- What a character is read as once it is written: itself, or the characters of a
    reference where it has no octets. -/
def shown (scheme : Scheme) (c : Char) : List Char :=
  if (scheme.code? c).isSome then [c] else ("&#" ++ toString c.toNat ++ ";").toList

theorem decode?_unicode (text : List Char) :
    decode? .unicode (text.flatMap String.utf8EncodeChar) = some text := by
  have hread := mapM_flatMap Utf8.Piece.scalar? (fun c => [.scalar c]) (fun c => [c]) text
    fun _ _ => rfl
  rw [List.flatMap_singleton'] at hread
  rw [decode?, Utf8.pieces, Utf8.Reader.run_flatMap, List.map_eq_flatMap]
  exact hread

/-- The octets of a character are read as that character. -/
theorem decode?_of_code? (scheme : Scheme) (hreadable : scheme.IsReadable) (c : Char)
    (octets : Bytes) (h : scheme.code? c = some octets) : scheme.decode? octets = some [c] := by
  cases hreadable with
  | unicode =>
      have hread := decode?_unicode [c]
      rw [List.flatMap_singleton, Option.some.inj h] at hread
      exact hread
  | single upper hlength =>
      rcases Option.map_eq_some_iff.mp h with ⟨b, hb, rfl⟩
      rw [decode?, mapM_singleton, SingleOctet.char?_octet? upper hlength c b hb, Option.map_some]

/-- A character has octets just when some octets are read as it. -/
theorem isSome_code?_iff (scheme : Scheme) (hreadable : scheme.IsReadable) (c : Char) :
    (scheme.code? c).isSome = true ↔ scheme.Represents c := by
  constructor
  · intro hsome
    rcases Option.isSome_iff_exists.mp hsome with ⟨octets, hcode⟩
    exact ⟨octets, decode?_of_code? scheme hreadable c octets hcode⟩
  · rintro ⟨octets, hread⟩
    cases hreadable with
    | unicode => rfl
    | single upper _ =>
        rw [code?, Option.isSome_map]
        rw [decode?] at hread
        rcases octets with _ | ⟨b, rest⟩
        · cases hread
        · -- The first octet is read as the one character there is.
          rw [List.mapM_cons] at hread
          rcases Option.bind_eq_some_iff.mp hread with ⟨d, hd, htail⟩
          rcases Option.bind_eq_some_iff.mp htail with ⟨ds, -, hlist⟩
          cases hlist
          exact SingleOctet.isSome_octet? upper b c hd

/-- A text is read back, with references for what has no octets. -/
theorem decode?_encode (scheme : Scheme) (hreadable : scheme.IsReadable) (text : String) :
    scheme.decode? (scheme.encode text).bytes = some (text.toList.flatMap scheme.shown) := by
  cases hreadable with
  | unicode =>
      have hshown : shown .unicode = fun c => [c] := funext fun _ => if_pos rfl
      rw [hshown, List.flatMap_singleton']
      exact decode?_unicode text.toList
  | single upper hlength =>
      refine mapM_flatMap _ _ _ text.toList fun c _ => ?_
      rcases hcode : code? (.single upper) c with _ | octets
      · rw [Option.getD_none, shown, hcode, if_neg (by decide)]
        exact SingleOctet.mapM_char?_utf8 upper _ fun d => toNat_lt_of_mem_reference c.toNat d
      · rw [Option.getD_some, shown, hcode, if_pos Option.isSome_some]
        exact decode?_of_code? _ (.single upper hlength) c octets hcode

/-- Something has no octets just when something is not represented. -/
theorem unmappable_encode_iff (scheme : Scheme) (hreadable : scheme.IsReadable) (text : String) :
    (scheme.encode text).unmappable = true ↔ ∃ c ∈ text.toList, ¬ scheme.Represents c := by
  have hany : (scheme.encode text).unmappable
      = text.toList.any fun c => (scheme.code? c).isNone := by
    cases hreadable <;> rfl
  rw [hany, List.any_eq_true]
  refine exists_congr fun c => and_congr_right fun _ => ?_
  rw [← isSome_code?_iff scheme hreadable c, Option.isNone_iff_eq_none, Option.isSome_iff_ne_none,
    not_not]

theorem shown_of_represents (scheme : Scheme) (hreadable : scheme.IsReadable) (c : Char)
    (h : scheme.Represents c) : scheme.shown c = [c] :=
  if_pos ((isSome_code?_iff scheme hreadable c).mpr h)

theorem shown_of_not_represents (scheme : Scheme) (hreadable : scheme.IsReadable) (c : Char)
    (h : ¬ scheme.Represents c) :
    scheme.shown c = ("&#" ++ toString c.toNat ++ ";").toList :=
  if_neg fun hsome => h ((isSome_code?_iff scheme hreadable c).mp hsome)

end Charset.Scheme

end FormData
