import FormData.Charset.Iso2022Jp
import FormData.Charset.SingleOctet

/-!
# Character Sets

The character sets a text field can be sent in.

A set has the name it is asked for by, and the name that is announced with
the value. They differ for three sets that are only ever read: a value asked
to be sent in one of them is sent as UTF-8 and says so.

How a set writes text is its `Scheme`. A set either writes all of Unicode, or
gives each character its own octets, or, in one case, carries state along.
Where a set lacks a character, a reference is written instead and the result
says that this happened (`Encoded.unmappable`). Giving the octets of each
character on its own is what makes the sets without state easy to reason
about: encoding is then a `flatMap`, and joined texts encode to the joined
octets.

The sets with more than one octet for some characters take their characters from
tables that are given along with the name (`MultiOctet.Tables`).

No byte order mark is written by any set.

## Main definitions

* `Charset`: A character set with its two names.
* `Charset.encode`: The octets of a text in a set.
* `Charset.fixed`, `Charset.tabled`: The sets that need no tables, and those
  that do.
* `Charset.all`: The sets that are known.
* `Charset.named?`: The set of exactly this name.
-/

namespace FormData

namespace Charset

/-- How a set writes text. -/
inductive Scheme where
  /-- All of Unicode, as UTF-8. -/
  | unicode
  /-- One octet for each character, given the upper half. -/
  | single (upper : List Nat)
  /-- One or more octets for each character, given the codes. -/
  | multi (codes : List (Char × Nat))
  /-- Alphabets that are switched between, given the codes of one of them. -/
  | switching (codes : List (Char × Nat))
  deriving Repr

/-- A text as a set writes it. -/
structure Encoded where
  bytes : Bytes
  /-- Whether a reference stands in for any character. -/
  unmappable : Bool
  deriving Repr, DecidableEq

namespace Scheme

/-- The octets of one character in a set that keeps no state. -/
def code? : Scheme → Char → Option Bytes
  | .unicode, c => some (String.utf8EncodeChar c)
  | .single upper, c => (SingleOctet.octet? upper c).map (fun b => [b])
  | .multi codes, c => MultiOctet.code? codes c
  | .switching _, _ => none

/-- Write a text character by character, with a reference for each one that
    has no octets. -/
def encodeEach (code : Char → Option Bytes) (text : List Char) : Encoded where
  bytes := text.flatMap (fun c => (code c).getD (characterReference c.toNat))
  unmappable := text.any (fun c => (code c).isNone)

/-- Write a text. -/
def encode : Scheme → String → Encoded
  | .switching codes, text =>
    let (bytes, unmappable) := Iso2022Jp.encode codes text.toList
    { bytes, unmappable }
  | scheme, text => encodeEach scheme.code? text.toList

end Scheme

end Charset

/-- A character set. -/
structure Charset where
  /-- The name it is asked for by. -/
  name : String
  /-- The name announced with a value. -/
  announced : String
  /-- How it writes text. -/
  scheme : Charset.Scheme
  deriving Repr

namespace Charset

/-- The octets of a text in this set. -/
def encode (charset : Charset) (text : String) : Encoded :=
  charset.scheme.encode text

/-- A set that announces its own name. -/
def plain (name : String) (scheme : Scheme) : Charset :=
  { name, announced := name, scheme }

/-- A set that is only read, and sent as UTF-8. -/
def readOnly (name : String) : Charset :=
  { name, announced := "UTF-8", scheme := .unicode }

/-- The sets that need no tables. -/
def fixed : List Charset :=
  [plain "UTF-8" .unicode,
   readOnly "UTF-16BE",
   readOnly "UTF-16LE",
   readOnly "replacement",
   plain "IBM866" (.single SingleOctet.ibm866),
   plain "ISO-8859-2" (.single SingleOctet.iso8859Part2),
   plain "ISO-8859-3" (.single SingleOctet.iso8859Part3),
   plain "ISO-8859-4" (.single SingleOctet.iso8859Part4),
   plain "ISO-8859-5" (.single SingleOctet.iso8859Part5),
   plain "ISO-8859-6" (.single SingleOctet.iso8859Part6),
   plain "ISO-8859-7" (.single SingleOctet.iso8859Part7),
   plain "ISO-8859-8" (.single SingleOctet.iso8859Part8),
   plain "ISO-8859-8-I" (.single SingleOctet.iso8859Part8),
   plain "ISO-8859-10" (.single SingleOctet.iso8859Part10),
   plain "ISO-8859-13" (.single SingleOctet.iso8859Part13),
   plain "ISO-8859-14" (.single SingleOctet.iso8859Part14),
   plain "ISO-8859-15" (.single SingleOctet.iso8859Part15),
   plain "ISO-8859-16" (.single SingleOctet.iso8859Part16),
   plain "KOI8-R" (.single SingleOctet.koi8R),
   plain "KOI8-U" (.single SingleOctet.koi8U),
   plain "macintosh" (.single SingleOctet.macintosh),
   plain "windows-874" (.single SingleOctet.windows874),
   plain "windows-1250" (.single SingleOctet.windows1250),
   plain "windows-1251" (.single SingleOctet.windows1251),
   plain "windows-1252" (.single SingleOctet.windows1252),
   plain "windows-1253" (.single SingleOctet.windows1253),
   plain "windows-1254" (.single SingleOctet.windows1254),
   plain "windows-1255" (.single SingleOctet.windows1255),
   plain "windows-1256" (.single SingleOctet.windows1256),
   plain "windows-1257" (.single SingleOctet.windows1257),
   plain "windows-1258" (.single SingleOctet.windows1258),
   plain "x-mac-cyrillic" (.single SingleOctet.macCyrillic),
   plain "x-user-defined" (.single SingleOctet.userDefined)]

/-- The sets that need tables. -/
def tabled (tables : MultiOctet.Tables) : List Charset :=
  [plain "Big5" (.multi tables.big5),
   plain "EUC-JP" (.multi tables.eucJp),
   plain "EUC-KR" (.multi tables.eucKr),
   plain "GBK" (.multi tables.gbk),
   plain "gb18030" (.multi tables.gb18030),
   plain "Shift_JIS" (.multi tables.shiftJis),
   plain "ISO-2022-JP" (.switching tables.iso2022Jp)]

/-- The sets that are known. -/
def all (tables : MultiOctet.Tables) : List Charset :=
  fixed ++ tabled tables

/-- The set of exactly this name; case counts. -/
def named? (tables : MultiOctet.Tables) (name : String) : Option Charset :=
  (all tables).find? (fun charset => charset.name == name)

end Charset

end FormData
