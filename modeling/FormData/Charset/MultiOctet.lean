import FormData.Bytes

/-!
# Multi-Octet Character Sets

The character sets that spend one, two or four octets on a character.

ASCII is written as it is in all of them, the backslash and the tilde
included. Beyond ASCII a set is a list of characters with their codes, a code
being the number its octets spell when read from the most significant one. A
character outside the list is one the set lacks.

The published lists are long, and nothing that is said about these sets depends
on what is in them. So they are a parameter (`Tables`): whoever asks for a text
in such a set says which lists to use. A working repertoire is at hand
(`Tables.working`), which holds the characters on which the sets differ in
instructive ways, such as those that share a code with an ASCII character, those
that only one set has, and those that take one, two or four octets.

## Main definitions

* `MultiOctet.octets`: The octets of a code.
* `MultiOctet.code?`: The octets of a character in a set, if it has any.
* `MultiOctet.Tables`: The lists of all these sets.
* `MultiOctet.Tables.working`: A working repertoire.
-/

namespace FormData

namespace MultiOctet

/-- The octets of a code, most significant first. -/
def octets (code : Nat) : Bytes :=
  if code < 0x100 then [UInt8.ofNat code]
  else if code < 0x10000 then [UInt8.ofNat (code / 0x100), UInt8.ofNat code]
  else [UInt8.ofNat (code / 0x1000000), UInt8.ofNat (code / 0x10000),
    UInt8.ofNat (code / 0x100), UInt8.ofNat code]

/-- The octets of a character, given the list of a set. -/
def code? (codes : List (Char × Nat)) (c : Char) : Option Bytes :=
  if c.toNat < 128 then some [UInt8.ofNat c.toNat]
  else (codes.lookup c).map octets

/-- The characters of each set beyond ASCII, with their codes. -/
structure Tables where
  big5 : List (Char × Nat)
  eucJp : List (Char × Nat)
  eucKr : List (Char × Nat)
  gbk : List (Char × Nat)
  gb18030 : List (Char × Nat)
  shiftJis : List (Char × Nat)
  /-- The double-octet alphabet of ISO-2022-JP. -/
  iso2022Jp : List (Char × Nat)
  deriving Repr

/-- A working repertoire. -/
def Tables.working : Tables where
  big5 :=
    [('日', 0xA4E9), ('本', 0xA5BB), ('語', 0xBB79), ('中', 0xA4A4), ('文', 0xA4E5),
     ('テ', 0xC7C2), ('ス', 0xC7B5), ('ト', 0xC7C4), ('愛', 0xB752), ('あ', 0xC6E8),
     ('ア', 0xC77C), ('€', 0xA3E1), ('～', 0xA1E3), ('①', 0xC6A1), ('啊', 0xB0DA)]
  eucJp :=
    [('日', 0xC6FC), ('本', 0xCBDC), ('語', 0xB8EC), ('中', 0xC3E6), ('文', 0xCAB8),
     ('テ', 0xA5C6), ('ス', 0xA5B9), ('ト', 0xA5C8), ('愛', 0xB0A6), ('あ', 0xA4A2),
     ('ア', 0xA5A2), ('ｱ', 0x8EB1), ('¥', 0x5C), ('‾', 0x7E), ('−', 0xA1DD),
     ('～', 0xA1C1), ('①', 0xADA1), ('髙', 0xFCE2)]
  eucKr :=
    [('日', 0xECED), ('本', 0xDCE2), ('語', 0xE5DE), ('中', 0xF1E9), ('文', 0xD9FE),
     ('テ', 0xABC6), ('ス', 0xABB9), ('ト', 0xABC8), ('愛', 0xE4F1), ('あ', 0xAAA2),
     ('ア', 0xABA2), ('한', 0xC7D1), ('국', 0xB1B9), ('어', 0xBEEE), ('€', 0xA2E6),
     ('～', 0xA2A6), ('①', 0xA8E7)]
  gbk :=
    [('日', 0xC8D5), ('本', 0xB1BE), ('語', 0xD55A), ('中', 0xD6D0), ('文', 0xCEC4),
     ('テ', 0xA5C6), ('ス', 0xA5B9), ('ト', 0xA5C8), ('愛', 0x90DB), ('あ', 0xA4A2),
     ('ア', 0xA5A2), ('€', 0x80), ('～', 0xA1AB), ('é', 0xA8A6), ('①', 0xA2D9),
     ('髙', 0xF37B), ('啊', 0xB0A1), ('丂', 0x8140)]
  gb18030 :=
    [('日', 0xC8D5), ('本', 0xB1BE), ('語', 0xD55A), ('中', 0xD6D0), ('文', 0xCEC4),
     ('テ', 0xA5C6), ('ス', 0xA5B9), ('ト', 0xA5C8), ('愛', 0x90DB), ('あ', 0xA4A2),
     ('ア', 0xA5A2), ('한', 0x83368433), ('국', 0x8237F430), ('어', 0x8332EB35),
     ('ｱ', 0x84319733), ('¥', 0x81308436), ('‾', 0x8136A832), ('−', 0x8136D331),
     ('€', 0xA2E3), ('〜', 0x8139A431), ('～', 0xA1AB), ('é', 0xA8A6), ('①', 0xA2D9),
     ('髙', 0xF37B), ('啊', 0xB0A1), ('丂', 0x8140), ('𠮷', 0x9534B235),
     ('☃', 0x8137A330), ('😀', 0x9439FC36)]
  shiftJis :=
    [('日', 0x93FA), ('本', 0x967B), ('語', 0x8CEA), ('中', 0x9286), ('文', 0x95B6),
     ('テ', 0x8365), ('ス', 0x8358), ('ト', 0x8367), ('愛', 0x88A4), ('あ', 0x82A0),
     ('ア', 0x8341), ('ｱ', 0xB1), ('¥', 0x5C), ('‾', 0x7E), ('−', 0x817C),
     ('～', 0x8160), ('①', 0x8740), ('髙', 0xFBFC)]
  iso2022Jp :=
    [('日', 0x467C), ('本', 0x4B5C), ('語', 0x386C), ('中', 0x4366), ('文', 0x4A38),
     ('テ', 0x2546), ('ス', 0x2539), ('ト', 0x2548), ('愛', 0x3026), ('あ', 0x2422),
     ('ア', 0x2522), ('ｱ', 0x2522), ('−', 0x215D), ('～', 0x2141), ('①', 0x2D21),
     ('髙', 0x7C62)]

end MultiOctet

end FormData
