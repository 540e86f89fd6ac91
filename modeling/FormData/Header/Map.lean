import FormData.Header.Block

/-!
# Header Maps

The headers a caller attaches to a part.

Names are compared without regard to case and are kept in lower case. A name
is one or more octets of the header grammar, no more than a 16-bit count of
them; a value is any octets but the controls, the tab excepted. Both types
carry that fact, so a header line can never contain a line ending and the
block it stands in can always be read back.

The map is a list of slots, one for each name in the order of first
appearance, each with its values in the order they were added. Adding to a
name that is present keeps its slot. Removing a name moves the last slot into
the place it leaves, which is what keeps removal from shifting everything
behind it; the order in which the lines are written shows it.

Headers reach the library as a list of edits on octets. `HeaderMap.ofEdits?`
applies them in order and stops at the first name or value that is not
acceptable, the name of an edit being looked at before its value.

## Main definitions

* `HeaderName`, `HeaderValue`: Acceptable names and values.
* `HeaderMap`: Slots of values by name.
* `HeaderMap.insert`, `append`, `remove`: The three edits.
* `HeaderMap.lines`: The header lines in the order they are written.
* `HeaderMap.ofEdits?`: The map a list of edits builds, or what is wrong with
  the first bad edit.

## Theorems

* `HeaderName.bytes_ne_nil`: A name is not empty.
* `HeaderName.not_mem`: A name holds no line ending and no colon.
* `HeaderValue.not_mem`: A value holds no line ending.
-/

namespace FormData

/-- Whether an octet may stand in a header name. Upper-case letters may be
    given and are kept in lower case. -/
def isNameOctet (b : UInt8) : Bool :=
  (48 ≤ b && b ≤ 57) || (65 ≤ b && b ≤ 90) || (97 ≤ b && b ≤ 122)
    || (utf8 "!#$%&'*+-.^_|~").contains b || b == 96

/-- Whether an octet may stand in a header value. -/
def isValueOctet (b : UInt8) : Bool :=
  (32 ≤ b || b == 9) && b != 127

/-- The lower-case form of an octet. -/
def lowerOctet (b : UInt8) : UInt8 :=
  if 65 ≤ b ∧ b ≤ 90 then b + 32 else b

/-- An octet of a name is one still when it is put in lower case. -/
theorem isNameOctet_lowerOctet (b : UInt8) (h : isNameOctet b = true) :
    isNameOctet (lowerOctet b) = true := by
  have table : ∀ n : Nat, n < 256 → isNameOctet (UInt8.ofNat n) = true →
      isNameOctet (lowerOctet (UInt8.ofNat n)) = true := by
    decide +kernel
  have hb := table b.toNat b.toNat_lt_size
  rw [UInt8.ofNat_toNat] at hb
  exact hb h

/-- The greatest number of octets in a header name. -/
def HeaderName.maxLength : Nat := 65535

/-- A header name in lower case. -/
structure HeaderName where
  bytes : Bytes
  /-- There is at least one octet, there are not too many, and each is one a
      name may hold. -/
  valid : bytes ≠ [] ∧ bytes.length ≤ HeaderName.maxLength ∧ bytes.all isNameOctet = true
  deriving DecidableEq

namespace HeaderName

/-- The name that octets spell, in lower case. -/
def ofBytes? (raw : Bytes) : Option HeaderName :=
  if h : raw ≠ [] ∧ raw.length ≤ maxLength ∧ raw.all isNameOctet = true then
    some {
      bytes := raw.map lowerOctet
      valid := by
        refine ⟨fun hnil => h.1 (List.map_eq_nil_iff.mp hnil), ?_, ?_⟩
        · rw [List.length_map]
          exact h.2.1
        · rw [List.all_eq_true]
          intro b hb
          rcases List.mem_map.mp hb with ⟨a, ha, rfl⟩
          exact isNameOctet_lowerOctet a (List.all_eq_true.mp h.2.2 a ha) }
  else none

theorem bytes_ne_nil (name : HeaderName) : name.bytes ≠ [] :=
  name.valid.1

/-- A name holds no octet that would end it or its line. -/
theorem not_mem (name : HeaderName) (b : UInt8) (h : isNameOctet b = false) :
    b ∉ name.bytes := by
  intro hb
  rw [List.all_eq_true.mp name.valid.2.2 b hb] at h
  exact absurd h (by simp only [reduceCtorEq, not_false_eq_true])

end HeaderName

/-- A header value. Nothing is trimmed from it. -/
structure HeaderValue where
  bytes : Bytes
  /-- Each octet is one a value may hold. -/
  valid : bytes.all isValueOctet = true
  deriving DecidableEq

namespace HeaderValue

/-- The value that octets spell. -/
def ofBytes? (raw : Bytes) : Option HeaderValue :=
  if h : raw.all isValueOctet = true then some ⟨raw, h⟩ else none

/-- A value holds no control, and so no line ending. -/
theorem not_mem (value : HeaderValue) (b : UInt8) (h : isValueOctet b = false) :
    b ∉ value.bytes := by
  intro hb
  rw [List.all_eq_true.mp value.valid b hb] at h
  exact absurd h (by simp only [reduceCtorEq, not_false_eq_true])

end HeaderValue

/-- A name with its values, in the order they were added. -/
structure HeaderSlot where
  name : HeaderName
  values : List HeaderValue
  deriving DecidableEq

/-- The headers attached to a part, one slot for each name. -/
structure HeaderMap where
  slots : List HeaderSlot
  deriving DecidableEq

/-- One edit of a header map, its name and value not yet looked at. -/
inductive HeaderEdit where
  | insert (name value : Bytes)
  | append (name value : Bytes)
  | remove (name : Bytes)
  deriving Repr, DecidableEq

/-- What is wrong with an edit. -/
inductive HeaderFlaw where
  | name
  | value
  deriving Repr, DecidableEq

namespace HeaderFlaw

/-- The wording of a flaw. -/
def reason : HeaderFlaw → String
  | .name => "invalid HTTP header name"
  | .value => "failed to parse header value"

end HeaderFlaw

namespace HeaderMap

/-- The map with no headers. -/
def empty : HeaderMap := ⟨[]⟩

/-- Whether a name has a slot. -/
def contains (map : HeaderMap) (name : HeaderName) : Bool :=
  map.slots.any (fun slot => slot.name == name)

/-- Change the values of a name. A name that has no slot gets one behind the
    others, its values changed from none. -/
def update (map : HeaderMap) (name : HeaderName)
    (change : List HeaderValue → List HeaderValue) : HeaderMap :=
  if map.contains name then
    ⟨map.slots.map fun slot =>
      if slot.name = name then { slot with values := change slot.values } else slot⟩
  else
    ⟨map.slots ++ [⟨name, change []⟩]⟩

/-- Give a name this value and no other. -/
def insert (map : HeaderMap) (name : HeaderName) (value : HeaderValue) : HeaderMap :=
  map.update name (fun _ => [value])

/-- Add a value behind those a name has. -/
def append (map : HeaderMap) (name : HeaderName) (value : HeaderValue) : HeaderMap :=
  map.update name (fun values => values ++ [value])

/-- Drop a name and its values. The last slot takes the place it leaves. -/
def remove (map : HeaderMap) (name : HeaderName) : HeaderMap :=
  match map.slots.findIdx? (fun slot => slot.name == name), map.slots.getLast? with
  | some i, some last => ⟨(map.slots.set i last).dropLast⟩
  | _, _ => map

/-- The header lines in the order they are written: slot by slot, and within a
    slot value by value. -/
def lines (map : HeaderMap) : List HeaderLine :=
  map.slots.flatMap fun slot =>
    slot.values.map fun value => ⟨slot.name.bytes, value.bytes⟩

/-- The name of an edit, if it is acceptable. -/
def checkName (raw : Bytes) : Except HeaderFlaw HeaderName :=
  match HeaderName.ofBytes? raw with
  | some name => .ok name
  | none => .error .name

/-- The value of an edit, if it is acceptable. -/
def checkValue (raw : Bytes) : Except HeaderFlaw HeaderValue :=
  match HeaderValue.ofBytes? raw with
  | some value => .ok value
  | none => .error .value

/-- Apply one edit. -/
def edit (map : HeaderMap) : HeaderEdit → Except HeaderFlaw HeaderMap
  | .insert name value => do
    let name ← checkName name
    let value ← checkValue value
    return map.insert name value
  | .append name value => do
    let name ← checkName name
    let value ← checkValue value
    return map.append name value
  | .remove name => do
    let name ← checkName name
    return map.remove name

/-- The map that a list of edits builds from the empty one. -/
def ofEdits? (edits : List HeaderEdit) : Except HeaderFlaw HeaderMap :=
  edits.foldlM edit empty

end HeaderMap

end FormData
