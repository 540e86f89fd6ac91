import FormData.Proofs.Ascii
import Mathlib.Tactic.IntervalCases

/-!
# Reading Text Back

Octets that were written for a text are read as that text, and whatever is read as
an ASCII character was one octet.

Reading takes any octets. The first octet of a sequence says how many are to come
and carries the highest bits, each further one carries six more, and some first
octets narrow the range of the second. What is written for a character always
fits: its first octet is followed by as many as it announces, and the second is
out of range only for numbers that are no character, or that have a shorter form
(`Reader.run_utf8EncodeChar`). So nothing of a text is lost (`pieces_utf8`), and two
texts with the same octets are the same text.

The same ranges keep a reader from making up a character. A sequence of two or
more octets stands for a number of 128 or more, also where the octets were not
written for a text (`Reader.Large`). A slash that is read was therefore there as an
octet, which is what a path that is shown as text relies on. Nor does reading make
anything vanish, since octets that encode nothing are shown too.

## Main definitions

* `Utf8.Reader.Large`: What is read so far leads to a number of 128 or more.

## Theorems

* `Utf8.Reader.run_utf8EncodeChar`: The octets of a character are read as it.
* `Utf8.pieces_utf8`: The octets of a text are read as its characters.
* `Utf8.utf8_injective`: Two texts with the same octets are the same.
* `Utf8.mem_of_mem_lossy`: An ASCII character that is read was an octet.
* `Utf8.lossy_ne_empty`: Reading octets gives some text.
-/

namespace FormData

namespace Utf8

namespace Reader

-- First octets by the bits they carry. Of three or four octets, the least bits
-- would allow for a shorter form and some others for no character at all, so the
-- second octet is held to a narrower range there.

theorem start_two (bits : Nat) (hlow : 2 ≤ bits) (hhigh : bits < 32) :
    start (UInt8.ofNat (bits + 192))
      = ([], some { missing := 1, value := bits, seen := [UInt8.ofNat (bits + 192)] }) := by
  interval_cases bits <;> rfl

theorem start_three (bits : Nat) (h : bits < 16) :
    start (UInt8.ofNat (bits + 224))
      = ([], some
          { missing := 2, value := bits, low := if bits = 0 then 0xA0 else 0x80,
            high := if bits = 13 then 0x9F else 0xBF, seen := [UInt8.ofNat (bits + 224)] }) := by
  interval_cases bits <;> rfl

theorem start_four (bits : Nat) (h : bits < 5) :
    start (UInt8.ofNat (bits + 240))
      = ([], some
          { missing := 3, value := bits, low := if bits = 0 then 0x90 else 0x80,
            high := if bits = 4 then 0x8F else 0xBF, seen := [UInt8.ofNat (bits + 240)] }) := by
  interval_cases bits <;> rfl

theorem run_cons (reader : Option Reader) (b : UInt8) (rest : Bytes) :
    run reader (b :: rest) = (feed reader b).1 ++ run (feed reader b).2 rest := by
  cases reader <;> rfl

/-- An octet in range carries six more bits. With the last one the character is
    there. -/
theorem run_more (r : Reader) (bits : Nat) (rest : Bytes) (hbits : bits < 64)
    (hlow : r.low.toNat ≤ bits + 128) (hhigh : bits + 128 ≤ r.high.toNat) :
    run (some r) (UInt8.ofNat (bits + 128) :: rest)
      = if r.missing ≤ 1 then .scalar (Char.ofNat (r.value * 64 + bits)) :: run none rest
        else run (some
          { missing := r.missing - 1, value := r.value * 64 + bits,
            seen := r.seen ++ [UInt8.ofNat (bits + 128)] }) rest := by
  have hoctet : (UInt8.ofNat (bits + 128)).toNat = bits + 128 :=
    UInt8.toNat_ofNat_of_lt' (by omega : bits + 128 < 256)
  have hfits : r.low ≤ UInt8.ofNat (bits + 128) ∧ UInt8.ofNat (bits + 128) ≤ r.high := by
    rw [UInt8.le_iff_toNat_le, UInt8.le_iff_toNat_le, hoctet]
    exact ⟨hlow, hhigh⟩
  have hmod : (bits + 128) % 64 = bits := by omega
  rw [run_cons]
  simp only [feed, if_pos hfits, hoctet, hmod]
  by_cases hlast : r.missing ≤ 1
  · simp only [if_pos hlast, List.singleton_append]
  · simp only [if_neg hlast, List.nil_append]

-- Behind the second octet every octet has the full range.

theorem run_last (value bits : Nat) (seen rest : Bytes) (hbits : bits < 64) :
    run (some { missing := 1, value, seen }) (UInt8.ofNat (bits + 128) :: rest)
      = .scalar (Char.ofNat (value * 64 + bits)) :: run none rest := by
  have hlow : (0x80 : UInt8).toNat = 128 := rfl
  have hhigh : (0xBF : UInt8).toNat = 191 := rfl
  rw [run_more _ bits rest hbits (by simp only [hlow]; omega) (by simp only [hhigh]; omega)]
  rfl

theorem run_last_two (value bits last : Nat) (seen rest : Bytes) (hbits : bits < 64)
    (hlast : last < 64) :
    run (some { missing := 2, value, seen })
        (UInt8.ofNat (bits + 128) :: UInt8.ofNat (last + 128) :: rest)
      = .scalar (Char.ofNat ((value * 64 + bits) * 64 + last)) :: run none rest := by
  have hlow : (0x80 : UInt8).toNat = 128 := rfl
  have hhigh : (0xBF : UInt8).toNat = 191 := rfl
  rw [run_more _ bits _ hbits (by simp only [hlow]; omega) (by simp only [hhigh]; omega),
    if_neg (by decide : ¬ 2 ≤ 1)]
  exact run_last _ last _ rest hlast

-- The second octet of three or four must not be one that the first one rules out.

theorem toNat_low_le (narrowed : Prop) [Decidable narrowed] (least : UInt8) (octet : Nat)
    (hleast : narrowed → least.toNat ≤ octet) (h : 128 ≤ octet) :
    (if narrowed then least else 0x80).toNat ≤ octet := by
  by_cases hn : narrowed
  · rw [if_pos hn]
    exact hleast hn
  · rw [if_neg hn]
    exact h

theorem le_toNat_high (narrowed : Prop) [Decidable narrowed] (greatest : UInt8) (octet : Nat)
    (hgreatest : narrowed → octet ≤ greatest.toNat) (h : octet ≤ 191) :
    octet ≤ (if narrowed then greatest else 0xBF).toNat := by
  by_cases hn : narrowed
  · rw [if_pos hn]
    exact hgreatest hn
  · rw [if_neg hn]
    exact h

theorem run_three (lead second third : Nat) (rest : Bytes) (hlead : lead < 16)
    (hsecond : second < 64) (hthird : third < 64) (hlow : lead = 0 → 32 ≤ second)
    (hhigh : lead = 13 → second < 32) :
    run none (UInt8.ofNat (lead + 224) :: UInt8.ofNat (second + 128)
        :: UInt8.ofNat (third + 128) :: rest)
      = .scalar (Char.ofNat ((lead * 64 + second) * 64 + third)) :: run none rest := by
  have hleast : lead = 0 → (0xA0 : UInt8).toNat ≤ second + 128 := fun h =>
    Nat.add_le_add_right (hlow h) 128
  have hgreatest : lead = 13 → second + 128 ≤ (0x9F : UInt8).toNat := fun h =>
    Nat.add_le_add_right (Nat.le_of_lt_succ (hhigh h)) 128
  rw [run_cons, feed, start_three lead hlead, List.nil_append,
    run_more _ second _ hsecond (toNat_low_le _ _ _ hleast (by omega))
      (le_toNat_high _ _ _ hgreatest (by omega)), if_neg (by decide : ¬ 2 ≤ 1)]
  exact run_last _ third _ rest hthird

theorem run_four (lead second third fourth : Nat) (rest : Bytes) (hlead : lead < 5)
    (hsecond : second < 64) (hthird : third < 64) (hfourth : fourth < 64)
    (hlow : lead = 0 → 16 ≤ second) (hhigh : lead = 4 → second < 16) :
    run none (UInt8.ofNat (lead + 240) :: UInt8.ofNat (second + 128)
        :: UInt8.ofNat (third + 128) :: UInt8.ofNat (fourth + 128) :: rest)
      = .scalar (Char.ofNat (((lead * 64 + second) * 64 + third) * 64 + fourth))
        :: run none rest := by
  have hleast : lead = 0 → (0x90 : UInt8).toNat ≤ second + 128 := fun h =>
    Nat.add_le_add_right (hlow h) 128
  have hgreatest : lead = 4 → second + 128 ≤ (0x8F : UInt8).toNat := fun h =>
    Nat.add_le_add_right (Nat.le_of_lt_succ (hhigh h)) 128
  rw [run_cons, feed, start_four lead hlead, List.nil_append,
    run_more _ second _ hsecond (toNat_low_le _ _ _ hleast (by omega))
      (le_toNat_high _ _ _ hgreatest (by omega)), if_neg (by decide : ¬ 3 ≤ 1)]
  exact run_last_two _ third fourth _ rest hthird hfourth

/-- The octets of a character are read as that character, whatever follows. The
    cases are the four lengths in which one is written. -/
theorem run_utf8EncodeChar (c : Char) (rest : Bytes) :
    run none (String.utf8EncodeChar c ++ rest) = .scalar c :: run none rest := by
  have hvalid : c.toNat < 55296 ∨ (57343 < c.toNat ∧ c.toNat < 1114112) := c.valid
  have hval : c.val.toNat = c.toNat := rfl
  -- The bits of the octets, put together, are the number of the character.
  have hchar : ∀ n, n = c.toNat → Char.ofNat n = c := by
    rintro n rfl
    exact c.ofNat_toNat
  by_cases hone : c.toNat ≤ 127
  · have hoctet : (UInt8.ofNat c.toNat).toNat = c.toNat :=
      UInt8.toNat_ofNat_of_lt' (by omega : c.toNat < 256)
    have hlt : UInt8.ofNat c.toNat < 0x80 := by
      rw [UInt8.lt_iff_toNat_lt, hoctet]
      exact Nat.lt_succ_of_le hone
    rw [utf8EncodeChar_of_ascii c hone, List.singleton_append, run_cons]
    simp only [feed, start, if_pos hlt, hoctet, c.ofNat_toNat, List.singleton_append]
  by_cases htwo : c.toNat ≤ 2047
  · simp only [String.utf8EncodeChar, hval, if_neg hone, if_pos htwo, List.cons_append,
      List.nil_append]
    rw [run_cons, feed, start_two _ (by omega) (by omega), List.nil_append,
      run_last _ _ _ _ (by omega), hchar _ (by omega)]
  by_cases hthree : c.toNat ≤ 65535
  · simp only [String.utf8EncodeChar, hval, if_neg hone, if_neg htwo, if_pos hthree,
      List.cons_append, List.nil_append]
    rw [run_three _ _ _ _ (by omega) (by omega) (by omega) (by omega) (by omega),
      hchar _ (by omega)]
  · simp only [String.utf8EncodeChar, hval, if_neg hone, if_neg htwo, if_neg hthree,
      List.cons_append, List.nil_append]
    rw [run_four _ _ _ _ _ (by omega) (by omega) (by omega) (by omega) (by omega) (by omega),
      hchar _ (by omega)]

/-- The octets of a text are read as its characters. -/
theorem run_flatMap (text : List Char) :
    run none (text.flatMap String.utf8EncodeChar) = text.map .scalar := by
  induction text with
  | nil => rfl
  | cons c rest ih => rw [List.flatMap_cons, run_utf8EncodeChar, ih, List.map_cons]

/-- What is read so far leads to a number of 128 or more, whatever comes. With the
    next octet the number is still 2 or more, and it goes up by a factor of 64 with
    the last. -/
structure Large (r : Reader) : Prop where
  low : 128 ≤ r.low.toNat
  high : r.high.toNat ≤ 191
  last : r.missing ≤ 1 → 2 ≤ r.value
  next : 2 ≤ r.value * 64 + (r.low.toNat - 128)

-- A number that is no character is taken for the null character.
theorem toNat_ofNat_cases (n : Nat) : (Char.ofNat n).toNat = n ∨ Char.ofNat n = Char.ofNat 0 := by
  by_cases hvalid : n.isValidChar
  · rw [Char.ofNat, dif_pos hvalid]
    exact Or.inl rfl
  · rw [Char.ofNat, dif_neg hvalid]
    exact Or.inr rfl

/-- A first octet is a character of its own if it is ASCII. Any other leads to a
    large number, or to none. The cases are those in which it is looked at, and each
    range has a least value of its own. -/
theorem start_cases (b : UInt8) :
    start b = ([.scalar (Char.ofNat b.toNat)], none)
    ∨ (∃ r : Reader, r.Large ∧ start b = ([], some r)) ∨ start b = ([.stray [b]], none) := by
  by_cases hascii : b < 0x80
  · exact Or.inl (by rw [start, if_pos hascii])
  by_cases htwo : 0xC2 ≤ b ∧ b ≤ 0xDF
  · have hfrom : 194 ≤ b.toNat := htwo.1
    have hto : b.toNat ≤ 223 := htwo.2
    rw [start, if_neg hascii, if_pos htwo]
    refine Or.inr (Or.inl ⟨_, ?_, rfl⟩)
    constructor <;> simp only [UInt8.reduceToNat] <;> omega
  by_cases he0 : b = 0xE0
  · rw [start, if_neg hascii, if_neg htwo, if_pos he0]
    refine Or.inr (Or.inl ⟨_, ?_, rfl⟩)
    constructor <;> simp only [UInt8.reduceToNat] <;> omega
  by_cases hed : b = 0xED
  · rw [start, if_neg hascii, if_neg htwo, if_neg he0, if_pos hed]
    refine Or.inr (Or.inl ⟨_, ?_, rfl⟩)
    constructor <;> simp only [UInt8.reduceToNat] <;> omega
  by_cases hthree : 0xE1 ≤ b ∧ b ≤ 0xEF
  · have hfrom : 225 ≤ b.toNat := hthree.1
    have hto : b.toNat ≤ 239 := hthree.2
    rw [start, if_neg hascii, if_neg htwo, if_neg he0, if_neg hed, if_pos hthree]
    refine Or.inr (Or.inl ⟨_, ?_, rfl⟩)
    constructor <;> simp only [UInt8.reduceToNat] <;> omega
  by_cases hf0 : b = 0xF0
  · rw [start, if_neg hascii, if_neg htwo, if_neg he0, if_neg hed, if_neg hthree, if_pos hf0]
    refine Or.inr (Or.inl ⟨_, ?_, rfl⟩)
    constructor <;> simp only [UInt8.reduceToNat] <;> omega
  by_cases hf4 : b = 0xF4
  · rw [start, if_neg hascii, if_neg htwo, if_neg he0, if_neg hed, if_neg hthree, if_neg hf0,
      if_pos hf4]
    refine Or.inr (Or.inl ⟨_, ?_, rfl⟩)
    constructor <;> simp only [UInt8.reduceToNat] <;> omega
  by_cases hfour : 0xF1 ≤ b ∧ b ≤ 0xF3
  · have hfrom : 241 ≤ b.toNat := hfour.1
    have hto : b.toNat ≤ 243 := hfour.2
    rw [start, if_neg hascii, if_neg htwo, if_neg he0, if_neg hed, if_neg hthree, if_neg hf0,
      if_neg hf4, if_pos hfour]
    refine Or.inr (Or.inl ⟨_, ?_, rfl⟩)
    constructor <;> simp only [UInt8.reduceToNat] <;> omega
  · refine Or.inr (Or.inr ?_)
    rw [start, if_neg hascii, if_neg htwo, if_neg he0, if_neg hed, if_neg hthree, if_neg hf0,
      if_neg hf4, if_neg hfour]

/-- An octet completes a character of 128 or more, or a null character for want of
    one, or is one more of those it takes. If it does not fit, a sequence begins
    with it. -/
theorem feed_cases (r : Reader) (h : r.Large) (b : UInt8) :
    (∃ c : Char, (128 ≤ c.toNat ∨ c = Char.ofNat 0) ∧ feed (some r) b = ([.scalar c], none))
    ∨ (∃ r' : Reader, r'.Large ∧ feed (some r) b = ([], some r'))
    ∨ feed (some r) b = (.stray r.seen :: (start b).1, (start b).2) := by
  rcases h with ⟨hlow, hhigh, hlast, hnext⟩
  by_cases hfits : r.low ≤ b ∧ b ≤ r.high
  · have hfrom := UInt8.le_iff_toNat_le.mp hfits.1
    have hto := UInt8.le_iff_toNat_le.mp hfits.2
    by_cases hmissing : r.missing ≤ 1
    · have hvalue := hlast hmissing
      rw [feed, if_pos hfits, if_pos hmissing]
      refine Or.inl ⟨_, ?_, rfl⟩
      rcases toNat_ofNat_cases (r.value * 64 + b.toNat % 64) with heq | hzero
      · exact Or.inl (by rw [heq]; omega)
      · exact Or.inr hzero
    · rw [feed, if_pos hfits, if_neg hmissing]
      refine Or.inr (Or.inl ⟨_, ?_, rfl⟩)
      constructor <;> simp only [UInt8.reduceToNat] <;> omega
  · exact Or.inr (Or.inr (by rw [feed, if_neg hfits]))

/-- What an octet leads to, of which only an ASCII character matters here. -/
theorem feed_large (reader : Option Reader) (hlarge : ∀ r, reader = some r → r.Large) (b : UInt8)
    (c : Char) (hascii : c.toNat < 128) (hnul : c ≠ Char.ofNat 0) :
    (.scalar c ∈ (feed reader b).1 → c = Char.ofNat b.toNat)
      ∧ ∀ r, (feed reader b).2 = some r → r.Large := by
  have hstart : (.scalar c ∈ (start b).1 → c = Char.ofNat b.toNat)
      ∧ ∀ r, (start b).2 = some r → r.Large := by
    rcases start_cases b with h | ⟨r, hr, h⟩ | h
    · simp only [h, List.mem_singleton, Piece.scalar.injEq, imp_self, reduceCtorEq, false_implies,
        implies_true, and_self]
    · simp only [h, List.not_mem_nil, false_implies, Option.some.injEq, forall_eq', hr, and_self]
    · simp only [h, List.mem_singleton, reduceCtorEq, false_implies, implies_true, and_self]
  cases reader with
  | none => exact hstart
  | some r =>
      rcases feed_cases r (hlarge r rfl) b with ⟨d, hd, h⟩ | ⟨r', hr', h⟩ | h
      · -- A character that takes several octets is not this one.
        have hne : c ≠ d := by
          rintro rfl
          exact hd.elim (Nat.not_le.mpr hascii) hnul
        simp only [h, List.mem_singleton, Piece.scalar.injEq, hne, reduceCtorEq, false_implies,
          implies_true, and_self]
      · simp only [h, List.not_mem_nil, false_implies, Option.some.injEq, forall_eq', hr',
          and_self]
      · simp only [h, List.mem_cons, reduceCtorEq, false_or]
        exact hstart

theorem mem_of_mem_run (bytes : Bytes) (reader : Option Reader)
    (hlarge : ∀ r, reader = some r → r.Large) (c : Char) (hascii : c.toNat < 128)
    (hnul : c ≠ Char.ofNat 0) (h : .scalar c ∈ run reader bytes) :
    UInt8.ofNat c.toNat ∈ bytes := by
  induction bytes generalizing reader with
  | nil =>
      cases reader with
      | none => cases h
      | some r =>
          rw [run, List.mem_singleton] at h
          cases h
  | cons b rest ih =>
      have hfeed := feed_large reader hlarge b c hascii hnul
      rw [run_cons, List.mem_append] at h
      rcases h with hhere | hlater
      · have hchar := hfeed.1 hhere
        rcases toNat_ofNat_cases b.toNat with heq | hzero
        · rw [hchar, heq, UInt8.ofNat_toNat]
          exact List.mem_cons_self
        · exact absurd (hchar.trans hzero) hnul
      · exact List.mem_cons_of_mem _ (ih _ hfeed.2 hlater)

/-- An octet leads to something that is shown, or to a sequence that will be. -/
theorem feed_progress (reader : Option Reader) (b : UInt8) (h : (feed reader b).1 = []) :
    ∃ r, (feed reader b).2 = some r := by
  cases reader with
  | none =>
      rcases start_cases b with heq | ⟨r, -, heq⟩ | heq
      · rw [feed, heq] at h
        cases h
      · exact ⟨r, by rw [feed, heq]⟩
      · rw [feed, heq] at h
        cases h
  | some r =>
      by_cases hfits : r.low ≤ b ∧ b ≤ r.high
      · by_cases hlast : r.missing ≤ 1
        · rw [feed, if_pos hfits, if_pos hlast] at h
          cases h
        · exact ⟨_, by rw [feed, if_pos hfits, if_neg hlast]⟩
      · rw [feed, if_neg hfits] at h
        cases h

theorem run_some_ne_nil (bytes : Bytes) (r : Reader) : run (some r) bytes ≠ [] := by
  induction bytes generalizing r with
  | nil => exact List.cons_ne_nil _ _
  | cons b rest ih =>
      intro h
      rw [run_cons, List.append_eq_nil_iff] at h
      rcases feed_progress (some r) b h.1 with ⟨r', hr'⟩
      rw [hr'] at h
      exact ih r' h.2

end Reader

theorem pieces_utf8 (text : String) : pieces (utf8 text) = text.toList.map .scalar :=
  Reader.run_flatMap text.toList

/-- A text is read back from its octets. -/
theorem lossy_utf8 (text : String) : lossy (utf8 text) = text := by
  have hchars : (text.toList.map Piece.scalar).map Piece.toChar = text.toList := by
    rw [List.map_map]
    exact List.map_id _
  rw [lossy, pieces_utf8, hchars, String.ofList_toList]

/-- Two texts with the same octets are the same. -/
theorem utf8_injective : Function.Injective utf8 := by
  intro left right h
  rw [← lossy_utf8 left, h, lossy_utf8]

theorem lossy_ne_empty (bytes : Bytes) (h : bytes ≠ []) : lossy bytes ≠ "" := by
  cases bytes with
  | nil => exact absurd rfl h
  | cons b rest =>
      intro hempty
      have hchars := congrArg String.toList hempty
      rw [lossy, String.toList_ofList, String.toList_empty, List.map_eq_nil_iff, pieces,
        Reader.run_cons, List.append_eq_nil_iff] at hchars
      rcases Reader.feed_progress none b hchars.1 with ⟨r, hr⟩
      rw [hr] at hchars
      exact Reader.run_some_ne_nil rest r hchars.2

/-- An ASCII character that is read was there as an octet. -/
theorem mem_of_mem_lossy (bytes : Bytes) (c : Char) (hascii : c.toNat < 128)
    (hnul : c ≠ Char.ofNat 0) (h : c ∈ (lossy bytes).toList) : UInt8.ofNat c.toNat ∈ bytes := by
  rw [lossy, String.toList_ofList] at h
  rcases List.mem_map.mp h with ⟨piece, hpiece, hc⟩
  cases piece with
  | scalar d =>
      rw [← hc] at hascii hnul ⊢
      exact Reader.mem_of_mem_run bytes none (fun r hr => by cases hr) d hascii hnul hpiece
  | stray seen =>
      -- The replacement is not ASCII.
      rw [← hc] at hascii
      exact absurd hascii (by decide : ¬ replacement.toNat < 128)

end Utf8

end FormData
