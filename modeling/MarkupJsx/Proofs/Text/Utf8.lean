/-
  MarkupJsx.Proofs.Text.Utf8 — texts and bytes are each other's inverse.

  Rule. The first byte of a character says how many bytes follow and in which range each of
  them lies; every byte that follows brings six bits (`follow_eq_ok_iff`). The bytes of a
  character have this form (`lead?_encodeChar`), and whatever has it is the bytes of one
  character (`exists_of_lead?`): the ranges leave out the overlong forms, the halves of
  pairs and what lies above the last code point.

  `decode_eq_ok_iff`: bytes are read as a text if and only if they are that text as written,
  and a text is written as UTF-8 wants it (`encode_eq`).
-/

import Mathlib.Data.List.Forall2
import MarkupJsx.Proofs.Text.Lowercase
import MarkupJsx.Text.Utf8

namespace MarkupJsx.Text.Utf8

variable {code n bits : Nat} {ranges : List (Nat × Nat)} {b : UInt8} {bs s rest : Bytes}

/-! ## Bytes behind a first one -/

/-- There is one byte for each range, and it lies in it. -/
def Fits (ranges : List (Nat × Nat)) (bs : Bytes) : Prop :=
  List.Forall₂ (fun r b => r.1 ≤ b.toNat ∧ b.toNat ≤ r.2) ranges bs

/-- A code with the bits of more bytes behind it. -/
def continued (code : Nat) (bs : Bytes) : Nat := bs.foldl (fun n b => n * 64 + (b.toNat - 0x80)) code

theorem continued_cons (code : Nat) (b : UInt8) (bs : Bytes) :
    continued code (b :: bs) = continued (code * 64 + (b.toNat - 0x80)) bs := by
  unfold continued
  rw [List.foldl_cons]

theorem follow_eq_ok_iff :
    follow code ranges s = .ok (n, rest) ↔ ∃ bs, s = bs ++ rest ∧ Fits ranges bs ∧ n = continued code bs := by
  induction ranges generalizing code s with
  | nil =>
    simp only [follow, Except.ok.injEq, Prod.mk.injEq, Fits, List.forall₂_nil_left_iff]
    constructor
    · rintro ⟨rfl, rfl⟩
      exact ⟨[], rfl, rfl, rfl⟩
    · rintro ⟨bs, rfl, rfl, rfl⟩
      exact ⟨rfl, rfl⟩
  | cons r more ih =>
    cases s with
    | nil =>
      refine iff_of_false (by simp [follow]) ?_
      rintro ⟨bs, hs, hfits, -⟩
      obtain rfl : bs = [] := (List.append_eq_nil_iff.mp hs.symm).1
      cases hfits
    | cons b tail =>
      constructor
      · intro h
        simp only [follow] at h
        split at h
        · rename_i hb
          cases hf : follow (code * 64 + (b.toNat - 0x80)) more tail with
          | error e => rw [hf] at h; cases h
          | ok p =>
            rw [hf] at h
            cases h
            obtain ⟨bs, rfl, hfits, rfl⟩ := ih.mp hf
            exact ⟨b :: bs, rfl, .cons (by simpa using hb) hfits, (continued_cons code b bs).symm⟩
        · cases h
      · rintro ⟨bs, hs, hfits, rfl⟩
        cases hfits with
        | @cons _ b' _ bs' hb hfits =>
          rw [List.cons_append, List.cons.injEq] at hs
          obtain ⟨rfl, rfl⟩ := hs
          have hrest := ih.mpr ⟨bs', rfl, hfits, continued_cons code b bs'⟩
          simp only [follow, hb, decide_true, Bool.and_self, if_true, hrest]
          rfl

/-! ## First bytes -/

/-- The range of most bytes behind a first one. -/
def tail : Nat × Nat := (0x80, 0xBF)

theorem lead?_one (h : n ≤ 0x7F) : lead? n = some (n, []) := if_pos h

theorem lead?_two (h : 0xC2 ≤ n) (h' : n ≤ 0xDF) : lead? n = some (n - 0xC0, [tail]) := by
  rw [lead?, if_neg (by omega), if_neg (by omega), if_pos h']
  rfl

/-- Behind the first and the last but two of these there is no overlong form and no half of a
    pair. -/
theorem lead?_three (h : 0xE0 ≤ n) (h' : n ≤ 0xEF) :
    lead? n = some (n - 0xE0, [(if n = 0xE0 then 0xA0 else 0x80, if n = 0xED then 0x9F else 0xBF), tail]) := by
  rw [lead?, if_neg (by omega), if_neg (by omega), if_neg (by omega)]
  by_cases hfirst : n = 0xE0
  · subst hfirst
    rfl
  by_cases hpair : n = 0xED
  · subst hpair
    rfl
  rw [if_neg hfirst, if_neg hpair, if_pos h', if_neg hfirst, if_neg hpair]
  rfl

/-- Behind the first and the last of these there is no overlong form and nothing too high. -/
theorem lead?_four (h : 0xF0 ≤ n) (h' : n ≤ 0xF4) :
    lead? n = some (n - 0xF0, [(if n = 0xF0 then 0x90 else 0x80, if n = 0xF4 then 0x8F else 0xBF), tail, tail]) := by
  rw [lead?, if_neg (by omega), if_neg (by omega), if_neg (by omega), if_neg (by omega), if_neg (by omega),
    if_neg (by omega)]
  by_cases hfirst : n = 0xF0
  · subst hfirst
    rfl
  by_cases hlast : n = 0xF4
  · subst hlast
    rfl
  rw [if_neg hfirst, if_pos (by omega), if_neg hfirst, if_neg hlast]
  rfl

/-- No other byte is a first one. -/
theorem range_of_lead? (h : lead? n = some (bits, ranges)) :
    n ≤ 0x7F ∨ (0xC2 ≤ n ∧ n ≤ 0xDF) ∨ (0xE0 ≤ n ∧ n ≤ 0xEF) ∨ (0xF0 ≤ n ∧ n ≤ 0xF4) := by
  by_contra hout
  rw [lead?, if_neg (by omega)] at h
  by_cases hlow : n < 0xC2
  · rw [if_pos hlow] at h
    cases h
  · rw [if_neg hlow, if_neg (by omega), if_neg (by omega), if_neg (by omega), if_neg (by omega), if_neg (by omega),
      if_neg (by omega), if_neg (by omega)] at h
    cases h

/-! ## Characters -/

theorem toNat_toUInt8 (h : n < 256) : n.toUInt8.toNat = n := by
  rw [Nat.toUInt8, UInt8.toNat_ofNat', Nat.mod_eq_of_lt h]

theorem lt_of_char (c : Char) : c.toNat < 0xD800 ∨ 0xDFFF < c.toNat ∧ c.toNat < 0x110000 := c.valid

theorem encodeChar_one {c : Char} (h : c.toNat < 0x80) : ∃ b, encodeChar c = [b] ∧ b.toNat = c.toNat :=
  ⟨_, if_pos h, toNat_toUInt8 (by omega)⟩

theorem encodeChar_two {c : Char} (h : 0x80 ≤ c.toNat) (h' : c.toNat < 0x800) :
    ∃ b x, encodeChar c = [b, x] ∧ b.toNat = 0xC0 + c.toNat / 64 ∧ x.toNat = 0x80 + c.toNat % 64 := by
  refine ⟨_, _, ?_, toNat_toUInt8 (by omega), toNat_toUInt8 (by omega)⟩
  simp only [encodeChar, Nat.not_lt.mpr h, h', if_false, if_true]

theorem encodeChar_three {c : Char} (h : 0x800 ≤ c.toNat) (h' : c.toNat < 0x10000) :
    ∃ b x y, encodeChar c = [b, x, y] ∧ b.toNat = 0xE0 + c.toNat / 4096 ∧ x.toNat = 0x80 + c.toNat / 64 % 64 ∧
      y.toNat = 0x80 + c.toNat % 64 := by
  refine ⟨_, _, _, ?_, toNat_toUInt8 (by omega), toNat_toUInt8 (by omega), toNat_toUInt8 (by omega)⟩
  have hlong : ¬c.toNat < 0x80 := by omega
  simp only [encodeChar, hlong, Nat.not_lt.mpr h, h', if_false, if_true]

theorem encodeChar_four {c : Char} (h : 0x10000 ≤ c.toNat) :
    ∃ b x y z, encodeChar c = [b, x, y, z] ∧ b.toNat = 0xF0 + c.toNat / 262144 ∧ x.toNat = 0x80 + c.toNat / 4096 % 64 ∧
      y.toNat = 0x80 + c.toNat / 64 % 64 ∧ z.toNat = 0x80 + c.toNat % 64 := by
  have hhigh := lt_of_char c
  refine ⟨_, _, _, _, ?_, toNat_toUInt8 (by omega), toNat_toUInt8 (by omega), toNat_toUInt8 (by omega),
    toNat_toUInt8 (by omega)⟩
  have hlong : ¬c.toNat < 0x80 := by omega
  have hlong' : ¬c.toNat < 0x800 := by omega
  simp only [encodeChar, hlong, hlong', Nat.not_lt.mpr h, if_false]

theorem fits_cons {r : Nat × Nat} :
    Fits (r :: ranges) (b :: bs) ↔ (r.1 ≤ b.toNat ∧ b.toNat ≤ r.2) ∧ Fits ranges bs := List.forall₂_cons

theorem fits_nil : Fits [] [] := .nil

/-- The first byte of a character announces the others. -/
theorem lead?_encodeChar (c : Char) :
    ∃ b bs bits ranges, encodeChar c = b :: bs ∧ lead? b.toNat = some (bits, ranges) ∧ Fits ranges bs ∧
      continued bits bs = c.toNat := by
  have hvalid := lt_of_char c
  by_cases h1 : c.toNat < 0x80
  · obtain ⟨b, hc, hb⟩ := encodeChar_one h1
    exact ⟨b, [], _, _, hc, lead?_one (by omega), fits_nil, hb⟩
  by_cases h2 : c.toNat < 0x800
  · obtain ⟨b, x, hc, hb, hx⟩ := encodeChar_two (by omega) h2
    refine ⟨b, [x], _, _, hc, lead?_two (by omega) (by omega), ?_, ?_⟩
    · simp only [fits_cons, fits_nil, tail, and_true]
      omega
    · simp only [continued, List.foldl_cons, List.foldl_nil]
      omega
  by_cases h3 : c.toNat < 0x10000
  · obtain ⟨b, x, y, hc, hb, hx, hy⟩ := encodeChar_three (by omega) h3
    refine ⟨b, [x, y], _, _, hc, lead?_three (by omega) (by omega), ?_, ?_⟩
    · simp only [fits_cons, fits_nil, tail, and_true]
      split <;> split <;> omega
    · simp only [continued, List.foldl_cons, List.foldl_nil]
      omega
  · obtain ⟨b, x, y, z, hc, hb, hx, hy, hz⟩ := encodeChar_four (by omega : 0x10000 ≤ c.toNat)
    refine ⟨b, [x, y, z], _, _, hc, lead?_four (by omega) (by omega), ?_, ?_⟩
    · simp only [fits_cons, fits_nil, tail, and_true]
      split <;> split <;> omega
    · simp only [continued, List.foldl_cons, List.foldl_nil]
      omega

theorem exists_char (h : n < 0xD800 ∨ 0xDFFF < n ∧ n < 0x110000) : ∃ c : Char, c.toNat = n :=
  ⟨Char.ofNat n, toNat_ofNat h⟩

/-- Bytes of the announced form are the bytes of a character. -/
theorem exists_of_lead? (hlead : lead? b.toNat = some (bits, ranges)) (hfits : Fits ranges bs) :
    ∃ c, c.toNat = continued bits bs ∧ encodeChar c = b :: bs := by
  rcases range_of_lead? hlead with h | ⟨h, h'⟩ | ⟨h, h'⟩ | ⟨h, h'⟩
  · obtain ⟨rfl, rfl⟩ := Prod.mk.inj (Option.some.inj ((lead?_one h).symm.trans hlead))
    obtain rfl := List.forall₂_nil_left_iff.mp hfits
    obtain ⟨c, hcode⟩ := exists_char (n := b.toNat) (by omega)
    obtain ⟨b', hc, hb⟩ := encodeChar_one (c := c) (by omega)
    exact ⟨c, hcode, by rw [hc, UInt8.toNat_inj.mp (hb.trans hcode)]⟩
  · obtain ⟨rfl, rfl⟩ := Prod.mk.inj (Option.some.inj ((lead?_two h h').symm.trans hlead))
    obtain ⟨x, _, hx, hnil, rfl⟩ := List.forall₂_cons_left_iff.mp hfits
    obtain rfl := List.forall₂_nil_left_iff.mp hnil
    simp only [tail] at hx
    simp only [continued, List.foldl_cons, List.foldl_nil]
    obtain ⟨c, hcode⟩ := exists_char (n := (b.toNat - 0xC0) * 64 + (x.toNat - 0x80)) (by omega)
    obtain ⟨b', x', hc, hb', hx'⟩ := encodeChar_two (c := c) (by omega) (by omega)
    refine ⟨c, hcode, ?_⟩
    rw [hc, UInt8.toNat_inj.mp (by omega : b'.toNat = b.toNat), UInt8.toNat_inj.mp (by omega : x'.toNat = x.toNat)]
  · obtain ⟨rfl, rfl⟩ := Prod.mk.inj (Option.some.inj ((lead?_three h h').symm.trans hlead))
    obtain ⟨x, _, hx, hmore, rfl⟩ := List.forall₂_cons_left_iff.mp hfits
    obtain ⟨y, _, hy, hnil, rfl⟩ := List.forall₂_cons_left_iff.mp hmore
    obtain rfl := List.forall₂_nil_left_iff.mp hnil
    simp only [tail] at hx hy
    have hx : 0x80 ≤ x.toNat ∧ x.toNat ≤ 0xBF ∧ (b.toNat = 0xE0 → 0xA0 ≤ x.toNat) ∧
        (b.toNat = 0xED → x.toNat ≤ 0x9F) := by
      split at hx <;> split at hx <;> omega
    simp only [continued, List.foldl_cons, List.foldl_nil]
    obtain ⟨c, hcode⟩ :=
      exists_char (n := ((b.toNat - 0xE0) * 64 + (x.toNat - 0x80)) * 64 + (y.toNat - 0x80)) (by omega)
    obtain ⟨b', x', y', hc, hb', hx', hy'⟩ := encodeChar_three (c := c) (by omega) (by omega)
    refine ⟨c, hcode, ?_⟩
    rw [hc, UInt8.toNat_inj.mp (by omega : b'.toNat = b.toNat), UInt8.toNat_inj.mp (by omega : x'.toNat = x.toNat),
      UInt8.toNat_inj.mp (by omega : y'.toNat = y.toNat)]
  · obtain ⟨rfl, rfl⟩ := Prod.mk.inj (Option.some.inj ((lead?_four h h').symm.trans hlead))
    obtain ⟨x, _, hx, hmore, rfl⟩ := List.forall₂_cons_left_iff.mp hfits
    obtain ⟨y, _, hy, hlast, rfl⟩ := List.forall₂_cons_left_iff.mp hmore
    obtain ⟨z, _, hz, hnil, rfl⟩ := List.forall₂_cons_left_iff.mp hlast
    obtain rfl := List.forall₂_nil_left_iff.mp hnil
    simp only [tail] at hx hy hz
    have hx : 0x80 ≤ x.toNat ∧ x.toNat ≤ 0xBF ∧ (b.toNat = 0xF0 → 0x90 ≤ x.toNat) ∧
        (b.toNat = 0xF4 → x.toNat ≤ 0x8F) := by
      split at hx <;> split at hx <;> omega
    simp only [continued, List.foldl_cons, List.foldl_nil]
    obtain ⟨c, hcode⟩ := exists_char
      (n := (((b.toNat - 0xF0) * 64 + (x.toNat - 0x80)) * 64 + (y.toNat - 0x80)) * 64 + (z.toNat - 0x80)) (by omega)
    obtain ⟨b', x', y', z', hc, hb', hx', hy', hz'⟩ := encodeChar_four (c := c) (by omega)
    refine ⟨c, hcode, ?_⟩
    rw [hc, UInt8.toNat_inj.mp (by omega : b'.toNat = b.toNat), UInt8.toNat_inj.mp (by omega : x'.toNat = x.toNat),
      UInt8.toNat_inj.mp (by omega : y'.toNat = y.toNat), UInt8.toNat_inj.mp (by omega : z'.toNat = z.toNat)]

/-! ## Texts -/

theorem decodeFrom_cons_eq_ok_iff {position : Nat} {t : Text} :
    decodeFrom position (b :: s) = .ok t ↔
      ∃ bits ranges code rest t', lead? b.toNat = some (bits, ranges) ∧ follow bits ranges s = .ok (code, rest) ∧
        decodeFrom (position + 1 + ranges.length) rest = .ok t' ∧ t = Char.ofNat code :: t' := by
  rw [decodeFrom]
  constructor
  · intro h
    split at h
    · cases h
    · rename_i bits ranges hlead
      split at h
      · cases h
      · rename_i code rest hfollow
        cases hrest : decodeFrom (position + 1 + ranges.length) rest with
        | error e => rw [hrest] at h; cases h
        | ok t' =>
          rw [hrest] at h
          cases h
          exact ⟨bits, ranges, code, rest, t', hlead, hfollow, hrest, rfl⟩
  · rintro ⟨bits, ranges, code, rest, t', hlead, hfollow, hrest, rfl⟩
    split
    · rename_i hnone
      rw [hlead] at hnone
      cases hnone
    · rename_i bits' ranges' hlead'
      obtain ⟨rfl, rfl⟩ := Prod.mk.inj (Option.some.inj (hlead.symm.trans hlead'))
      split
      · rename_i hstop
        rw [hfollow] at hstop
        cases hstop
      · rename_i code' rest' hfollow'
        obtain ⟨rfl, rfl⟩ := Prod.mk.inj (Except.ok.inj (hfollow.symm.trans hfollow'))
        rw [hrest]
        rfl

theorem decodeFrom_encode (position : Nat) (t : Text) : decodeFrom position (encode t) = .ok t := by
  induction t generalizing position with
  | nil => rw [encode, List.flatMap_nil, decodeFrom]
  | cons c t ih =>
    obtain ⟨b, bs, bits, ranges, hc, hlead, hfits, hcode⟩ := lead?_encodeChar c
    have hsplit : encode (c :: t) = b :: (bs ++ encode t) := by
      rw [encode, List.flatMap_cons, hc, List.cons_append]
      rfl
    rw [hsplit, decodeFrom_cons_eq_ok_iff]
    exact ⟨bits, ranges, c.toNat, encode t, t, hlead, follow_eq_ok_iff.mpr ⟨bs, rfl, hfits, hcode.symm⟩, ih _,
      by rw [Char.ofNat_toNat]⟩

theorem eq_encode_of_decodeFrom {position : Nat} {t : Text} (h : decodeFrom position s = .ok t) : s = encode t := by
  induction hn : s.length using Nat.strongRecOn generalizing position s t with
  | ind n ih =>
    cases s with
    | nil =>
      rw [decodeFrom] at h
      cases h
      rfl
    | cons b s =>
      obtain ⟨bits, ranges, code, rest, t', hlead, hfollow, hrest, rfl⟩ := decodeFrom_cons_eq_ok_iff.mp h
      obtain ⟨bs, rfl, hfits, rfl⟩ := follow_eq_ok_iff.mp hfollow
      obtain ⟨c, hcode, hc⟩ := exists_of_lead? hlead hfits
      have hshort : rest.length < n := by
        rw [← hn, List.length_cons, List.length_append]
        omega
      rw [ih rest.length hshort hrest rfl, ← hcode, Char.ofNat_toNat, encode, encode, List.flatMap_cons, hc,
        List.cons_append]

/-- Exactly the bytes of a text are read as that text. -/
theorem decode_eq_ok_iff {t : Text} : decode s = .ok t ↔ s = encode t := by
  constructor
  · exact eq_encode_of_decodeFrom
  · rintro rfl
    exact decodeFrom_encode 0 t

/-! ## The standard encoding -/

theorem encodeChar_eq (c : Char) : encodeChar c = String.utf8EncodeChar c := by
  have hvalid := lt_of_char c
  unfold encodeChar String.utf8EncodeChar
  dsimp only
  rw [show c.val.toNat = c.toNat from rfl]
  generalize c.toNat = n at hvalid
  have byte {m k : Nat} (h : m = k) : m.toUInt8 = UInt8.ofNat k := congrArg UInt8.ofNat h
  by_cases h1 : n < 0x80
  · rw [if_pos h1, if_pos (by omega : n ≤ 0x7F), byte rfl]
  by_cases h2 : n < 0x800
  · rw [if_neg h1, if_neg (by omega : ¬n ≤ 0x7F), if_pos h2, if_pos (by omega : n ≤ 0x7FF),
      byte (by omega : 0xC0 + n / 64 = n / 64 % 0x20 + 0xC0),
      byte (by omega : 0x80 + n % 64 = n % 0x40 + 0x80)]
  by_cases h3 : n < 0x10000
  · rw [if_neg h1, if_neg (by omega : ¬n ≤ 0x7F), if_neg h2, if_neg (by omega : ¬n ≤ 0x7FF), if_pos h3,
      if_pos (by omega : n ≤ 0xFFFF), byte (by omega : 0xE0 + n / 4096 = n / 4096 % 0x10 + 0xE0),
      byte (by omega : 0x80 + n / 64 % 64 = n / 64 % 0x40 + 0x80), byte (by omega : 0x80 + n % 64 = n % 0x40 + 0x80)]
  · rw [if_neg h1, if_neg (by omega : ¬n ≤ 0x7F), if_neg h2, if_neg (by omega : ¬n ≤ 0x7FF), if_neg h3,
      if_neg (by omega : ¬n ≤ 0xFFFF), byte (by omega : 0xF0 + n / 262144 = n / 262144 % 0x08 + 0xF0),
      byte (by omega : 0x80 + n / 4096 % 64 = n / 4096 % 0x40 + 0x80),
      byte (by omega : 0x80 + n / 64 % 64 = n / 64 % 0x40 + 0x80), byte (by omega : 0x80 + n % 64 = n % 0x40 + 0x80)]

theorem encode_eq (t : Text) : encode t = t.flatMap String.utf8EncodeChar := by
  unfold encode
  rw [funext encodeChar_eq]

end MarkupJsx.Text.Utf8
