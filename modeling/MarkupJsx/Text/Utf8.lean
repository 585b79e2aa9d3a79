/-
  MarkupJsx.Text.Utf8 — texts as bytes.

  Reading is strict: no overlong form, no half of a pair, nothing above the last code
  point. Bytes that cannot be read are reported with the place of the character that
  fails: its first byte when that can start nothing; otherwise its first byte and those
  behind it that still fit, be it that the next one does not or that there is none.
-/

import MarkupJsx.Text.Basic

namespace MarkupJsx

abbrev Bytes := List UInt8

namespace Text.Utf8

inductive Reason where
  | invalidStart
  | invalidContinuation
  | unexpectedEnd
  deriving DecidableEq, Repr

/-- The place of the bytes that are no character: the first one, its position, and their
    number. -/
structure DecodeError where
  position : Nat
  length : Nat
  first : UInt8
  reason : Reason
  deriving DecidableEq, Repr

/-! ## Reading -/

/-- What a first byte announces: the bits it brings, and the range of each byte behind it. -/
def lead? (b : Nat) : Option (Nat × List (Nat × Nat)) :=
  if b ≤ 0x7F then some (b, [])
  else if b < 0xC2 then none
  else if b ≤ 0xDF then some (b - 0xC0, [(0x80, 0xBF)])
  else if b = 0xE0 then some (0, [(0xA0, 0xBF), (0x80, 0xBF)])
  else if b = 0xED then some (0xD, [(0x80, 0x9F), (0x80, 0xBF)])
  else if b ≤ 0xEF then some (b - 0xE0, [(0x80, 0xBF), (0x80, 0xBF)])
  else if b = 0xF0 then some (0, [(0x90, 0xBF), (0x80, 0xBF), (0x80, 0xBF)])
  else if b ≤ 0xF3 then some (b - 0xF0, [(0x80, 0xBF), (0x80, 0xBF), (0x80, 0xBF)])
  else if b = 0xF4 then some (4, [(0x80, 0x8F), (0x80, 0xBF), (0x80, 0xBF)])
  else none

/-- Take the bytes behind a first one: the code point and the rest, or how many bytes fit
    and why no more do. -/
def follow (code : Nat) : List (Nat × Nat) → Bytes → Except (Nat × Reason) (Nat × Bytes)
  | [], rest => .ok (code, rest)
  | _ :: _, [] => .error (0, .unexpectedEnd)
  | (low, high) :: more, b :: rest =>
    if low ≤ b.toNat && b.toNat ≤ high then
      (follow (code * 64 + (b.toNat - 0x80)) more rest).mapError fun e => (e.1 + 1, e.2)
    else .error (0, .invalidContinuation)

theorem length_of_follow {code n : Nat} {ranges : List (Nat × Nat)} {s rest : Bytes}
    (h : follow code ranges s = .ok (n, rest)) : rest.length ≤ s.length := by
  induction ranges generalizing code s with
  | nil =>
    simp only [follow, Except.ok.injEq, Prod.mk.injEq] at h
    exact Nat.le_of_eq (congrArg List.length h.2.symm)
  | cons r more ih =>
    cases s with
    | nil => cases h
    | cons b tail =>
      simp only [follow] at h
      split at h
      · cases hf : follow (code * 64 + (b.toNat - 0x80)) more tail with
        | error e => rw [hf] at h; cases h
        | ok p =>
          rw [hf] at h
          cases h
          exact Nat.le_succ_of_le (ih hf)
      · cases h

/-- The text of bytes that begin at a position. -/
def decodeFrom (position : Nat) (s : Bytes) : Except DecodeError Text :=
  match s with
  | [] => .ok []
  | b :: tail =>
    match lead? b.toNat with
    | none => .error ⟨position, 1, b, .invalidStart⟩
    | some (bits, ranges) =>
      match h : follow bits ranges tail with
      | .error (good, reason) => .error ⟨position, good + 1, b, reason⟩
      | .ok (code, rest) =>
        have : rest.length < tail.length + 1 := Nat.lt_succ_of_le (length_of_follow h)
        (decodeFrom (position + 1 + ranges.length) rest).map (Char.ofNat code :: ·)
termination_by s.length

def decode (s : Bytes) : Except DecodeError Text := decodeFrom 0 s

/-! ## Writing -/

def encodeChar (c : Char) : Bytes :=
  let n := c.toNat
  if n < 0x80 then [n.toUInt8]
  else if n < 0x800 then [(0xC0 + n / 64).toUInt8, (0x80 + n % 64).toUInt8]
  else if n < 0x10000 then [(0xE0 + n / 4096).toUInt8, (0x80 + n / 64 % 64).toUInt8, (0x80 + n % 64).toUInt8]
  else [(0xF0 + n / 262144).toUInt8, (0x80 + n / 4096 % 64).toUInt8, (0x80 + n / 64 % 64).toUInt8, (0x80 + n % 64).toUInt8]

def encode (s : Text) : Bytes := s.flatMap encodeChar

end Text.Utf8

end MarkupJsx
