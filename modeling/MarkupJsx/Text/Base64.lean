/-
  MarkupJsx.Text.Base64 — bytes as letters, digits, plus and slash, six bits each.

  Reading is lenient: other characters are passed over, and what follows a complete padding
  is not looked at. It fails when the last group has too few characters or lacks its
  padding.
-/

import MarkupJsx.Text.Utf8

namespace MarkupJsx.Text.Base64

def alphabet : Text := "ABCDEFGHIJKLMNOPQRSTUVWXYZabcdefghijklmnopqrstuvwxyz0123456789+/".toList

def sextet? (c : Char) : Option Nat := alphabet.findIdx? (· == c)

def symbol (n : Nat) : Char := alphabet.getD (n % 64) 'A'

/-- Reading goes on within a group of four: how many of its characters are read, the bits
    that are left of them, and how many signs of padding stand behind them. -/
def readFrom (inGroup bits padding : Nat) : Text → Option Bytes
  | [] => if inGroup = 0 then some [] else none
  | c :: rest =>
    if c = '=' then
      if inGroup < 2 then readFrom inGroup bits padding rest
      else if inGroup + padding + 1 ≥ 4 then some []
      else readFrom inGroup bits (padding + 1) rest
    else match sextet? c with
      | none => readFrom inGroup bits padding rest
      | some n =>
        match inGroup with
        | 0 => readFrom 1 n 0 rest
        | 1 => (readFrom 2 (n % 16) 0 rest).map ((bits * 4 + n / 16).toUInt8 :: ·)
        | 2 => (readFrom 3 (n % 4) 0 rest).map ((bits * 16 + n / 4).toUInt8 :: ·)
        | _ => (readFrom 0 0 0 rest).map ((bits * 64 + n).toUInt8 :: ·)

def decode (s : Text) : Option Bytes := readFrom 0 0 0 s

def encode : Bytes → Text
  | [] => []
  | [a] => [symbol (a.toNat / 4), symbol (a.toNat % 4 * 16), '=', '=']
  | [a, b] => [symbol (a.toNat / 4), symbol (a.toNat % 4 * 16 + b.toNat / 16), symbol (b.toNat % 16 * 4), '=']
  | a :: b :: c :: rest =>
    symbol (a.toNat / 4) :: symbol (a.toNat % 4 * 16 + b.toNat / 16) :: symbol (b.toNat % 16 * 4 + c.toNat / 64) ::
      symbol (c.toNat % 64) :: encode rest

end MarkupJsx.Text.Base64
