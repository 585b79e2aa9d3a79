/-
  MarkupJsx.Markup.Entity — character references, numeric and by name.

  References are read in two ways. In running text a reference needs a character behind
  it that cannot belong to it; a semicolon there is swallowed. A name is looked up whole,
  and an unknown one stays as text without its semicolon. In an attribute value the
  semicolon is optional, a name may end early (the longest prefix that is a name known
  without semicolon counts), and numbers that stand for no usable character vanish.
-/

import MarkupJsx.Markup.Entity.Table
import MarkupJsx.Markup.Error

namespace MarkupJsx.Markup.Entity

open Text (isLetter isDigit isHexDigit isAlphanumeric)

/-! ## Names -/

def find? (name : Text) : Option Text :=
  match name with
  | [] => none
  | c :: _ => ((Table.rows c).find? (·.1 == String.ofList name)).map fun row => row.2.map Char.ofNat

/-- The meaning of a name that may stand without semicolon. -/
def findBare? (name : Text) : Option Text :=
  if Table.bareNames.contains (String.ofList name) then find? name else none

/-! ## Numbers -/

def replacement : Char := Char.ofNat 0xFFFD

/-- What the codes from 80 to 9F mean: the characters of the Windows code page, where it
    has one. -/
def remapped : List (Nat × Nat) :=
  [(0x80, 0x20AC), (0x82, 0x201A), (0x83, 0x0192), (0x84, 0x201E), (0x85, 0x2026), (0x86, 0x2020), (0x87, 0x2021),
   (0x88, 0x02C6), (0x89, 0x2030), (0x8A, 0x0160), (0x8B, 0x2039), (0x8C, 0x0152), (0x8E, 0x017D), (0x91, 0x2018),
   (0x92, 0x2019), (0x93, 0x201C), (0x94, 0x201D), (0x95, 0x2022), (0x96, 0x2013), (0x97, 0x2014), (0x98, 0x02DC),
   (0x99, 0x2122), (0x9A, 0x0161), (0x9B, 0x203A), (0x9C, 0x0153), (0x9E, 0x017E), (0x9F, 0x0178)]

/-- No code point, or half of a pair. -/
def isImpossible (n : Nat) : Bool := (0xD800 ≤ n && n ≤ 0xDFFF) || n > 0x10FFFF

def meant (n : Nat) : Char :=
  if n = 0 || isImpossible n then replacement else Char.ofNat ((remapped.lookup n).getD n)

/-- Controls and noncharacters, which a reference in a value may not name. -/
def isUnusable (n : Nat) : Bool :=
  (0x1 ≤ n && n ≤ 0x8) || n == 0xB || (0xE ≤ n && n ≤ 0x1F) || n == 0x7F || (0xFDD0 ≤ n && n ≤ 0xFDEF) ||
    n % 0x10000 == 0xFFFE || n % 0x10000 == 0xFFFF

def meantInValue (n : Nat) : Text := if isUnusable n && !isImpossible n then [] else [meant n]

structure Numeric where
  base : Nat
  digits : Text

/-- The number that follows an ampersand and a number sign. -/
def Numeric.scan? (s : Text) : Option (Numeric × Text) :=
  match s with
  | [] => none
  | c :: rest =>
    if c = 'x' || c = 'X' then
      if (rest.takeWhile isHexDigit).isEmpty then none else some (⟨16, rest.takeWhile isHexDigit⟩, rest.dropWhile isHexDigit)
    else if isDigit c then some (⟨10, s.takeWhile isDigit⟩, s.dropWhile isDigit)
    else none

def Numeric.code (r : Numeric) : Except MarkupError Nat :=
  if r.base = 10 && r.digits.length > digitLimit then .error (.tooManyDigits r.digits.length)
  else .ok (Text.readNat r.base r.digits)

/-! ## References in running text -/

def dropSemicolon : Text → Text
  | ';' :: rest => rest
  | s => s

/-- The number behind `&#`, when something that is no hexadecimal digit ends it. -/
def numericInText? (s : Text) : Option (Numeric × Text) :=
  match Numeric.scan? s with
  | some (r, c :: rest) => if isHexDigit c then none else some (r, c :: rest)
  | _ => none

def isNameChar (c : Char) : Bool := isAlphanumeric c || c == '-' || c == '.'

/-- The name behind an ampersand. At the end of the text nothing would end the name, so it
    ends before its last hyphen or period, if it has one. -/
def nameInText? (s : Text) : Option (Text × Text) :=
  match s with
  | [] => none
  | c :: _ =>
    if isLetter c then
      match s.dropWhile isNameChar with
      | d :: rest => some (s.takeWhile isNameChar, d :: rest)
      | [] =>
        match s.reverse.dropWhile isAlphanumeric with
        | [] => none
        | _ :: before => some (before.reverse, s.drop before.length)
    else none

/-- What a name in running text stands for; an unknown one is text again. -/
def named (name : Text) : Text := (find? name).getD ('&' :: name)

/-! ## References in attribute values -/

/-- Name characters of a value: a run of at most 32 of these is looked up. -/
def isValueNameChar (c : Char) : Bool :=
  !(c == '\t' || c == '\n' || c == '\x0c' || c == ' ' || c == '<' || c == '&' || c == '#' || c == ';')

/-- The longest prefix of `s` that is a bare name, of at least two and at most `n`
    characters, with the rest of `s` behind its meaning. -/
def barePrefix? (s : Text) : Nat → Option Text
  | 0 => none
  | n + 1 =>
    if n + 1 < 2 then none
    else match findBare? (s.take (n + 1)) with
      | some t => some (t ++ s.drop (n + 1))
      | none => barePrefix? s n

/-- The meaning of a name in a value, `closed` when a semicolon follows it. -/
def namedInValue (name : Text) (closed : Bool) : Text :=
  let whole := if closed then name ++ [';'] else name
  match if closed then find? name else findBare? name with
  | some t => t
  | none => (barePrefix? whole (whole.length - 1)).getD ('&' :: whole)

/-- The reference at the head of a value behind an ampersand: its meaning and the rest. -/
def inValue? (s : Text) : Except MarkupError (Option (Text × Text)) :=
  match s with
  | '#' :: number =>
    match Numeric.scan? number with
    | none => .ok none
    | some (r, rest) => r.code.map fun n => some (meantInValue n, dropSemicolon rest)
  | _ =>
    let name := (s.take 32).takeWhile isValueNameChar
    if name.isEmpty then .ok none
    else
      let rest := s.drop name.length
      .ok (some (namedInValue name (rest.head? == some ';'), dropSemicolon rest))

theorem length_dropSemicolon_le (s : Text) : (dropSemicolon s).length ≤ s.length := by
  unfold dropSemicolon; split <;> simp

theorem length_dropWhile_le (p : Char → Bool) (s : Text) : (s.dropWhile p).length ≤ s.length :=
  (List.dropWhile_suffix p).length_le

theorem Numeric.length_of_scan? {s : Text} {r : Numeric} {rest : Text} (h : Numeric.scan? s = some (r, rest)) :
    rest.length ≤ s.length := by
  unfold Numeric.scan? at h
  split at h
  · cases h
  · next c tail =>
    have ht := length_dropWhile_le isHexDigit tail
    have hs := length_dropWhile_le isDigit (c :: tail)
    split at h
    · split at h <;> simp at h
      rw [← h.2]; simp; omega
    · split at h <;> simp at h
      rw [← h.2]; exact hs

theorem length_of_inValue? {s t rest : Text} (h : inValue? s = .ok (some (t, rest))) : rest.length ≤ s.length := by
  unfold inValue? at h
  split at h
  · next number =>
    split at h
    · cases h
    · next r tail hr =>
      have h1 := Numeric.length_of_scan? hr
      have h2 := length_dropSemicolon_le tail
      cases hc : r.code with
      | error e => rw [hc] at h; cases h
      | ok n => rw [hc] at h; simp [Except.map] at h; rw [← h.2]; simp; omega
  · dsimp only at h
    split at h
    · cases h
    · simp at h
      rw [← h.2]
      have := length_dropSemicolon_le (s.drop ((s.take 32).takeWhile isValueNameChar).length)
      simp at this ⊢; omega

/-- An attribute value with its references replaced. -/
def decodeValue (s : Text) : Except MarkupError Text :=
  match s with
  | [] => .ok []
  | c :: rest =>
    if c = '&' then
      match h : inValue? rest with
      | .error e => .error e
      | .ok none => (decodeValue rest).map (c :: ·)
      | .ok (some (t, after)) =>
        have : after.length < rest.length + 1 := Nat.lt_succ_of_le (length_of_inValue? h)
        (decodeValue after).map (t ++ ·)
    else (decodeValue rest).map (c :: ·)
termination_by s.length

end MarkupJsx.Markup.Entity
