/-
  MarkupJsx.Number.Binary64 — numbers of 64 bits with a binary point, in exact arithmetic.

  A finite number is a whole number of at most 53 bits times a power of two. Every
  operation is exact up to one rounding at its end, to the nearest such number, and to the
  even one of two that are as near.
-/

import MarkupJsx.Text.Basic

namespace MarkupJsx.Number

inductive Binary64 where
  | finite (negative : Bool) (significand : Nat) (exponent : Int)
  | infinite (negative : Bool)
  | nan
  deriving DecidableEq, Repr

namespace Binary64

def twoTo (n : Nat) : Nat := Nat.pow 2 n
def tenTo (n : Nat) : Nat := Nat.pow 10 n

/-- The least exponent. -/
def leastExponent : Int := -1074

/-- The greatest exponent. -/
def greatestExponent : Int := 971

def zero (negative : Bool) : Binary64 := .finite negative 0 leastExponent

/-- The whole number nearest to `num / den`, a tie going to the even one. -/
def roundDiv (num den : Nat) : Nat :=
  let q := num / den
  let r := num % den
  if 2 * r > den || (2 * r = den && q % 2 = 1) then q + 1 else q

/-- The quotient `num / den / 2 ^ e`. -/
def scaled (num den : Nat) (e : Int) : Nat × Nat :=
  if 0 ≤ e then (num, den * twoTo e.toNat) else (num * twoTo (-e).toNat, den)

/-- The number nearest to a quotient. -/
def ofQuotient (negative : Bool) (num den : Nat) : Binary64 :=
  if num = 0 || den = 0 then zero negative
  else
    let guess : Int := (Nat.log2 num : Int) - (Nat.log2 den : Int) - 52
    let short := scaled num den guess
    let e := max leastExponent (if short.1 < short.2 * twoTo 52 then guess - 1 else guess)
    let exact := scaled num den e
    let m := roundDiv exact.1 exact.2
    let (m, e) := if m = twoTo 53 then (twoTo 52, e + 1) else (m, e)
    if e > greatestExponent then .infinite negative else .finite negative m e

/-- The number nearest to `digits · 10 ^ e`, with a shortcut where that is out of range by far. -/
def ofDecimal (negative : Bool) (digits : Nat) (e : Int) : Binary64 :=
  let size : Int := (Nat.log2 digits : Int) / 3 + e
  if digits = 0 || size < -400 then zero negative
  else if e > 400 then .infinite negative
  else if 0 ≤ e then ofQuotient negative (digits * tenTo e.toNat) 1
  else ofQuotient negative digits (tenTo (-e).toNat)

/-- The magnitude of a finite number as a quotient. -/
def quotient (m : Nat) (e : Int) : Nat × Nat := if 0 ≤ e then (m * twoTo e.toNat, 1) else (m, twoTo (-e).toNat)

def negate : Binary64 → Binary64
  | finite s m e => finite (!s) m e
  | infinite s => infinite !s
  | nan => nan

/-- A finite number as a quotient. -/
def ratio? : Binary64 → Option (Int × Nat)
  | finite s m e =>
    let (a, b) := quotient m e
    some (if s then -(a : Int) else a, b)
  | _ => none

def ofRatio (num : Int) (den : Nat) : Binary64 := ofQuotient (num < 0) num.natAbs den

def add (x y : Binary64) : Binary64 :=
  match x.ratio?, y.ratio? with
  | some (a, b), some (c, d) => ofRatio (a * d + c * b) (b * d)
  | some _, none => y
  | none, some _ => x
  | none, none => if x = y then x else nan

/-- The number nearest to a whole one. -/
def ofNat (k : Nat) : Binary64 := ofQuotient false k 1

def isInfinite : Binary64 → Bool
  | infinite _ => true
  | _ => false

/-- A number times a whole one, which is rounded first. -/
def mulNat (x : Binary64) (k : Nat) : Binary64 :=
  match x.ratio?, (ofNat k).ratio? with
  | some (a, b), some (c, d) => ofRatio (a * c) (b * d)
  | some (a, _), none => if a = 0 then nan else infinite (a < 0)
  | none, _ => x

def isZero : Binary64 → Bool
  | finite _ m _ => m == 0
  | _ => false

/-- The number is this whole number. -/
def isInt (x : Binary64) (n : Int) : Bool :=
  match x.ratio? with
  | some (a, b) => a == n * b
  | none => false

/-- The same number; zeros of both signs are the same. -/
def same : Binary64 → Binary64 → Bool
  | finite s m e, finite t n f => (m == 0 && n == 0) || (s == t && m == n && e == f)
  | infinite s, infinite t => s == t
  | nan, nan => true
  | _, _ => false

/-! ## Shortest decimals -/

/-- How many decimal digits a number has. -/
def digitCount (n : Nat) : Nat := (Nat.toDigits 10 n).length

/-- The place of the decimal point of a quotient: it is less than ten to this power, and no
    less than a tenth of that. -/
def pointPlace (num den : Nat) : Int :=
  let p : Int := (digitCount num : Int) - (digitCount den : Int)
  let below := if 0 ≤ p then num < tenTo p.toNat * den else num * tenTo (-p).toNat < den
  if below then p else p + 1

/-- The nearest of the two decimals with `k` digits around a number that reads back as it:
    four times the number and the ends of its interval are whole multiples of one unit,
    which is `unit.1 / unit.2`. -/
def candidate? (m low high : Nat) (closed : Bool) (unit : Nat × Nat) (point : Int) (k : Nat) : Option Nat :=
  let step : Int := point - k
  let (up, down) := if 0 ≤ step then (tenTo step.toNat, 1) else (1, tenTo (-step).toNat)
  -- a decimal d is worth d * up / down; compare with multiples of the unit
  let worth (d : Nat) : Nat := d * up * unit.2
  let mark (x : Nat) : Nat := x * unit.1 * down
  let d := mark (4 * m) / (up * unit.2)
  let fits (d : Nat) : Bool :=
    if closed then mark low ≤ worth d && worth d ≤ mark high else mark low < worth d && worth d < mark high
  let below := mark (4 * m) - worth d
  let above := worth (d + 1) - mark (4 * m)
  if fits d && (!fits (d + 1) || below < above || (below = above && d % 2 = 0)) then some d
  else if fits (d + 1) then some (d + 1)
  else none

/-- The fewest digits that read back as a number that is not zero, as a whole number, and the
    place of the decimal point in them. -/
def shortest (m : Nat) (e : Int) : Nat × Int :=
  let narrow := m = twoTo 52 && e > leastExponent
  let unit := quotient 1 (e - 2)
  let (num, den) := quotient m e
  let point := pointPlace num den
  let found := (List.range 17).findSome? fun k =>
    (candidate? m (4 * m - (if narrow then 1 else 2)) (4 * m + 2) (m % 2 = 0) unit point (k + 1)).map fun d => (d, k + 1)
  match found with
  | some (d, k) => if digitCount d > k then (d / 10, point + 1) else (d, point)
  | none => (0, point)

/-- Digits around a decimal point: positional when the point is near, with an exponent of at
    least two digits otherwise. -/
def layout (digits : Text) (point : Int) : Text :=
  let digits := (digits.reverse.dropWhile (· == '0')).reverse
  if -4 < point && point ≤ 16 then
    if point ≤ 0 then '0' :: '.' :: List.replicate (-point).toNat '0' ++ digits
    else
      let whole := digits.take point.toNat ++ List.replicate (point.toNat - digits.length) '0'
      let part := digits.drop point.toNat
      whole ++ ['.'] ++ (if part.isEmpty then ['0'] else part)
  else
    let exponent := point - 1
    let part := digits.drop 1
    let size := (toString exponent.natAbs).toList
    digits.take 1 ++ (if part.isEmpty then [] else '.' :: part) ++
      ['e', if exponent < 0 then '-' else '+'] ++ (if size.length < 2 then '0' :: size else size)

def toText : Binary64 → Text
  | finite s m e =>
    let magnitude :=
      if m = 0 then ['0', '.', '0']
      else
        let (d, point) := shortest m e
        layout (toString d).toList point
    if s then '-' :: magnitude else magnitude
  | infinite s => if s then ['-', 'i', 'n', 'f'] else ['i', 'n', 'f']
  | nan => ['n', 'a', 'n']

end Binary64

end MarkupJsx.Number
