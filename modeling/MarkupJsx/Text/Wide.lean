/-
  MarkupJsx.Text.Wide — texts that may hold halves of surrogate pairs.

  An escape can denote half of a pair, which is no character. A text with a half in it has
  no UTF-8 form; it can still be compared, cut, lower-cased and shown. A half is shown by
  its code and has no case.
-/

import MarkupJsx.Text.Lowercase
import MarkupJsx.Text.Quoted

namespace MarkupJsx

inductive CodePoint where
  | char (c : Char)
  /-- Half of a pair, counted from D800 on. -/
  | half (n : Fin 2048)
  deriving DecidableEq, Repr

namespace CodePoint

def ofNat? (n : Nat) : Option CodePoint :=
  if h : 0xD800 ≤ n ∧ n ≤ 0xDFFF then some (half ⟨n - 0xD800, by omega⟩)
  else if n ≤ 0x10FFFF then some (char (Char.ofNat n))
  else none

def isHalf : CodePoint → Bool
  | half _ => true
  | char _ => false

def char? : CodePoint → Option Char
  | char c => some c
  | half _ => none

end CodePoint

abbrev WideText := List CodePoint

namespace WideText

def ofText (s : Text) : WideText := s.map .char

/-- The same text, when there is no half in it. -/
def toText? : WideText → Option Text
  | [] => some []
  | .char c :: rest => (toText? rest).map (c :: ·)
  | .half _ :: _ => none

theorem toText?_ofText (s : Text) : toText? (ofText s) = some s := by
  induction s with
  | nil => rfl
  | cons c s ih =>
    show (toText? (ofText s)).map (c :: ·) = some (c :: s)
    rw [ih]; rfl

/-- Apply a function to each run of characters between halves; `run` is what is read of one,
    the last character first. -/
def mapRuns (f : Text → Text) (run : Text) : WideText → WideText
  | [] => ofText (f run.reverse)
  | .char c :: rest => mapRuns f (c :: run) rest
  | .half n :: rest => ofText (f run.reverse) ++ .half n :: mapRuns f [] rest

def lower (s : WideText) : WideText := mapRuns Text.lower [] s

/-! ## Shown -/

def halfCode (n : Fin 2048) : Text := '\\' :: 'u' :: Text.hex 4 (0xD800 + n.val)

/-- The text with codes for its halves. -/
def shown (s : WideText) : Text :=
  s.flatMap fun
    | .char c => [c]
    | .half n => halfCode n

def quoted (s : WideText) : Text :=
  let quote := Text.quoteFor (s.filterMap CodePoint.char?)
  quote ::
    (s.flatMap fun
      | .char c => Text.escapeFor quote c
      | .half n => halfCode n) ++ [quote]

end WideText

end MarkupJsx
