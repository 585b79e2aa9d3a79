/-
  MarkupJsx.Text.Lowercase — the full lower case of a text, as Unicode defines it.

  Each character is mapped by itself, but for two rules. The dotted capital I becomes an
  i with a combining dot. A capital sigma becomes a final sigma when a cased letter
  stands before it and none after it; marks in between are passed over.
-/

import MarkupJsx.Text.Basic
import MarkupJsx.Text.CaseTable

namespace MarkupJsx.Text

def isCased (c : Char) : Bool := isLetter c || CaseTable.cased.covers c.toNat

def isCaseIgnorable (c : Char) : Bool := CaseTable.ignorable.covers c.toNat

/-- The nearest character that is not a mark is a cased letter. -/
def meetsCased (s : Text) : Bool :=
  match s.dropWhile isCaseIgnorable with
  | [] => false
  | c :: _ => isCased c

def lowerChar (c : Char) : Text :=
  if c.toNat < 0x80 then [toAsciiLower c]
  else if c.toNat = 0x130 then ['i', Char.ofNat 0x307]
  else match CaseTable.runs.find? (·.covers c.toNat) with
    | some r => [Char.ofNat (r.lower + (c.toNat - r.first))]
    | none => [c]

/-- The lower case of `rest`, given the characters before it, nearest first. -/
def lowerAfter (before : Text) : Text → Text
  | [] => []
  | c :: rest =>
    let here := if c.toNat = 0x3A3 && meetsCased before && !meetsCased rest then [Char.ofNat 0x3C2] else lowerChar c
    here ++ lowerAfter (c :: before) rest

def lower (s : Text) : Text := lowerAfter [] s

end MarkupJsx.Text
