/-
  MarkupJsx.FileName — names of files, as texts and as the bytes that the machine knows.

  Characters are encoded as UTF-8. The 128 halves from DC80 on stand for the bytes from 80
  on, so that a name whose bytes are no text has a text nevertheless; two texts can be the
  same name. Other halves have no bytes. A name holds no zero byte.
-/

import MarkupJsx.Text.Utf8
import MarkupJsx.Text.Wide

namespace MarkupJsx

/-- A run of halves that have no bytes: its place, how long it is, and its first half. -/
structure EncodeError where
  position : Nat
  length : Nat
  first : Fin 2048
  deriving DecidableEq, Repr

def EncodeError.message (e : EncodeError) : Text :=
  "'utf-8' codec can't encode ".toList ++
    (if e.length = 1 then
      "character '".toList ++ WideText.halfCode e.first ++ "' in position ".toList ++ Text.ofNat e.position
     else "characters in position ".toList ++ Text.ofNat e.position ++ ['-'] ++ Text.ofNat (e.position + e.length - 1)) ++
    ": surrogates not allowed".toList

/-- Why a text is no name. -/
inductive NameError where
  | unencodable (cause : EncodeError)
  | zero
  deriving DecidableEq, Repr

def NameError.message : NameError → Text
  | unencodable e => e.message
  | zero => "embedded null byte".toList

namespace FileName

/-- The byte that a half stands for. -/
def rawByte? (n : Fin 2048) : Option UInt8 :=
  if 0x480 ≤ n.val && n.val ≤ 0x4FF then some (n.val - 0x400).toUInt8 else none

/-- The bytes of a text that begins at a position. -/
def encodeFrom (position : Nat) : WideText → Except EncodeError Bytes
  | [] => .ok []
  | .char c :: rest => (encodeFrom (position + 1) rest).map (Text.Utf8.encodeChar c ++ ·)
  | .half n :: rest =>
    match rawByte? n with
    | some b => (encodeFrom (position + 1) rest).map (b :: ·)
    | none => .error ⟨position, 1 + (rest.takeWhile CodePoint.isHalf).length, n⟩

/-- The bytes of texts that stand one behind another with one character between them. -/
def encodeAll (position : Nat) : List WideText → Except EncodeError (List Bytes)
  | [] => .ok []
  | w :: rest =>
    match encodeFrom position w with
    | .error e => .error e
    | .ok b => (encodeAll (position + w.length + 1) rest).map (b :: ·)

/-- The names that such texts are. -/
def ofTexts (position : Nat) (ws : List WideText) : Except NameError (List Bytes) :=
  match encodeAll position ws with
  | .error e => .error (.unencodable e)
  | .ok names => if names.any (·.contains 0) then .error .zero else .ok names

/-- The name that a text is. -/
def ofText (w : WideText) : Except NameError Bytes := (ofTexts 0 [w]).map List.flatten

/-- The most bytes that a name has. -/
def maxLength : Nat := 255

/-- The most bytes that a path has, slashes and all. -/
def maxPathLength : Nat := 4095

end FileName

end MarkupJsx
