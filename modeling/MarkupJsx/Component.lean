/-
  MarkupJsx.Component — JSX as the module of one component.

  A component's name is an identifier that starts with a capital. A name from outside may
  be followed by one line feed, which is then written with it. A name can be made from a
  path: the words of the file's stem, each with a capital first letter, behind `Page` when
  they would not start with a letter.

  The module returns the roots for which something is written: as they are when there is
  one, in a fragment when there are several, and null when there are none.
-/

import MarkupJsx.Jsx.Writer
import MarkupJsx.Path

namespace MarkupJsx.Component

open Text (isAlphanumeric isLetter)

/-! ## Names -/

def isCapital (c : Char) : Bool := 'A' ≤ c && c ≤ 'Z'

def isWordChar (c : Char) : Bool := isAlphanumeric c || c == '_'

def isIdentifier : Text → Bool
  | [] => false
  | c :: rest => isCapital c && rest.all isWordChar

def dropFinalLineFeed (s : Text) : Text := if s.getLast? = some '\n' then s.dropLast else s

/-- An identifier, perhaps with a line feed behind it. -/
def acceptsName (name : Text) : Bool := isIdentifier (dropFinalLineFeed name)

/-- The words of a text, run together, with a capital at the start of each. A word is a run
    of ASCII letters and digits. -/
def capitalize (inWord : Bool) : WideText → Text
  | [] => []
  | .char c :: rest =>
    if isAlphanumeric c then (if inWord then c else Text.toAsciiUpper c) :: capitalize true rest
    else capitalize false rest
  | .half _ :: rest => capitalize false rest

def nameOfStem (stem : WideText) : Text :=
  let words := capitalize false stem
  match words with
  | c :: _ => if isLetter c then words else "Page".toList ++ words
  | [] => "Page".toList

def nameOfPath (p : Path) : Text := nameOfStem p.stem

/-! ## Modules -/

/-- What the module returns, when anything is written for the roots. -/
def body (roots : Markup.Forest) : Text :=
  let written := (roots.map Jsx.node).filter (· ≠ [])
  if written.length > 1 then "<>".toList ++ written.flatten ++ "</>".toList else written.flatten

def moduleText (name body : Text) : Text :=
  "export default function ".toList ++ name ++ "() \x7b\n".toList ++
    (if body.isEmpty then "  return null;\n".toList
     else "  return (\n    ".toList ++ body ++ "\n  );\n".toList) ++
    "\x7d\n".toList

/-- A name that is refused. -/
structure InvalidName where
  name : Text
  deriving DecidableEq, Repr

def InvalidName.message (e : InvalidName) : Text :=
  "Invalid component name '".toList ++ e.name ++
    "': expected an identifier starting with an uppercase letter.".toList

def checkName (name : Text) : Except InvalidName Text := if acceptsName name then .ok name else .error ⟨name⟩

def render (name : Text) (roots : Markup.Forest) : Except InvalidName Text :=
  (checkName name).map fun name => moduleText name (body roots)

end MarkupJsx.Component
