/-
  MarkupJsx.Path — paths as written, without a look at any file.

  A path is a root and the parts between its slashes. Empty parts and single dots vanish;
  double dots stay, since only the files tell where they lead. Two leading slashes are a
  root of their own, any other number of them is the usual one.
-/

import MarkupJsx.FileName

namespace MarkupJsx

inductive Root where
  | relative
  | slash
  | doubleSlash
  deriving DecidableEq, Repr

namespace Root

/-- The root that so many leading slashes stand for. -/
def ofSlashes : Nat → Root
  | 0 => .relative
  | 2 => .doubleSlash
  | _ => .slash

def slashes : Root → Nat
  | relative => 0
  | slash => 1
  | doubleSlash => 2

end Root

structure Path where
  root : Root
  parts : List WideText
  deriving DecidableEq, Repr

namespace Path

/-- The part that names the directory itself. -/
def dot : WideText := [.char '.']

/-- The part that names the directory around. -/
def dots : WideText := [.char '.', .char '.']

def ofWide (s : WideText) : Path :=
  ⟨Root.ofSlashes (s.takeWhile (· == .char '/')).length, (Text.split (.char '/') s).filter fun part => part ≠ [] && part ≠ dot⟩

def ofText (s : Text) : Path := ofWide (.ofText s)

def isAbsolute (p : Path) : Bool := p.root ≠ .relative

def toWide (p : Path) : WideText :=
  if p.root = .relative && p.parts.isEmpty then dot
  else List.replicate p.root.slashes (.char '/') ++ Text.join [.char '/'] p.parts

/-- How a path is shown. -/
def toText (p : Path) : Text := p.toWide.shown

/-- The names along a path. -/
def names (p : Path) : Except NameError (List Bytes) := FileName.ofTexts p.root.slashes p.parts

/-- The names make too long a path. -/
def isTooLong (root : Root) (names : List Bytes) : Bool :=
  root.slashes + (Text.join [0x2F] names).length > FileName.maxPathLength

/-- The last part; the empty text where there is none. -/
def name (p : Path) : WideText := p.parts.getLastD []

/-- A name without its suffix. A leading dot and a final one begin no suffix. -/
def stemOf (name : WideText) : WideText :=
  match name.reverse.dropWhile (· != .char '.') with
  | [] => name
  | _ :: before => if before.isEmpty || before.length + 1 = name.length then name else before.reverse

def stem (p : Path) : WideText := stemOf p.name

def parent (p : Path) : Path := { p with parts := p.parts.dropLast }

/-- The path `q` as seen from the directory `p`. -/
def join (p q : Path) : Path := if q.isAbsolute then q else { p with parts := p.parts ++ q.parts }

/-- The user at whose home a path begins: a relative one whose first part starts with a
    tilde. The empty text is the user who asks. -/
def user? (p : Path) : Option WideText :=
  match p.root, p.parts with
  | .relative, (.char '~' :: user) :: _ => some user
  | _, _ => none

/-- The path with a home in the place of its first part. -/
def fromHome (p home : Path) : Path := { home with parts := home.parts ++ p.parts.drop 1 }

end Path

end MarkupJsx
