/-
  MarkupJsx.Markup.Growth — a document while it grows, event by event.

  The open elements form a stack, innermost first, each with the nodes that stand before
  it among its siblings. Text is pending until something other than text comes. An end tag
  closes the innermost open element of its name and all within it; one without such an
  element only ends the pending text. What is open at the end of the document is closed.

  A void element is closed as soon as it is opened. Written without a closing slash it is
  owed an end tag: the next end tag of that name does nothing at all. A closing slash is no
  such end tag. It ends its own element and no other, and leaves what is owed as it is.

  Text of nothing but spaces shrinks to one line feed or one space, unless an open element
  keeps its spaces.
-/

import MarkupJsx.Markup.Pass

namespace MarkupJsx.Markup

/-- Elements that never have content. -/
def voidElements : List Text :=
  ["area", "base", "br", "col", "embed", "hr", "img", "input", "keygen", "link", "menuitem", "meta", "param", "source",
   "track", "wbr", "basefont", "bgsound", "command", "frame", "image", "isindex", "nextid", "spacer"].map String.toList

/-- Elements that keep their spaces. -/
def spacedElements : List Text := ["pre", "textarea"].map String.toList

structure OpenElement where
  name : Text
  attrs : List Attr
  before : Forest

structure Growth where
  enclosing : List OpenElement
  /-- The nodes so far in the innermost open element, or in the document. -/
  siblings : Forest
  pending : Text
  /-- Void elements whose end tag is still to be ignored. -/
  owed : List Text

namespace Growth

def start : Growth := ⟨[], [], [], []⟩

def isSpace (c : Char) : Bool := c == ' ' || c == '\n' || c == '\t' || c == '\x0c' || c == '\r'

def shrink (s : Text) : Text := if s.all isSpace then (if s.contains '\n' then ['\n'] else [' ']) else s

def keepsSpaces (g : Growth) : Bool := g.enclosing.any fun e => spacedElements.contains e.name

/-- The pending text becomes a node. -/
def settle (g : Growth) : Growth :=
  if g.pending.isEmpty then g
  else { g with siblings := g.siblings ++ [.text (if g.keepsSpaces then g.pending else shrink g.pending)], pending := [] }

def enter (name : Text) (attrs : List Attr) (g : Growth) : Growth :=
  { g with enclosing := ⟨name, attrs, g.siblings⟩ :: g.enclosing, siblings := [] }

/-- Close the innermost element. -/
def leave (g : Growth) : Growth :=
  match g.enclosing with
  | [] => g
  | e :: outer => { g with enclosing := outer, siblings := e.before ++ [.element e.name e.attrs g.siblings] }

/-- Close elements up to and with the innermost one named so. -/
def leaveThrough (name : Text) : List OpenElement → Growth → Growth
  | [], g => g
  | e :: outer, g => if e.name = name then g.leave else leaveThrough name outer g.leave

def isOpen (g : Growth) (name : Text) : Bool := g.enclosing.any (·.name = name)

def close (name : Text) (g : Growth) : Growth :=
  let g := g.settle
  if g.isOpen name then leaveThrough name g.enclosing g else g

/-- The attributes of an element: keys as written, an absent value read as empty. -/
def elementAttrs (t : Tag) : List Attr := Attr.collapse (t.spelled.map fun a => ⟨a.key, some (a.value.getD [])⟩)

/-- The growth after one event. A tag with a closing slash is whole: only an end tag that
    is written out is held against `owed`. In `<br>a<br/>b</br>c` the slash ends the second
    element, `b` stands behind it, and the end tag is the one owed for the first. -/
def step (g : Growth) : Event → Growth
  | .text t => { g with pending := g.pending ++ t }
  | .hidden => g.settle
  | .startTag t =>
    let inside := g.settle.enter t.name (elementAttrs t)
    if t.selfClosing then inside.leave
    else if voidElements.contains t.name then { inside.leave with owed := t.name :: g.owed }
    else inside
  | .endTag name => if g.owed.contains name then { g with owed := g.owed.erase name } else g.close name

def finish (g : Growth) : Forest :=
  let g := g.settle
  (g.enclosing.foldl (fun g _ => g.leave) g).siblings

end Growth

/-- The forest that a row of events builds. -/
def Forest.ofEvents (events : List Event) : Forest := (events.foldl Growth.step .start).finish

/-- The document that a markup text describes. -/
def parse (s : Text) : Except MarkupError Forest := (events s).map Forest.ofEvents

end MarkupJsx.Markup
