/-
  MarkupJsx.Markup.Node — the parsed document: a forest of texts and elements.

  An attribute without a value is not the same as one whose value is empty. The keys of
  an element are collected in the order in which they first appear; a key given again
  keeps its place and takes the later value.
-/

import MarkupJsx.Text.Basic

namespace MarkupJsx.Markup

structure Attr where
  key : Text
  value : Option Text
  deriving DecidableEq, Repr

inductive Node where
  | text (content : Text)
  | element (name : Text) (attrs : List Attr) (children : List Node)
  deriving Repr, Inhabited

abbrev Forest := List Node

namespace Attr

def put (a : Attr) : List Attr → List Attr
  | [] => [a]
  | b :: rest => if b.key = a.key then a :: rest else b :: put a rest

/-- One attribute a key, first place and last value. -/
def collapse (attrs : List Attr) : List Attr := attrs.foldl (fun kept a => put a kept) []

end Attr

end MarkupJsx.Markup
