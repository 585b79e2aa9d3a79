/-
  MarkupJsx.Jsx.Writer — a forest written as JSX.

  Texts are trimmed and escaped; a text of blanks only is not written. Attributes without a
  value are left out, and two keys have a name of their own in JSX. An element of the six
  void names that has no children closes itself; a text child counts even when nothing is
  written for it.
-/

import MarkupJsx.Jsx.Escape
import MarkupJsx.Markup.Node

namespace MarkupJsx.Jsx

open Markup (Attr Node Forest)

/-- Attributes with another name in JSX. -/
def renames : List (Text × Text) :=
  [("class".toList, "className".toList), ("for".toList, "htmlFor".toList)]

def attrName (key : Text) : Text := (renames.lookup key).getD key

/-- Elements that are written as one self-closing tag. -/
def voidElements : List Text := ["br", "img", "input", "hr", "meta", "link"].map String.toList

/-- One attribute, if it has a value. -/
def attr? (a : Attr) : Option Text :=
  a.value.map fun v => attrName a.key ++ ['=', '"'] ++ escape v ++ ['"']

/-- The attributes of a tag, each behind a space. -/
def attrs (as : List Attr) : Text := (as.filterMap attr?).flatMap (' ' :: ·)

mutual

def node : Node → Text
  | .text t => escape t.trim
  | .element name as children =>
    if children.isEmpty && voidElements.contains name then '<' :: name ++ attrs as ++ [' ', '/', '>']
    else '<' :: name ++ attrs as ++ ['>'] ++ forest children ++ ['<', '/'] ++ name ++ ['>']

/-- The nodes one after the other. -/
def forest : List Node → Text
  | [] => []
  | n :: rest => node n ++ forest rest

end

end MarkupJsx.Jsx
