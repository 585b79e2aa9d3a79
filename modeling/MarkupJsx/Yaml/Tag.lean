/-
  MarkupJsx.Yaml.Tag — what kind of value a node is.

  A node says so itself by a tag, or it is told by its form: a sequence, a mapping, or for a
  plain scalar the first of the forms below that its text has. A text is matched up to one
  line feed at its end.
-/

import MarkupJsx.Yaml.Token

namespace MarkupJsx.Yaml

inductive Tag where
  | null
  | bool
  | int
  | float
  | binary
  | timestamp
  | omap
  | pairs
  | set
  | str
  | seq
  | map
  /-- As a key, a mapping to be merged into this one. -/
  | merge
  /-- As a key, the default value of a mapping. -/
  | value
  | unknown
  deriving DecidableEq, Repr

namespace Tag

/-- How the tags of the language begin. -/
def standard : Text := "tag:yaml.org,2002:".toList

def names : List (Text × Tag) :=
  [("null", null), ("bool", bool), ("int", int), ("float", float), ("binary", binary), ("timestamp", timestamp),
   ("omap", omap), ("pairs", pairs), ("set", set), ("str", str), ("seq", seq), ("map", map), ("merge", merge),
   ("value", value)].map fun (n, t) => (n.toList, t)

def ofText (t : Text) : Tag := ((Text.dropPrefix? standard t).bind fun n => names.lookup n).getD unknown

/-! ## Forms -/

def isDigitOrBar (c : Char) : Bool := Text.isDigit c || c == '_'

def dropSign : Text → Text
  | '+' :: rest | '-' :: rest => rest
  | s => s

/-- Groups of one or two digits below 60, a colon before each; what follows them. -/
def sixties : Text → Option Text
  | ':' :: a :: b :: rest =>
    if '0' ≤ a && a ≤ '5' && Text.isDigit b then some ((sixties rest).getD rest)
    else if Text.isDigit a then some ((sixties (b :: rest)).getD (b :: rest))
    else none
  | [':', a] => if Text.isDigit a then some [] else none
  | _ => none

def isNull (s : Text) : Bool := s.isEmpty || s == ['~'] || (["null", "Null", "NULL"].map String.toList).contains s

def truths : List (Text × Bool) :=
  [("yes", true), ("no", false), ("true", true), ("false", false), ("on", true), ("off", false)].map
    fun (n, b) => (n.toList, b)

/-- A word in small letters, in capitals, or with a capital first letter. -/
def isBool (s : Text) : Bool :=
  truths.any fun (w, _) =>
    s == w || s == w.map Text.toAsciiUpper || s == (w.take 1).map Text.toAsciiUpper ++ w.drop 1

def isInt (s : Text) : Bool :=
  match dropSign s with
  | '0' :: 'b' :: r => !r.isEmpty && r.all fun c => c == '0' || c == '1' || c == '_'
  | '0' :: 'x' :: r => !r.isEmpty && r.all fun c => Text.isHexDigit c || c == '_'
  | '0' :: r => r.all fun c => ('0' ≤ c && c ≤ '7') || c == '_'
  | c :: r =>
    Text.isDigit c &&
      (let rest := r.dropWhile isDigitOrBar
       rest.isEmpty || sixties rest == some [])
  | [] => false

def isExponent : Text → Bool
  | [] => true
  | c :: sign :: digits => (c == 'e' || c == 'E') && (sign == '+' || sign == '-') && !digits.isEmpty && digits.all Text.isDigit
  | _ => false

/-- A fraction behind its point, with an exponent or without. -/
def isFraction (s : Text) : Bool := isExponent (s.dropWhile isDigitOrBar)

def isFloat (s : Text) : Bool :=
  let body := dropSign s
  let infinite := ([".inf", ".Inf", ".INF"].map String.toList).contains body
  let nan := ([".nan", ".NaN", ".NAN"].map String.toList).contains s
  let plain :=
    match body with
    | c :: r =>
      Text.isDigit c &&
        (match r.dropWhile isDigitOrBar with
         | '.' :: f => isFraction f
         | rest =>
           match sixties rest with
           | some ('.' :: f) => f.all isDigitOrBar
           | _ => false)
    | [] => false
  let pointFirst :=
    match s with
    | '.' :: d :: f => Text.isDigit d && isFraction f
    | _ => false
  infinite || nan || plain || pointFirst

end Tag

end MarkupJsx.Yaml
