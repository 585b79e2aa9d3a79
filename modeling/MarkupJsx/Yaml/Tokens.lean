/-
  MarkupJsx.Yaml.Tokens — a text as its row of tokens.

  Two things make tokens that no character stands for. Indentation opens block collections
  and closes them: the columns of the open ones form a stack. And a key is recognised only
  by the colon behind it: each level of flow collections remembers the place of one token
  that may yet turn out to be a key, for at most 1024 characters and on one line; where a
  colon comes, a key token is put in front of it. A key that its indentation demands is an
  error when no colon comes.

  A token is handed over only when it can no longer become a key. So an error may keep back
  tokens before it, and the row of tokens ends with it (`Feed`).
-/

import MarkupJsx.Text.Utf8
import MarkupJsx.Yaml.Scalar

namespace MarkupJsx.Yaml

/-- A token that may be a key: its number in the row, and where it is. -/
structure PossibleKey where
  number : Nat
  required : Bool
  index : Nat
  line : Nat
  column : Nat

structure Lexer where
  place : Place
  /-- The depth of flow collections. -/
  depth : Nat
  /-- Tokens that have not been handed over, and how many have. -/
  queue : List Token
  taken : Nat
  /-- The column of the innermost block collection, -1 without one, and those around it. -/
  indent : Int
  outer : List Int
  /-- A key may begin here. -/
  allowKey : Bool
  /-- By depth. -/
  keys : List (Nat × PossibleKey)
  done : Bool

namespace Lexer

def start (s : Text) : Lexer := ⟨.start s, 0, [.streamStart], 0, -1, [], true, [], false⟩

def inFlow (x : Lexer) : Bool := x.depth ≠ 0

def push (x : Lexer) (t : Token) : Lexer := { x with queue := x.queue ++ [t] }

/-- Put a token into the row in front of the one with a number. -/
def insertAt (x : Lexer) (number : Nat) (t : Token) : Lexer :=
  let n := number - x.taken
  { x with queue := x.queue.take n ++ t :: x.queue.drop n }

/-! ## Possible keys -/

def isStale (x : Lexer) (k : PossibleKey) : Bool := k.line ≠ x.place.line || x.place.index - k.index > 1024

/-- Forget the keys that a colon can no longer follow. -/
def dropStale (x : Lexer) : Except Error Lexer :=
  if x.keys.any fun (_, k) => x.isStale k && k.required then .error .token
  else .ok { x with keys := x.keys.filter fun (_, k) => !x.isStale k }

/-- Forget the key at this depth. -/
def dropKey (x : Lexer) : Except Error Lexer :=
  if (x.keys.lookup x.depth).any (·.required) then .error .token
  else .ok { x with keys := x.keys.filter (·.1 ≠ x.depth) }

/-- The next token may be a key. -/
def saveKey (x : Lexer) : Except Error Lexer :=
  if x.allowKey then
    x.dropKey.map fun y =>
      let p := x.place
      let key := ⟨x.taken + x.queue.length, !x.inFlow && x.indent = p.column, p.index, p.line, p.column⟩
      { y with keys := y.keys ++ [(x.depth, key)] }
  else .ok x

/-- The first token in the row may still be a key, or there is none. -/
def needsMore (x : Lexer) : Bool :=
  x.queue.isEmpty || (x.keys.map (·.2.number)).min? == some x.taken

/-! ## Indentation -/

/-- Close the block collections that lie deeper than a column. -/
def unwindFrom (column : Int) : List Int → Lexer → Lexer
  | [], x => x
  | i :: rest, x =>
    if x.indent > column then unwindFrom column rest { x.push .blockEnd with indent := i, outer := rest } else x

def unwind (x : Lexer) (column : Int) : Lexer := if x.inFlow then x else unwindFrom column x.outer x

/-- Begin a block collection at a column, if it lies deeper. -/
def addIndent (x : Lexer) (column : Nat) : Option Lexer :=
  if x.indent < column then some { x with indent := column, outer := x.indent :: x.outer } else none

/-! ## Tokens of their own -/

def word (p : Place) : Except Error (Text × Place) :=
  let (w, q) := p.takeWhile isWordChar
  if w.isEmpty then .error .token else .ok (w, q)

/-- What may stand behind the name of an anchor or alias. -/
def endsName (c : Option Char) : Bool :=
  endsToken c || c.any fun c => c == '?' || c == ':' || c == ',' || c == ']' || c == '}' || c == '%' || c == '@' || c == '\x60'

def name (p : Place) : Except Error (Text × Place) := do
  let (w, q) ← word p.next
  if endsName q.peek then return (w, q) else throw .token

/-- A handle of tags: an exclamation mark, or a word between two of them. A space may follow
    the mark directly. -/
def tagHandle (p : Place) : Except Error (Text × Place) :=
  if p.peek ≠ some '!' then .error .token
  else if p.peekAt 1 = some ' ' then .ok (['!'], p.next)
  else
    let (w, q) := p.next.takeWhile isWordChar
    if q.peek = some '!' then .ok ('!' :: w ++ ['!'], q.next) else .error .token

def isUriChar (c : Char) : Bool :=
  Text.isAlphanumeric c || "-;/?:@&=+$,_.!~*'()[]%".toList.contains c

/-- A row of escaped bytes. -/
def uriBytes : Nat → Place → Except Error (Bytes × Place)
  | 0, p => .ok ([], p)
  | n + 1, p =>
    match p.rest with
    | '%' :: a :: b :: _ =>
      if Text.isHexDigit a && Text.isHexDigit b then
        (uriBytes n (p.advance 3)).map fun (more, q) => ((Text.readNat 16 [a, b]).toUInt8 :: more, q)
      else .error .token
    | '%' :: _ => .error .token
    | _ => .ok ([], p)

def uriFrom : Nat → Place → Except Error (Text × Place)
  | 0, p => .ok ([], p)
  | n + 1, p =>
    match p.peek with
    | none => .ok ([], p)
    | some c =>
      if c = '%' then do
        let (bytes, q) ← uriBytes p.rest.length p
        match Text.Utf8.decode bytes with
        | .error _ => throw .token
        | .ok t => (uriFrom n q).map fun (u, r) => (t ++ u, r)
      else if isUriChar c then (uriFrom n p.next).map fun (u, r) => (c :: u, r)
      else .ok ([], p)

/-- A part of a tag, which cannot be empty. -/
def uri (p : Place) : Except Error (Text × Place) := do
  let (t, q) ← uriFrom (p.rest.length + 1) p
  if q.index = p.index then throw .token else return (t, q)

def tag (p : Place) : Except Error (Token × Place) := do
  let (t, q) ←
    match p.peekAt 1 with
    | some '<' => do
      let (suffix, q) ← uri (p.advance 2)
      if q.peek = some '>' then pure (Token.tag none suffix, q.next) else throw .token
    | c =>
      if endsToken c then pure (Token.tag none ['!'], p.next)
      else do
        let named := (p.next.rest.takeWhile fun c => !(isBreak c || c == ' ')).contains '!'
        let (handle, q) ← if named then tagHandle p else pure (['!'], p.next)
        let (suffix, r) ← uri q
        pure (Token.tag (some handle) suffix, r)
  if endsWord q.peek then return (t, q) else throw .token

def number (p : Place) : Except Error (Nat × Place) :=
  let (digits, q) := p.takeWhile Text.isDigit
  if digits.isEmpty then .error .token
  else if digits.length > Markup.digitLimit then .error (.scalar (.tooManyDigits digits.length))
  else .ok (Text.readNat 10 digits, q)

def skipSpaces (p : Place) : Place := p.skipWhile (· == ' ')

def directive (p : Place) : Except Error (Token × Place) := do
  let (w, q) ← word p.next
  if !endsWord q.peek then throw .token
  let (d, q) ←
    if w = ['Y', 'A', 'M', 'L'] then do
      let (major, q) ← number (skipSpaces q)
      if q.peek ≠ some '.' then throw .token
      let (minor, q) ← number q.next
      if endsWord q.peek then pure (Directive.version major minor, q) else throw .token
    else if w = ['T', 'A', 'G'] then do
      let (handle, q) ← tagHandle (skipSpaces q)
      if q.peek ≠ some ' ' then throw .token
      let (opening, q) ← uri (skipSpaces q)
      if endsWord q.peek then pure (Directive.tag handle opening, q) else throw .token
    else pure (Directive.other, q.skipWhile (!isBreak ·))
  let q ← q.ignoreLine
  return (.directive d, q)

/-! ## One step -/

/-- Past spaces, comments and breaks. Outside flow collections a key may begin on each new
    line. -/
def skipToToken : Nat → Lexer → Lexer
  | 0, x => x
  | n + 1, x =>
    let p := skipSpaces x.place
    let p := if p.peek == some '#' then p.skipWhile (!isBreak ·) else p
    match p.lineBreak with
    | ([], _) => { x with place := p }
    | (_, q) => skipToToken n { x with place := q, allowKey := x.allowKey || !x.inFlow }

/-- A token of so many characters. -/
def take (x : Lexer) (n : Nat) (t : Token) : Lexer := { x with place := x.place.advance n }.push t

/-- The end of the block collections, and a token between documents. -/
def boundary (x : Lexer) : Except Error Lexer :=
  (x.unwind (-1)).dropKey.map fun y => { y with allowKey := false }

def flowStart (t : Token) (x : Lexer) : Except Error Lexer :=
  x.saveKey.map fun y => { y with depth := y.depth + 1, allowKey := true }.take 1 t

def flowEnd (t : Token) (x : Lexer) : Except Error Lexer :=
  x.dropKey.map fun y => { y with depth := y.depth - 1, allowKey := false }.take 1 t

/-- An indicator that begins an entry or a key of a block collection. -/
def entry (collection t : Token) (keyAfter : Bool) (x : Lexer) : Except Error Lexer :=
  if !x.inFlow && !x.allowKey then .error .token
  else
    let y :=
      if x.inFlow then x
      else match x.addIndent x.place.column with
        | some y => y.push collection
        | none => x
    ({ y with allowKey := keyAfter } : Lexer).dropKey.map fun z => z.take 1 t

/-- A colon: the possible key of this depth is one. -/
def valueStep (x : Lexer) : Except Error Lexer :=
  match x.keys.lookup x.depth with
  | some k =>
    let y := { x with keys := x.keys.filter (·.1 ≠ x.depth) }.insertAt k.number .key
    let y :=
      if x.inFlow then y
      else match y.addIndent k.column with
        | some z => z.insertAt k.number .blockMappingStart
        | none => y
    .ok ({ y with allowKey := false }.take 1 .value)
  | none => entry .blockMappingStart .value (!x.inFlow) x

/-- A token that may be a key, and behind which none may begin. -/
def content (read : Place → Except Error (Token × Place)) (x : Lexer) : Except Error Lexer := do
  let y ← x.saveKey
  let (t, p) ← read x.place
  return { y with allowKey := false, place := p }.push t

def blockScalar (folded : Bool) (x : Lexer) : Except Error Lexer := do
  let y ← { x with allowKey := true }.dropKey
  let (t, p) ← Scalar.block folded (max (x.indent + 1) 1).toNat x.place
  return { y with place := p }.push (.scalar (.ofText t) false)

def plainScalar (x : Lexer) : Except Error Lexer :=
  x.saveKey.map fun y =>
    let (t, fresh, p) := Scalar.plain x.inFlow (x.indent + 1).toNat x.place
    { y with allowKey := fresh, place := p }.push (.scalar (.ofText t) true)

def startsPlain (inFlow : Bool) (p : Place) (c : Char) : Bool :=
  !(isBreak c || isSpaceOrTab c || "-?:,[]\x7b\x7d#&*!|>'\"%@\x60".toList.contains c) ||
    (!endsToken (p.peekAt 1) && (c == '-' || (!inFlow && (c == '?' || c == ':'))))

/-- The next token or tokens. -/
def fetch (x : Lexer) : Except Error Lexer := do
  let bom := x.place.index = 0 && x.place.peek == some '\uFEFF'
  let x := if bom then { x with place := x.place.next } else x
  let x := skipToToken (x.place.rest.length + 1) x
  let x ← x.dropStale
  let x := x.unwind x.place.column
  let p := x.place
  match p.peek with
  | none =>
    let y ← x.boundary
    return ({ y with keys := [], done := true } : Lexer).push .streamEnd
  | some c =>
    if c = '%' && p.column = 0 then do
      let y ← x.boundary
      let (t, q) ← directive p
      return ({ y with place := q } : Lexer).push t
    else if c = '-' && p.column = 0 && p.atSeparator then x.boundary.map fun y => y.take 3 .documentStart
    else if c = '.' && p.column = 0 && p.atSeparator then x.boundary.map fun y => y.take 3 .documentEnd
    else if c = '[' then x.flowStart .flowSequenceStart
    else if c = '\x7b' then x.flowStart .flowMappingStart
    else if c = ']' then x.flowEnd .flowSequenceEnd
    else if c = '\x7d' then x.flowEnd .flowMappingEnd
    else if c = ',' then ({ x with allowKey := true } : Lexer).dropKey.map fun y => y.take 1 .flowEntry
    else if c = '-' && endsToken (p.peekAt 1) then x.entry .blockSequenceStart .blockEntry true
    else if c = '?' && (x.inFlow || endsToken (p.peekAt 1)) then x.entry .blockMappingStart .key (!x.inFlow)
    else if c = ':' && (x.inFlow || endsToken (p.peekAt 1)) then x.valueStep
    else if c = '*' then x.content fun p => (name p).map fun (w, q) => (.alias w, q)
    else if c = '&' then x.content fun p => (name p).map fun (w, q) => (.anchor w, q)
    else if c = '!' then x.content tag
    else if c = '|' && !x.inFlow then x.blockScalar false
    else if c = '>' && !x.inFlow then x.blockScalar true
    else if c = '\'' || c = '"' then x.content fun p => (Scalar.quoted c p).map fun (t, q) => (.scalar t false, q)
    else if startsPlain x.inFlow p c then x.plainScalar
    else throw .token

end Lexer

/-! ## The row of tokens -/

/-- Things handed over one by one, and the error with which that ends, if it does. -/
structure Feed (α : Type) where
  items : List α
  fault : Option Error

def Feed.cons {α : Type} (a : α) (f : Feed α) : Feed α := { f with items := a :: f.items }

/-- Hand over tokens; every round takes one from the queue or goes on in the text. -/
def tokensFrom : Nat → Lexer → Feed Token
  | 0, _ => ⟨[], none⟩
  | n + 1, x =>
    let ready : Except Error Lexer := if x.done then .ok x else x.dropStale
    match (if x.queue.isEmpty then .ok x else ready) with
    | .error e => ⟨[], some e⟩
    | .ok x =>
      if !x.done && x.needsMore then
        match x.fetch with
        | .error e => ⟨[], some e⟩
        | .ok y => tokensFrom n y
      else match x.queue with
        | [] => ⟨[], none⟩
        | t :: rest => (tokensFrom n { x with queue := rest, taken := x.taken + 1 }).cons t

/-- The tokens of a text. A round goes on by one character at least or hands over a token,
    and no character makes more than four tokens in the end. -/
def tokens (s : Text) : Feed Token := tokensFrom (8 * (s.length + 4)) (.start s)

end MarkupJsx.Yaml
