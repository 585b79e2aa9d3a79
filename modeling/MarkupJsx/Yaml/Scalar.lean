/-
  MarkupJsx.Yaml.Scalar — the texts of scalars: plain, quoted, and in blocks.

  Within a scalar a single break between two lines reads as a space, and further breaks
  stay. A block scalar keeps its breaks, unless it is folded; its header may say how far
  its lines are indented and what becomes of the breaks at its end.
-/

import MarkupJsx.Yaml.Token

namespace MarkupJsx.Yaml.Scalar

/-- What a run of breaks is read as: the first one and those that follow it. -/
def foldBreaks (first more : Text) : Text :=
  if first ≠ ['\n'] then first ++ more else if more.isEmpty then [' '] else more

/-! ## Plain scalars -/

def isFlowIndicator (c : Char) : Bool := c == ',' || c == '[' || c == ']' || c == '{' || c == '}'

/-- The characters of a plain scalar up to the next blank, or to a colon that ends a key. -/
def plainWord (inFlow : Bool) : Text → Text
  | [] => []
  | c :: rest =>
    if isBreak c || isSpaceOrTab c then []
    else if c = ':' && (endsToken rest.head? || (inFlow && rest.head?.any isFlowIndicator)) then []
    else if inFlow && (isFlowIndicator c || c = '?') then []
    else c :: plainWord inFlow rest

/-- Further breaks and spaces: the breaks, and whether a separator of documents follows
    one. -/
def moreBreaks : Nat → Place → Text × Bool × Place
  | 0, p => ([], false, p)
  | n + 1, p =>
    let p := p.skipWhile (· == ' ')
    match p.lineBreak with
    | ([], _) => ([], false, p)
    | (b, q) =>
      if q.atSeparator then (b, true, q)
      else
        let (more, stopped, r) := moreBreaks n q
        (b ++ more, stopped, r)

/-- The space between two words of a plain scalar: how it is read (the empty text when the
    scalar cannot go on), whether a line ended in it, and the place behind it. -/
def plainSpace (p : Place) : Text × Bool × Place :=
  let (blanks, q) := p.takeWhile (· == ' ')
  match q.lineBreak with
  | ([], _) => (blanks, false, q)
  | (first, r) =>
    if r.atSeparator then ([], true, r)
    else
      let (more, stopped, s) := moreBreaks (r.rest.length + 1) r
      if stopped then ([], true, s) else (foldBreaks first more, true, s)

/-- A plain scalar: `text` and `space` are what is read of it; `fresh` tells that a line has
    just ended, and is reported with the scalar. -/
def plainFrom (inFlow : Bool) (indent : Nat) : Nat → Text → Text → Bool → Place → Text × Bool × Place
  | 0, text, _, fresh, p => (text, fresh, p)
  | n + 1, text, space, fresh, p =>
    let word := plainWord inFlow p.rest
    if p.peek == some '#' || word.isEmpty then (text, fresh, p)
    else
      let text := text ++ space ++ word
      let (space, fresh, q) := plainSpace (p.advance word.length)
      if space.isEmpty || q.peek == some '#' || (!inFlow && q.column < indent) then (text, fresh, q)
      else plainFrom inFlow indent n text space fresh q

/-- The plain scalar at a place, whether a line ended behind it, and the place there. -/
def plain (inFlow : Bool) (indent : Nat) (p : Place) : Text × Bool × Place :=
  plainFrom inFlow indent (p.rest.length + 1) [] [] false p

/-! ## Quoted scalars -/

/-- Characters that a backslash and one letter stand for. -/
def escapes : List (Char × Nat) :=
  [('0', 0), ('a', 7), ('b', 8), ('t', 9), ('\t', 9), ('n', 0xA), ('v', 0xB), ('f', 0xC), ('r', 0xD), ('e', 0x1B),
   (' ', 0x20), ('"', 0x22), ('\\', 0x5C), ('/', 0x2F), ('N', 0x85), ('_', 0xA0), ('L', 0x2028), ('P', 0x2029)]

/-- How many hexadecimal digits follow a letter. -/
def codeLengths : List (Char × Nat) := [('x', 2), ('u', 4), ('U', 8)]

/-- The code point of an escaped code. -/
def pointOfCode (n : Nat) : Except Error CodePoint :=
  match CodePoint.ofNat? n with
  | some c => .ok c
  | none => .error (.scalar (.codePoint (n > 0x7FFFFFFF)))

/-- Breaks and the blanks around them; a separator of documents may not follow a break. -/
def quotedBreaks : Nat → Place → Except Error (Text × Place)
  | 0, p => .ok ([], p)
  | n + 1, p =>
    if p.atSeparator then .error .token
    else
      let p := p.skipWhile isSpaceOrTab
      match p.lineBreak with
      | ([], _) => .ok ([], p)
      | (b, q) => (quotedBreaks n q).map fun (more, r) => (b ++ more, r)

/-- Blanks and breaks within quotes. -/
def quotedSpace (p : Place) : Except Error (Text × Place) :=
  let (blanks, q) := p.takeWhile isSpaceOrTab
  match q.peek with
  | none => .error .token
  | some c =>
    if isBreak c then
      let (first, r) := q.lineBreak
      (quotedBreaks (r.rest.length + 1) r).map fun (more, s) => (foldBreaks first more, s)
    else .ok (blanks, q)

/-- What a backslash, which lies behind, stands for together with what follows it. -/
def escaped (p : Place) : Except Error (WideText × Place) :=
  match p.peek with
  | none => .error .token
  | some c =>
    match escapes.lookup c with
    | some n => .ok ([.char (Char.ofNat n)], p.next)
    | none =>
      match codeLengths.lookup c with
      | some n =>
        let digits := p.next.rest.take n
        if digits.length = n && digits.all Text.isHexDigit then
          (pointOfCode (Text.readNat 16 digits)).map fun c => ([c], p.next.advance n)
        else .error .token
      | none =>
        if isBreak c then
          let q := p.lineBreak.2
          (quotedBreaks (q.rest.length + 1) q).map fun (t, r) => (.ofText t, r)
        else .error .token

/-- A quoted scalar from within its quotes, up to behind the closing one. -/
def quotedFrom (quote : Char) : Nat → Place → Except Error (WideText × Place)
  | 0, _ => .error .token
  | n + 1, p =>
    match p.peek with
    | none => .error .token
    | some c =>
      if c = quote then
        if quote = '\'' && p.peekAt 1 == some '\'' then (quotedFrom quote n (p.advance 2)).map fun (t, q) => (.char '\'' :: t, q)
        else .ok ([], p.next)
      else
        let piece :=
          if c = '\\' && quote = '"' then escaped p.next
          else if isSpaceOrTab c || isBreak c then (quotedSpace p).map fun (t, q) => (.ofText t, q)
          else .ok ([.char c], p.next)
        match piece with
        | .error e => .error e
        | .ok (t, q) => (quotedFrom quote n q).map fun (u, r) => (t ++ u, r)

/-- The quoted scalar at a place. -/
def quoted (quote : Char) (p : Place) : Except Error (WideText × Place) := quotedFrom quote (p.rest.length + 1) p.next

/-! ## Block scalars -/

/-- What becomes of the breaks behind the last line. -/
inductive Chomping where
  | keepOne
  | keepAll
  | dropAll
  deriving DecidableEq

structure Header where
  chomping : Chomping
  /-- The indentation of the lines, where it is given. -/
  indent : Option Nat

def chompingOf? (c : Option Char) : Option Chomping :=
  if c == some '+' then some .keepAll else if c == some '-' then some .dropAll else none

def digitOf? (c : Option Char) : Option Nat := (c.filter Text.isDigit).map Text.digitValue

/-- The two parts of a header, in either order. -/
def header (p : Place) : Except Error (Header × Place) :=
  let (chomping, indent, q) :=
    match chompingOf? p.peek with
    | some k =>
      match digitOf? p.next.peek with
      | some n => (k, some n, p.next.next)
      | none => (k, none, p.next)
    | none =>
      match digitOf? p.peek with
      | some n =>
        match chompingOf? p.next.peek with
        | some k => (k, some n, p.next.next)
        | none => (Chomping.keepOne, some n, p.next)
      | none => (.keepOne, none, p)
  if indent = some 0 || !endsWord q.peek then .error .token else .ok (⟨chomping, indent⟩, q)

/-- The breaks before the first line, and the widest indentation met on the way. -/
def leadingBreaks : Nat → Nat → Place → Text × Nat × Place
  | 0, widest, p => ([], widest, p)
  | n + 1, widest, p =>
    if p.peek == some ' ' then leadingBreaks n (max widest p.next.column) p.next
    else match p.lineBreak with
      | ([], _) => ([], widest, p)
      | (b, q) =>
        let (more, widest, r) := leadingBreaks n widest q
        (b ++ more, widest, r)

/-- Breaks between lines of an indentation. -/
def blockBreaks (indent : Nat) : Nat → Place → Text × Place
  | 0, p => ([], p)
  | n + 1, p =>
    let p := p.skipSpacesTo indent p.rest.length
    match p.lineBreak with
    | ([], _) => ([], p)
    | (b, q) =>
      let (more, r) := blockBreaks indent n q
      (b ++ more, r)

/-- The lines of a block scalar, given the breaks before the next one: their text without
    the last break, that break, and the breaks behind it. -/
def blockLines (folded : Bool) (indent : Nat) : Nat → Text → Place → Text × Text × Text × Place
  | 0, breaks, p => ([], [], breaks, p)
  | n + 1, breaks, p =>
    if p.column = indent && p.peek.isSome then
      let opensWide := p.peek.all isSpaceOrTab
      let (line, q) := p.takeWhile (!isBreak ·)
      let (last, q) := q.lineBreak
      let (after, q) := blockBreaks indent (q.rest.length + 1) q
      if q.column = indent && q.peek.isSome then
        let between :=
          if folded && last = ['\n'] && !opensWide && !q.peek.any isSpaceOrTab then (if after.isEmpty then [' '] else [])
          else last
        let (text, last, after, r) := blockLines folded indent n after q
        (breaks ++ line ++ between ++ text, last, after, r)
      else (breaks ++ line, last, after, q)
    else ([], [], breaks, p)

/-- The block scalar whose indicator is at a place, `least` being the least indentation that
    its lines may have. -/
def block (folded : Bool) (least : Nat) (p : Place) : Except Error (Text × Place) := do
  let (h, q) ← header p.next
  let q ← q.ignoreLine
  let fuel := q.rest.length + 1
  let (breaks, indent, r) :=
    match h.indent with
    | some n =>
      let indent := least + n - 1
      let (breaks, r) := blockBreaks indent fuel q
      (breaks, indent, r)
    | none =>
      let (breaks, widest, r) := leadingBreaks fuel 0 q
      (breaks, max least widest, r)
  let (text, last, after, r) := blockLines folded indent fuel breaks r
  let tail :=
    match h.chomping with
    | .keepOne => last
    | .keepAll => last ++ after
    | .dropAll => []
  return (text ++ tail, r)

end MarkupJsx.Yaml.Scalar
