/-
  MarkupJsx.Markup.Event — what reading a document reports, in order.

  The document is read in two passes. The first stops where a construct is incomplete, or
  where an ampersand opens no reference that can be read; the second goes on from there
  as a pass that knows that nothing more will come. It takes an incomplete construct as
  text up to its next `>` (or `<`), and where it stops it takes all that is left as text.
  Within a script or style element only the closing tag of that element counts; without
  it the rest of the document is lost.
-/

import MarkupJsx.Markup.Tag

namespace MarkupJsx.Markup

open Text (isBlank isLetter isAlphanumeric)

inductive Event where
  /-- Text, never empty, with its references replaced. -/
  | text (content : Text)
  | startTag (tag : Tag)
  | endTag (name : Text)
  /-- A comment, declaration, instruction or marked section: it only separates. -/
  | hidden
  deriving DecidableEq, Repr

/-- Elements whose content is not markup. -/
inductive RawElement where
  | script
  | style
  deriving DecidableEq, Repr

namespace RawElement

def name : RawElement → Text
  | script => ['s', 'c', 'r', 'i', 'p', 't']
  | style => ['s', 't', 'y', 'l', 'e']

def ofName? (n : Text) : Option RawElement :=
  if n = script.name then some script else if n = style.name then some style else none

/-- Equal but for case, in the sense in which the long s is an s, and the dotted capital
    and the dotless small i are an i. -/
def sameLetter (letter x : Char) : Bool :=
  Text.toAsciiLower x == letter || (letter == 's' && x.toNat == 0x17F) ||
    (letter == 'i' && (x.toNat == 0x130 || x.toNat == 0x131))

/-- The spelling of the name at the head of a text, and what follows. -/
def spelling? : Text → Text → Option (Text × Text)
  | [], s => some ([], s)
  | _ :: _, [] => none
  | l :: name, x :: s => if sameLetter l x then (spelling? name s).map fun (w, rest) => (x :: w, rest) else none

/-- The closing tag at the head of a text: its text, whether its name is plain ASCII, and
    what follows it. -/
def closer? (e : RawElement) : Text → Option (Text × Bool × Text)
  | '<' :: '/' :: s =>
    match spelling? e.name (s.dropWhile isBlank) with
    | none => none
    | some (w, rest) =>
      match rest.dropWhile isBlank with
      | '>' :: after => some (Tag.consumed ('<' :: '/' :: s) after, w.all (·.toNat < 0x80), after)
      | _ => none
  | _ => none

/-- The text before the next closing tag. -/
def contentBefore? (e : RawElement) : Text → Option Text
  | [] => none
  | c :: rest => if (closer? e (c :: rest)).isSome then some [] else (contentBefore? e rest).map (c :: ·)

end RawElement

/-! ## Searching -/

/-- What follows the first place at which `at?` finds something. -/
def searchAfter (at? : Text → Option Text) : Text → Option Text
  | [] => at? []
  | c :: rest => (at? (c :: rest)).or (searchAfter at? rest)

/-- A character with blanks behind it. -/
def charAt? (c : Char) : Text → Option Text
  | [] => none
  | x :: rest => if x = c then some (rest.dropWhile isBlank) else none

/-- Two hyphens, blanks and the end of a tag. -/
def commentEnd? : Text → Option Text
  | '-' :: '-' :: rest =>
    match rest.dropWhile isBlank with
    | '>' :: after => some after
    | _ => none
  | _ => none

/-- The end of a marked section: one closing bracket or two, blanks behind each. -/
def sectionEnd? (brackets : Nat) (s : Text) : Option Text :=
  match brackets with
  | 0 =>
    match s with
    | '>' :: after => some after
    | _ => none
  | n + 1 => (charAt? ']' s).bind (sectionEnd? n)

/-- What follows the next `>`. -/
def pastTag? (s : Text) : Option Text := (Text.cutAfter? '>' s).map (·.2)

/-! ## Constructs -/

/-- What stands at the head of a text. -/
inductive Construct where
  /-- The event that it makes, if any, and what follows it. -/
  | whole (event : Option Event) (rest : Text)
  | incomplete

def Construct.hiddenUpTo (rest : Option Text) : Construct :=
  match rest with
  | some r => .whole (some .hidden) r
  | none => .incomplete

def isSectionChar (c : Char) : Bool := isAlphanumeric c || c == '-' || c == '_' || c == '.'

/-- Keywords of sections that end with two brackets. -/
def textSections : List Text := ["temp", "cdata", "ignore", "include", "rcdata"].map String.toList

/-- Keywords of sections that end with one bracket. -/
def conditionSections : List Text := ["if", "else", "endif"].map String.toList

/-- A marked section, given all of it and what follows its `<![`. -/
def markedSection (whole inner : Text) : Except MarkupError Construct :=
  match inner with
  | [] => .ok .incomplete
  | c :: _ =>
    if isLetter c then
      let name := inner.takeWhile isSectionChar
      let behind := inner.dropWhile isSectionChar
      let keyword := name.map Text.toAsciiLower
      if (behind.dropWhile isBlank).isEmpty then .ok .incomplete
      else if textSections.contains keyword then .ok (.hiddenUpTo (searchAfter (sectionEnd? 2) inner))
      else if conditionSections.contains keyword then .ok (.hiddenUpTo (searchAfter (sectionEnd? 1) inner))
      else .error (.unknownSection (name ++ behind.takeWhile isBlank))
    else .error (.sectionWithoutName (whole.take 20))

/-- A declaration, comment or marked section, given what follows its `<!`. -/
def declaration (inner : Text) : Except MarkupError Construct :=
  match inner with
  | '-' :: '-' :: rest => .ok (.hiddenUpTo (searchAfter commentEnd? rest))
  | '[' :: rest => markedSection ('<' :: '!' :: inner) rest
  | _ =>
    if (inner.take 7).map Text.toAsciiLower = "doctype".toList then .ok (.hiddenUpTo (pastTag? (inner.drop 7)))
    else .ok (.hiddenUpTo (pastTag? inner))

def isEndNameChar (c : Char) : Bool := isAlphanumeric c || c == '-' || c == '.' || c == ':' || c == '_'

/-- The name of a regular end tag, given what follows its `</`. -/
def endName? (inner : Text) : Option Text :=
  match inner.dropWhile isBlank with
  | [] => none
  | c :: rest =>
    if isLetter c then
      match (rest.dropWhile isEndNameChar).dropWhile isBlank with
      | '>' :: _ => some (c :: rest.takeWhile isEndNameChar)
      | _ => none
    else none

/-- An end tag, given what follows its `</`. One that is not regular still closes the
    element whose name stands first in it, is skipped when empty, and hidden otherwise. -/
def endTag (inner : Text) : Construct :=
  match pastTag? inner with
  | none => .incomplete
  | some rest =>
    match endName? inner with
    | some name => .whole (some (.endTag name.lower)) rest
    | none =>
      match inner with
      | '>' :: _ => .whole none rest
      | c :: tail =>
        if isLetter c then .whole (some (.endTag (Text.lower (c :: tail.takeWhile Tag.isNameChar)))) rest
        else .whole (some .hidden) rest
      | [] => .incomplete

/-! ## Steps -/

/-- One step of a pass. -/
inductive Step where
  | on (events : List Event) (mode : Option RawElement) (rest : Text)
  | stop (events : List Event) (rest : Text)

/-- The text that an incomplete construct is taken for in the last pass. -/
def textOfIncomplete (s : Text) : Text :=
  match s with
  | [] => []
  | c :: rest =>
    match Text.cutAfter? '>' rest with
    | some (t, _) => c :: t
    | none => if rest.contains '<' then c :: rest.takeWhile (· != '<') else [c]

/-- Go on behind a construct, or deal with an incomplete one. -/
def Construct.step (final : Bool) (s : Text) : Construct → Step
  | whole event rest => .on event.toList none rest
  | incomplete => if final then .on [.text (textOfIncomplete s)] none (s.drop (textOfIncomplete s).length) else .stop [] s

/-- A start tag at the head of `s = '<' :: c :: tail`; plain script and style tags change
    the way in which the rest is read. -/
def startTagStep (final : Bool) (c : Char) (tail : Text) : Except MarkupError Step :=
  (Tag.scan c tail).map fun
    | .whole tag rest => .on [.startTag tag] (if tag.selfClosing then none else RawElement.ofName? tag.name) rest
    | .broken source rest => .on [.text source] none rest
    | .incomplete => Construct.step final ('<' :: c :: tail) .incomplete

/-- A step at a `<` with `rest` behind it. -/
def openStep (final : Bool) (rest : Text) : Except MarkupError Step :=
  match rest with
  | [] => .ok (.stop [] ['<'])
  | '/' :: inner => .ok ((endTag inner).step final ('<' :: rest))
  | '!' :: inner => (declaration inner).map (·.step final ('<' :: rest))
  | '?' :: inner => .ok ((Construct.hiddenUpTo (pastTag? inner)).step final ('<' :: rest))
  | c :: tail => if isLetter c then startTagStep final c tail else .ok (.on [.text ['<']] none rest)

/-- A step at an ampersand with `rest` behind it. -/
def referenceStep (final : Bool) (rest : Text) : Except MarkupError Step :=
  match rest with
  | '#' :: number =>
    match Entity.numericInText? number with
    | some (r, after) => r.code.map fun n => .on [.text [Entity.meant n]] none (Entity.dropSemicolon after)
    | none => .ok (if number.contains ';' then .stop [.text ['&', '#']] number else .stop [] ('&' :: rest))
  | [] => .ok (.stop [] ['&'])
  | c :: tail =>
    if isLetter c then
      match Entity.nameInText? rest with
      | some (name, after) => .ok (.on [.text (Entity.named name)] none (Entity.dropSemicolon after))
      | none => .ok (if final && tail.isEmpty then .stop [] rest else .stop [] ('&' :: rest))
    else .ok (.on [.text ['&']] none rest)

def isPlain (c : Char) : Bool := c != '<' && c != '&'

/-- A step within a script or style element. -/
def rawStep (e : RawElement) (s : Text) : Step :=
  match e.closer? s with
  | some (tag, plain, rest) => if plain then .on [.endTag e.name] none rest else .on [.text tag] (some e) rest
  | none =>
    match e.contentBefore? s with
    | some t => .on [.text t] (some e) (s.drop t.length)
    | none => .stop [] s

def step (final : Bool) (mode : Option RawElement) (c : Char) (rest : Text) : Except MarkupError Step :=
  match mode with
  | some e => .ok (rawStep e (c :: rest))
  | none =>
    if c = '<' then openStep final rest
    else if c = '&' then referenceStep final rest
    else .ok (.on [.text (c :: rest.takeWhile isPlain)] none (rest.dropWhile isPlain))

end MarkupJsx.Markup
