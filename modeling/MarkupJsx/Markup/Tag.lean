/-
  MarkupJsx.Markup.Tag — reading the inside of a start tag.

  A tag is read by a cursor, which knows the character before it: an attribute name may
  begin only behind a blank, a slash or a quote. A name runs to the next blank, slash,
  equals sign or end of the tag. A value follows one or more equals signs, which may have
  blanks around them; it is quoted, or runs to the next blank or end of the tag. A quote
  that is never closed begins no quoted value: the value is then empty when a blank stands
  before the quote, takes the last of several equals signs with it otherwise, and is
  absent after a single one.

  Names are lower-cased and values decoded when the tag is reported. The names as they are
  written are found by a second reading of the tag's own text (`declaredNames`).
-/

import MarkupJsx.Markup.Entity
import MarkupJsx.Markup.Node
import MarkupJsx.Text.Lowercase

namespace MarkupJsx.Markup

open Text (isBlank isLetter)

/-! ## Cursors -/

/-- A place in a text: the character before it and all that follows. -/
structure Cursor where
  before : Char
  rest : Text

namespace Cursor

def skip (p : Char → Bool) (c : Cursor) : Cursor :=
  ⟨(c.rest.takeWhile p).getLastD c.before, c.rest.dropWhile p⟩

theorem length_skip_le (p : Char → Bool) (c : Cursor) : (c.skip p).rest.length ≤ c.rest.length :=
  Entity.length_dropWhile_le p c.rest

/-- Past blanks, and past slashes that do not close a tag. -/
def skipGap (before : Char) : Text → Cursor
  | [] => ⟨before, []⟩
  | c :: rest =>
    if isBlank c || (c == '/' && rest.head? != some '>') then skipGap c rest else ⟨before, c :: rest⟩

theorem length_skipGap_le (b : Char) (s : Text) : (skipGap b s).rest.length ≤ s.length := by
  fun_induction skipGap b s <;> simp_all; omega

end Cursor

/-! ## Attributes -/

namespace Tag

def isNameChar (c : Char) : Bool :=
  !(c == '\t' || c == '\n' || c == '\r' || c == '\x0c' || c == ' ' || c == '/' || c == '>' || c == '\x00')

def isQuote (c : Char) : Bool := c == '\'' || c == '"'

/-- An attribute may begin behind this character. -/
def opensAttr (c : Char) : Bool := isQuote c || isBlank c || c == '/'

def startsKey (c : Char) : Bool := !isBlank c && c != '/' && c != '>'

def isKeyChar (c : Char) : Bool := startsKey c && c != '='

def isBareChar (c : Char) : Bool := !isBlank c && c != '>'

/-- A value that is not quoted. -/
def bareValue (c : Cursor) : Text × Cursor := (c.rest.takeWhile isBareChar, c.skip isBareChar)

/-- The value behind a name, as it is written but without its quotes. -/
def value? (c : Cursor) : Option (Text × Cursor) :=
  let first := c.skip isBlank
  let signs := first.rest.takeWhile (· == '=')
  let behind := first.skip (· == '=')
  let gap := behind.rest.takeWhile isBlank
  let here := behind.skip isBlank
  if signs.isEmpty then none
  else match here.rest with
    | [] => some (bareValue here)
    | q :: tail =>
      if !isQuote q then some (bareValue here)
      else match tail.dropWhile (· != q) with
        | close :: after => some (tail.takeWhile (· != q), ⟨close, after⟩)
        | [] =>
          match gap.getLast? with
          | some blank => some ([], ⟨gap.dropLast.getLastD '=', blank :: here.rest⟩)
          | none => if signs.length < 2 then none else some ((bareValue here).map ('=' :: ·) id)

/-- The attribute that begins at the cursor, if one may: its name and value as written,
    and the place behind it. -/
def attr? (c : Cursor) : Option (Attr × Cursor) :=
  match c.rest with
  | [] => none
  | x :: tail =>
    if opensAttr c.before && startsKey x then
      let key := x :: tail.takeWhile isKeyChar
      let behind := Cursor.skip isKeyChar ⟨x, tail⟩
      match value? behind with
      | some (v, after) => some (⟨key, some v⟩, after)
      | none => some (⟨key, none⟩, behind)
    else none

theorem length_of_value? {c c' : Cursor} {v : Text} (h : value? c = some (v, c')) :
    c'.rest.length ≤ c.rest.length := by
  have h1 := Cursor.length_skip_le isBlank c
  have h2 := Cursor.length_skip_le (· == '=') (c.skip isBlank)
  have h3 := Cursor.length_skip_le isBlank ((c.skip isBlank).skip (· == '='))
  have h4 := Cursor.length_skip_le isBareChar (((c.skip isBlank).skip (· == '=')).skip isBlank)
  unfold value? at h
  dsimp only at h
  split at h
  · cases h
  · split at h
    · simp [bareValue] at h; rw [← h.2]; omega
    · next q tail hq =>
      split at h
      · simp [bareValue] at h; rw [← h.2]; omega
      · split at h
        · next close after ha =>
          have := Entity.length_dropWhile_le (· != q) tail
          rw [hq] at h3; rw [ha] at this
          simp at h this h3; rw [← h.2]; simp; omega
        · split at h
          · next blank hb =>
            have hg : 1 ≤ (((c.skip isBlank).skip (· == '=')).rest.takeWhile isBlank).length := by
              rcases List.eq_nil_or_concat (((c.skip isBlank).skip (· == '=')).rest.takeWhile isBlank) with e | ⟨l, x, e⟩
              · rw [e] at hb; cases hb
              · rw [e]; simp
            have hsum := congrArg List.length
              (List.takeWhile_append_dropWhile (p := isBlank) (l := ((c.skip isBlank).skip (· == '=')).rest))
            simp only [List.length_append] at hsum
            simp at h; rw [← h.2]
            simp only [Cursor.skip, List.length_cons] at *; omega
          · split at h
            · cases h
            · simp [bareValue] at h; rw [← h.2]; omega

theorem length_of_attr? {c c' : Cursor} {a : Attr} (h : attr? c = some (a, c')) :
    c'.rest.length < c.rest.length := by
  unfold attr? at h
  split at h
  · cases h
  · next x tail hx =>
    have h1 := Cursor.length_skip_le isKeyChar ⟨x, tail⟩
    split at h
    · dsimp only at h
      split at h
      · next v after hv =>
        have h2 := length_of_value? hv
        simp at h h1; rw [← h.2, hx]; simp; omega
      · simp at h h1; rw [← h.2, hx]; simp; omega
    · cases h

/-- The attributes from the cursor on, each with the gap behind it, and where they end. -/
def attrsFrom (c : Cursor) : List Attr × Cursor :=
  match h : attr? c with
  | none => ([], c)
  | some (a, behind) =>
    have : (Cursor.skipGap behind.before behind.rest).rest.length < c.rest.length :=
      Nat.lt_of_le_of_lt (Cursor.length_skipGap_le ..) (length_of_attr? h)
    let more := attrsFrom (Cursor.skipGap behind.before behind.rest)
    (a :: more.1, more.2)
termination_by c.rest.length

theorem length_attrsFrom_le (c : Cursor) : (attrsFrom c).2.rest.length ≤ c.rest.length := by
  fun_induction attrsFrom c with
  | case1 => simp
  | case2 c a behind h hlt more ih => exact Nat.le_of_lt (Nat.lt_of_le_of_lt ih hlt)

/-! ## Names as written -/

/-- The names found by trying every place in turn. -/
def keysFrom (c : Cursor) : List Text :=
  match hr : c.rest with
  | [] => []
  | x :: tail =>
    match h : attr? c with
    | some (a, behind) =>
      have := length_of_attr? h
      a.key :: keysFrom behind
    | none =>
      have : tail.length < c.rest.length := by simp [hr]
      keysFrom ⟨x, tail⟩
termination_by c.rest.length

/-- The attribute names of a start tag, spelled as in its text. -/
def declaredNames (tag : Text) : List Text :=
  match tag with
  | '<' :: c :: rest => if isLetter c then keysFrom (Cursor.skip isNameChar ⟨c, rest⟩) else []
  | _ => []

/-! ## Whole start tags -/

end Tag

/-- A start tag as reported: its text, its name in lower case, and its attributes with
    lower-cased names and decoded values. -/
structure Tag where
  source : Text
  name : Text
  attrs : List Attr
  selfClosing : Bool
  deriving DecidableEq, Repr

namespace Tag

inductive Scan where
  /-- A tag, and what follows it. -/
  | whole (tag : Tag) (rest : Text)
  /-- A character that no tag may hold there: the text up to it is no tag. -/
  | broken (source rest : Text)
  /-- The text ends within the tag, or a quoted value is never closed. -/
  | incomplete

def decodeAttr (a : Attr) : Except MarkupError Attr :=
  match a.value with
  | none => .ok ⟨a.key.lower, none⟩
  | some v => (Entity.decodeValue v).map fun t => ⟨a.key.lower, some t⟩

/-- The part of `s` that `rest` follows. -/
def consumed (s rest : Text) : Text := s.take (s.length - rest.length)

/-- The start tag whose name begins with `c`, with `rest` behind it. -/
def scan (c : Char) (rest : Text) : Except MarkupError Scan :=
  let whole := '<' :: c :: rest
  let name : Text := c :: rest.takeWhile isNameChar
  let behind := Cursor.skip isNameChar ⟨c, rest⟩
  let (written, stop) := attrsFrom (Cursor.skipGap behind.before behind.rest)
  let report (selfClosing : Bool) (after : Text) : Except MarkupError Scan :=
    (written.mapM decodeAttr).map fun attrs => .whole ⟨consumed whole after, name.lower, attrs, selfClosing⟩ after
  match stop.rest with
  | [] => .ok .incomplete
  | '>' :: after => report false after
  | '/' :: '>' :: after => report true after
  | x :: tail =>
    if isLetter x || x = '=' || x = '/' then .ok .incomplete
    else (written.mapM decodeAttr).map fun _ => .broken (consumed whole (x :: tail)) (x :: tail)

/-- The names as written take the place of lower-cased ones where the two readings of the
    tag agree. -/
def spelled (t : Tag) : List Attr :=
  let names := declaredNames t.source
  if names.length = t.attrs.length then
    names.zipWith (fun name a => if name.lower = a.key then ⟨name, a.value⟩ else a) t.attrs
  else t.attrs

end Tag

end MarkupJsx.Markup
