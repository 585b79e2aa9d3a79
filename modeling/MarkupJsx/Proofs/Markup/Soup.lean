/-
  MarkupJsx.Proofs.Markup.Soup — tag soup: tokens in any order, printed one after the other.

  Tokens are start and end tags in any case, texts, comments, doctypes and processing
  instructions, each legible on its own and no two texts in a row. Tags need not match:
  elements may be left open, closed crosswise or closed without having been opened, and a
  void element may stand anywhere.

  Each token does one thing to a growth, whatever follows it (`Growth.read_token`), and one
  thing to the plain tree builder; the two stay on each other's track (`Growth.Follows`), so
  a soup is converted to the JSX of the document that the builder makes of it
  (`convert_soup`).
-/

import Mathlib.Data.List.Chain
import MarkupJsx.Conversion
import MarkupJsx.Proofs.Markup.StartTag
import MarkupJsx.Proofs.Markup.TreeBuilder

namespace MarkupJsx.Markup

open Text (isLetter)

/-! ## Tokens -/

inductive Token where
  | startTag (name : Text) (attrs : List WrittenAttr)
  | endTag (name : Text)
  | text (content : Text)
  | comment (content : Text)
  | doctype (content : Text)
  | instruction (content : Text)
  deriving DecidableEq, Repr

namespace Token

def print : Token → Text
  | startTag name as => '<' :: (name ++ (attrsText as ++ ['>']))
  | endTag name => '<' :: '/' :: (name ++ ['>'])
  | text s => s
  | comment c => '<' :: '!' :: '-' :: '-' :: (c ++ ['-', '-', '>'])
  | doctype d => '<' :: '!' :: 'D' :: 'O' :: 'C' :: 'T' :: 'Y' :: 'P' :: 'E' :: ' ' :: (d ++ ['>'])
  | instruction p => '<' :: '?' :: (p ++ ['>'])

def isText : Token → Bool
  | text _ => true
  | _ => false

/-- A name of a tag that does not change how the rest is read. -/
def IsPlainName (name : Text) : Prop := IsTagName name ∧ RawElement.ofName? name.lower = none

/-- Void elements have no end tag of their own. Ampersands of a text begin one of the four
    entities or no reference at all. -/
def Legible : Token → Prop
  | startTag name as => IsPlainName name ∧ ∀ a ∈ as, a.Legible
  | endTag name => IsPlainName name ∧ voidElements.contains name.lower = false
  | text s => '<' ∉ s ∧ Accounted Growth.OpensNoReference s
  | comment c => HoldsNoCommentEnd c
  | doctype d => '>' ∉ d
  | instruction p => '>' ∉ p

/-- Two texts in a row would be one. -/
def Apart (t t' : Token) : Prop := t.isText = false ∨ t'.isText = false

end Token

instance : DecidableRel Token.Apart := fun t t' => inferInstanceAs (Decidable (t.isText = false ∨ t'.isText = false))

structure Soup (ts : List Token) : Prop where
  legible : ∀ t ∈ ts, t.Legible
  apart : ts.IsChain Token.Apart

def printAll (ts : List Token) : Text := ts.flatMap Token.print

/-- What a token does to a document: a start tag makes an element under its name in lower
    case, with the attributes that are meant, and a text a node with its entities read back. -/
def TreeBuilder.step (b : TreeBuilder) : Token → TreeBuilder
  | .startTag name as => b.enter name.lower (Attr.collapse (as.map (·.meant)))
  | .endTag name => b.close name.lower
  | .text s => b.add (.text (Jsx.unescape s))
  | .comment _ | .doctype _ | .instruction _ => b

/-- The document that the tokens describe. -/
def TreeBuilder.build (ts : List Token) : Forest := (ts.foldl TreeBuilder.step .start).finish

/-! ## Reading a token -/

namespace Growth

variable {final : Bool} {g : Growth} {b : TreeBuilder} {t : Token} {rest : Text}

/-- What a token does to a growth. -/
def take (g : Growth) : Token → Growth
  | .startTag name as => g.startElement name.lower (Attr.collapse (as.map (·.meant))) false
  | .endTag name => g.step (.endTag name.lower)
  | .text s => g.write (Jsx.unescape s)
  | .comment _ | .doctype _ | .instruction _ => g.settle

/-- Behind a text nothing may complete the reference that an ampersand at its end would
    begin. -/
theorem read_token (h : t.Legible) (hrest : t.isText = true → OpensNoReference rest) :
    g.read final (t.print ++ rest) = (g.take t).read final rest := by
  cases t with
  | startTag name as =>
    obtain ⟨⟨hname, hraw⟩, has⟩ := h
    rw [Token.print, List.cons_append, List.append_assoc, List.append_assoc]
    exact read_startTag hname hraw has false rest
  | endTag name =>
    obtain ⟨⟨hname, -⟩, -⟩ := h
    rw [Token.print, List.cons_append, List.cons_append, List.append_assoc]
    exact read_endTag hname
  | text s =>
    obtain ⟨hlt, hs⟩ := h
    refine read_spelled (fun q hq => ?_) (spells_unescape hs) hlt
    cases q with
    | nil => exact hrest rfl
    | cons d q => exact hq
  | comment c =>
    rw [Token.print, List.cons_append, List.cons_append, List.cons_append, List.cons_append, List.append_assoc]
    exact read_comment h
  | doctype d =>
    have hd : '>' ∉ ' ' :: d := by simpa [Token.Legible] using h
    have hprint : (Token.doctype d).print ++ rest =
        '<' :: '!' :: 'D' :: 'O' :: 'C' :: 'T' :: 'Y' :: 'P' :: 'E' :: ((' ' :: d) ++ '>' :: rest) := by
      simp [Token.print]
    rw [hprint]
    exact read_doctype hd
  | instruction p =>
    rw [Token.print, List.cons_append, List.cons_append, List.append_assoc]
    exact read_instruction h

/-! ## Both sides -/

/-- The builder is on the growth's track, and only void elements are owed end tags. -/
structure Follows (g : Growth) (b : TreeBuilder) : Prop where
  tracks : Tracks g.settle b
  owed : g.OwesVoids

theorem follows_start : Follows .start .start := ⟨tracks_start, fun _ h => (by cases h)⟩

/-- With nothing pending there is nothing to settle. -/
theorem follows_of_tracks (h : Tracks g b) (hp : g.pending = []) (howed : g.OwesVoids) : Follows g b := by
  refine ⟨?_, howed⟩
  rw [settle_of_nil hp]
  exact h

/-- The builder follows each token, and only a text leaves something pending. -/
theorem follows_take (h : Follows g b) (ht : t.Legible) (hp : t.isText = true → g.pending = []) :
    Follows (g.take t) (b.step t) ∧ (t.isText = false → (g.take t).pending = []) := by
  obtain ⟨htracks, howed⟩ := h
  have quiet : Follows g.settle b ∧ g.settle.pending = [] :=
    ⟨follows_of_tracks htracks (settle_pending g) (owesVoids_congr (settle_owed g) howed), settle_pending g⟩
  cases t with
  | startTag name as =>
    rw [take, TreeBuilder.step]
    cases hv : voidElements.contains name.lower with
    | true =>
      rw [startElement_void hv]
      refine ⟨follows_of_tracks (htracks.enter_void hv) (settle_pending g) fun n hn => ?_, fun _ => settle_pending g⟩
      rcases List.mem_cons.mp hn with rfl | hn
      · exact hv
      · exact howed n hn
    | false =>
      rw [startElement_open hv]
      have howed' := owesVoids_congr (settle_owed g) howed
      exact ⟨follows_of_tracks (htracks.enter hv) (settle_pending g) howed', fun _ => settle_pending g⟩
  | endTag name =>
    rw [take, TreeBuilder.step, step_endTag howed ht.2]
    have howed' := owesVoids_congr (close_owed name.lower g) howed
    exact ⟨follows_of_tracks htracks.close (close_pending _ g) howed', fun _ => close_pending _ g⟩
  | text s =>
    have hnil := hp rfl
    rw [settle_of_nil hnil] at htracks
    exact ⟨⟨htracks.text hnil _, howed⟩, fun h => by cases h⟩
  | comment c => exact ⟨quiet.1, fun _ => quiet.2⟩
  | doctype d => exact ⟨quiet.1, fun _ => quiet.2⟩
  | instruction p => exact ⟨quiet.1, fun _ => quiet.2⟩

/-- Behind a text comes the end or a construct, and neither completes a reference. -/
theorem opensNoReference_printAll {ts : List Token} (h : ∀ t ∈ ts.head?, t.isText = false) :
    OpensNoReference (printAll ts) := by
  intro d hd
  cases ts with
  | nil => cases hd
  | cons t ts =>
    have ht := h t rfl
    obtain rfl : d = '<' := by
      cases t with
      | text s => cases ht
      | _ => exact (Option.some.inj hd).symm
    exact ⟨rfl, by decide⟩

/-- The builder follows a whole soup. -/
theorem read_soup {ts : List Token} (hsoup : Soup ts) (h : Follows g b)
    (hp : ∀ t ∈ ts.head?, t.isText = true → g.pending = []) :
    ∃ g', g.read false (printAll ts) = .ok g' ∧ Follows g' (ts.foldl TreeBuilder.step b) := by
  -- from token to token: the builder follows, and in front of a text nothing is pending
  induction ts generalizing g b with
  | nil => exact ⟨g, read_nil false g, h⟩
  | cons t ts ih =>
    obtain ⟨hlegible, hapart⟩ := hsoup
    have ht := hlegible t List.mem_cons_self
    have hrest : Soup ts := ⟨fun t' h' => hlegible t' (List.mem_cons_of_mem t h'), hapart.tail⟩
    have hnext : ∀ t' ∈ ts.head?, t.isText = false ∨ t'.isText = false := fun t' h' => hapart.rel_head? h'
    obtain ⟨hfollows, hquiet⟩ := follows_take h ht (hp t rfl)
    have hread : g.read false (printAll (t :: ts)) = (g.take t).read false (printAll ts) := by
      refine read_token ht fun htext => opensNoReference_printAll fun t' h' => ?_
      rcases hnext t' h' with hnot | hnot
      · rw [htext] at hnot; cases hnot
      · exact hnot
    rw [hread]
    refine ih hrest hfollows fun t' h' htext => hquiet ?_
    rcases hnext t' h' with hnot | hnot
    · exact hnot
    · rw [htext] at hnot; cases hnot

end Growth

/-- A soup is converted to the JSX of the document that its tokens describe. -/
theorem convert_soup {ts : List Token} (h : Soup ts) :
    convert (printAll ts) = .ok (Jsx.forest (TreeBuilder.build ts)) := by
  obtain ⟨g, hread, hfollows⟩ := Growth.read_soup h Growth.follows_start fun _ _ _ => rfl
  rw [convert, parse_eq_read, hread]
  exact congrArg Except.ok hfollows.tracks.finish

/-- `<Div Class='a&lt;b' x>a & b<!--c--><BR><b></p></dIV><?p>d`: one element is left open
    within another, and one closed that is not open. -/
def crossedSoup : List Token :=
  [.startTag ['D', 'i', 'v'] [⟨[' '], ['C', 'l', 'a', 's', 's'], .quoted '\'' ['a', '&', 'l', 't', ';', 'b']⟩,
      ⟨['\t'], ['x'], .absent⟩],
    .text ['a', ' ', '&', ' ', 'b'], .comment ['c'], .startTag ['B', 'R'] [], .startTag ['b'] [], .endTag ['p'],
    .endTag ['d', 'I', 'V'], .instruction ['p'], .text ['d']]

theorem convert_crossedSoup : Soup crossedSoup ∧
    convert (printAll crossedSoup) = .ok "<div Class=\"a&lt;b\" x=\"\">a &amp; b<br /><b></b></div>d".toList := by
  have name : ∀ {c : Char} {tail : Text}, isLetter c = true →
      tail.all (fun d => decide ((Text.isAlphanumeric d || d == '-') = true)) = true →
      RawElement.ofName? (Text.lower (c :: tail)) = none → Token.IsPlainName (c :: tail) :=
    fun hc htail hraw => ⟨⟨_, _, rfl, hc, Text.forall_mem_of_all htail⟩, hraw⟩
  have hclass : (⟨[' '], ['C', 'l', 'a', 's', 's'], .quoted '\'' ['a', '&', 'l', 't', ';', 'b']⟩ : WrittenAttr).Legible :=
    ⟨⟨by decide, Text.forall_mem_of_all (by decide)⟩, ⟨by decide, Text.forall_mem_of_all (by decide)⟩,
      by decide, by decide, by decide⟩
  have hx : (⟨['\t'], ['x'], .absent⟩ : WrittenAttr).Legible :=
    ⟨⟨by decide, Text.forall_mem_of_all (by decide)⟩, ⟨by decide, Text.forall_mem_of_all (by decide)⟩, trivial⟩
  have hcomment : HoldsNoCommentEnd ['c'] := fun p b q hq => by
    have hmem : '>' ∈ ['c'] := by rw [hq]; simp
    exact absurd hmem (by decide)
  have h : Soup crossedSoup := by
    refine ⟨fun t ht => ?_, by decide⟩
    simp only [crossedSoup, List.mem_cons, List.not_mem_nil, or_false] at ht
    rcases ht with rfl | rfl | rfl | rfl | rfl | rfl | rfl | rfl | rfl
    · refine ⟨name rfl rfl rfl, fun a ha => ?_⟩
      simp only [List.mem_cons, List.not_mem_nil, or_false] at ha
      rcases ha with rfl | rfl
      · exact hclass
      · exact hx
    · exact ⟨by decide, by decide⟩
    · exact hcomment
    · exact ⟨name rfl rfl rfl, fun _ h => by cases h⟩
    · exact ⟨name rfl rfl rfl, fun _ h => by cases h⟩
    · exact ⟨name rfl rfl rfl, rfl⟩
    · exact ⟨name rfl rfl rfl, rfl⟩
    · exact (by decide : '>' ∉ ['p'])
    · exact ⟨by decide, by decide⟩
  exact ⟨h, (convert_soup h).trans (by decide +kernel)⟩

end MarkupJsx.Markup
