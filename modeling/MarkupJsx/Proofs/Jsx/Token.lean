/-
  MarkupJsx.Proofs.Jsx.Token — JSX taken apart from left to right, without a look at any tree.

  A text of JSX is a row of tokens, each told from its first characters:
  - `</` begins a closing tag, which runs to the next `>`;
  - any other `<` begins a tag. Its name runs to the next space, slash or `>`; pairs of a name
    and a quoted value follow, each behind one space; it ends with `>`, or with ` />` when it
    closes itself;
  - all else, up to the next `<`, is text.

  Texts and values stay as they are written. So the tokens, written one after the other, are
  the text again, and there is only one way to take a text apart (`lex?_eq_some_iff`): a row
  holds no two texts next to each other, and nothing in a token ends it early. A row is
  balanced when each opening tag has a closing tag of its name behind it, with a balanced row
  in between.
-/

import MarkupJsx.Jsx.Writer
import MarkupJsx.Proofs.Markup.AttributeScan

namespace MarkupJsx.Jsx

open Markup (IsKey tagEnd)
open Markup.Tag (startsKey isKeyChar)
open Text (Ends)

/-! ## Up to a character -/

/-- The text before the first `c`, and what follows it. -/
def until? (c : Char) (s : Text) : Option (Text × Text) :=
  match s.dropWhile (· != c) with
  | [] => none
  | _ :: rest => some (s.takeWhile (· != c), rest)

theorem until?_append {c : Char} {a : Text} (rest : Text) (h : c ∉ a) : until? c (a ++ c :: rest) = some (a, rest) := by
  have hrun := Text.ne_of_not_mem h
  have hends : Ends (· != c) (c :: rest) := by simp
  rw [until?, Text.dropWhile_run hrun hends, Text.takeWhile_run hrun hends]

theorem not_mem_takeWhile_ne (c : Char) (s : Text) : c ∉ s.takeWhile (· != c) := by
  intro h
  have := List.mem_takeWhile_imp h
  simp at this

theorem of_until? {c : Char} {s a rest : Text} (h : until? c s = some (a, rest)) : c ∉ a ∧ a ++ c :: rest = s := by
  have hends := Text.ends_dropWhile (p := (· != c)) s
  have hsplit : s.takeWhile (· != c) ++ s.dropWhile (· != c) = s := List.takeWhile_append_dropWhile
  unfold until? at h
  split at h
  · cases h
  · rename_i x tail hx
    cases h
    rw [hx] at hends hsplit
    obtain rfl : x = c := by simpa using hends
    exact ⟨not_mem_takeWhile_ne x s, hsplit⟩

/-! ## Pairs -/

/-- An attribute in a tag: its name, and its value as it is written. -/
structure Pair where
  name : Text
  raw : Text
  deriving DecidableEq, Repr

namespace Pair

def written (p : Pair) : Text := ' ' :: p.name ++ ['=', '"'] ++ p.raw ++ ['"']

structure Legible (p : Pair) : Prop where
  name : IsKey p.name
  raw : '"' ∉ p.raw

end Pair

/-- The pair at the head of a text, behind its space. -/
def pair? : Text → Option (Pair × Text)
  | [] => none
  | c :: s =>
    if startsKey c then
      match s.dropWhile isKeyChar with
      | '=' :: '"' :: tail => (until? '"' tail).map fun (raw, rest) => (⟨c :: s.takeWhile isKeyChar, raw⟩, rest)
      | _ => none
    else none

theorem pair?_written {p : Pair} (rest : Text) (h : p.Legible) :
    pair? (p.name ++ '=' :: '"' :: (p.raw ++ '"' :: rest)) = some (p, rest) := by
  obtain ⟨name, raw⟩ := p
  obtain ⟨c, tail, rfl, hc, htail⟩ := h.name
  have hends : Ends isKeyChar ('=' :: '"' :: (raw ++ '"' :: rest)) := Text.ends_cons.mpr rfl
  simp only [List.cons_append, pair?, hc, if_true]
  rw [Text.dropWhile_run htail hends, Text.takeWhile_run htail hends]
  simp only [until?_append rest h.raw, Option.map_some]

theorem of_pair? {s rest : Text} {p : Pair} (h : pair? s = some (p, rest)) : p.Legible ∧ p.written ++ rest = ' ' :: s := by
  cases s with
  | nil => cases h
  | cons c s =>
    have hsplit : s.takeWhile isKeyChar ++ s.dropWhile isKeyChar = s := List.takeWhile_append_dropWhile
    simp only [pair?] at h
    split at h
    · rename_i hc
      split at h
      · rename_i tail htail
        obtain ⟨⟨raw, rest'⟩, hraw, heq⟩ := Option.map_eq_some_iff.mp h
        cases heq
        obtain ⟨hquote, htext⟩ := of_until? hraw
        have hkey : IsKey (c :: s.takeWhile isKeyChar) :=
          ⟨c, _, rfl, hc, fun _ => List.mem_takeWhile_imp⟩
        refine ⟨⟨hkey, hquote⟩, ?_⟩
        rw [htail, ← htext] at hsplit
        simpa [Pair.written] using hsplit
      · cases h
    · cases h

/-! ## The inside of a tag -/

/-- What stands in a tag behind its name: its pairs, whether it closes itself, and what
    follows the tag. -/
def tagRest? (s : Text) : Option (List Pair × Bool × Text) :=
  match s with
  | '>' :: rest => some ([], false, rest)
  | ' ' :: '/' :: '>' :: rest => some ([], true, rest)
  | ' ' :: s =>
    match h : pair? s with
    | none => none
    | some (p, rest) =>
      have : rest.length < s.length + 1 := by
        have := congrArg List.length (of_pair? h).2
        simp [Pair.written] at this
        omega
      (tagRest? rest).map fun (ps, single, after) => (p :: ps, single, after)
  | _ => none
termination_by s.length

theorem tagRest?_end (single : Bool) (rest : Text) : tagRest? (tagEnd single ++ rest) = some ([], single, rest) := by
  cases single with
  | false => show tagRest? ('>' :: rest) = _; rw [tagRest?]
  | true => show tagRest? (' ' :: '/' :: '>' :: rest) = _; rw [tagRest?]

theorem tagRest?_pair {p : Pair} (rest : Text) (h : p.Legible) :
    tagRest? (p.written ++ rest) = (tagRest? rest).map fun (ps, single, after) => (p :: ps, single, after) := by
  have hpair := pair?_written rest h
  obtain ⟨c, tail, hc, hstart, -⟩ := h.name
  have hshape : p.written ++ rest = ' ' :: (p.name ++ '=' :: '"' :: (p.raw ++ '"' :: rest)) := by simp [Pair.written]
  have hslash : c ≠ '/' := by rintro rfl; cases hstart
  rw [hshape]
  rw [hc, List.cons_append] at hpair ⊢
  rw [tagRest?]
  · split
    · rename_i hnone; rw [hpair] at hnone; cases hnone
    · rename_i hsome; rw [hpair] at hsome; cases hsome; rfl
  · intro _ hr
    exact hslash (List.cons.inj hr).1

theorem tagRest?_written {ps : List Pair} (single : Bool) (rest : Text) (h : ∀ p ∈ ps, p.Legible) :
    tagRest? (ps.flatMap Pair.written ++ (tagEnd single ++ rest)) = some (ps, single, rest) := by
  induction ps with
  | nil => exact tagRest?_end single rest
  | cons p ps ih =>
    rw [List.flatMap_cons, List.append_assoc, tagRest?_pair _ (h p List.mem_cons_self),
      ih fun q hq => h q (List.mem_cons_of_mem p hq)]
    rfl

theorem of_tagRest? {s rest : Text} {ps : List Pair} {single : Bool} (h : tagRest? s = some (ps, single, rest)) :
    (∀ p ∈ ps, p.Legible) ∧ ps.flatMap Pair.written ++ (tagEnd single ++ rest) = s := by
  fun_induction tagRest? s generalizing ps with
  | case1 => cases h; exact ⟨by simp, rfl⟩
  | case2 => cases h; exact ⟨by simp, rfl⟩
  | case3 => cases h
  | case4 s _ p after hp _ ih =>
    obtain ⟨⟨ps', single', rest'⟩, hrest, heq⟩ := Option.map_eq_some_iff.mp h
    cases heq
    obtain ⟨hlegible, hwritten⟩ := of_pair? hp
    obtain ⟨hlegible', hwritten'⟩ := ih hrest
    exact ⟨List.forall_mem_cons.mpr ⟨hlegible, hlegible'⟩, by simp [← hwritten, ← hwritten']⟩
  | case5 => cases h

/-- Behind a name something follows that cannot be part of it. -/
theorem tagRest_head (ps : List Pair) (single : Bool) (rest : Text) :
    ∃ c ∈ [' ', '>'], (ps.flatMap Pair.written ++ (tagEnd single ++ rest)).head? = some c := by
  cases ps with
  | cons p ps => exact ⟨' ', by simp, by simp [Pair.written]⟩
  | nil =>
    cases single with
    | false => exact ⟨'>', by simp, by simp [tagEnd]⟩
    | true => exact ⟨' ', by simp, by simp [tagEnd]⟩

/-! ## Tokens -/

/-- The name of an element runs on through these. -/
def isTagChar (c : Char) : Bool := c != ' ' && c != '/' && c != '>'

inductive Token where
  | text (raw : Text)
  | opener (name : Text) (pairs : List Pair)
  /-- A tag that closes itself. -/
  | single (name : Text) (pairs : List Pair)
  | closer (name : Text)
  deriving DecidableEq, Repr

namespace Token

def tag (name : Text) (pairs : List Pair) : Bool → Token
  | false => opener name pairs
  | true => single name pairs

def isText : Token → Bool
  | text _ => true
  | _ => false

def written : Token → Text
  | text raw => raw
  | opener name pairs => '<' :: name ++ pairs.flatMap Pair.written ++ tagEnd false
  | single name pairs => '<' :: name ++ pairs.flatMap Pair.written ++ tagEnd true
  | closer name => '<' :: '/' :: name ++ ['>']

/-- Nothing in the token ends it early. -/
def Legible : Token → Prop
  | text raw => raw ≠ [] ∧ '<' ∉ raw
  | opener name pairs | single name pairs => (∀ c ∈ name, isTagChar c = true) ∧ ∀ p ∈ pairs, p.Legible
  | closer name => '>' ∉ name

theorem isText_tag (name : Text) (pairs : List Pair) (single : Bool) : (tag name pairs single).isText = false := by
  cases single <;> rfl

theorem written_tag (name : Text) (pairs : List Pair) (single : Bool) :
    (tag name pairs single).written = '<' :: name ++ pairs.flatMap Pair.written ++ tagEnd single := by
  cases single <;> rfl

theorem legible_tag {name : Text} {pairs : List Pair} {single : Bool} :
    (tag name pairs single).Legible ↔ (∀ c ∈ name, isTagChar c = true) ∧ ∀ p ∈ pairs, p.Legible := by
  cases single <;> rfl

/-- All but texts begin with a `<`. -/
theorem head?_written {t : Token} (h : t.isText = false) : t.written.head? = some '<' := by
  cases t with
  | text raw => cases h
  | opener name pairs => simp [written]
  | single name pairs => simp [written]
  | closer name => simp [written]

theorem written_ne_nil {t : Token} (h : t.Legible) : t.written ≠ [] := by
  cases t with
  | text raw => exact h.1
  | opener name pairs => simp [written]
  | single name pairs => simp [written]
  | closer name => simp [written]

end Token

/-- The token at the head of a text, and what follows it. -/
def token? : Text → Option (Token × Text)
  | [] => none
  | '<' :: '/' :: s => (until? '>' s).map fun (name, rest) => (.closer name, rest)
  | '<' :: s =>
    (tagRest? (s.dropWhile isTagChar)).map fun (ps, single, rest) => (.tag (s.takeWhile isTagChar) ps single, rest)
  | c :: s => some (.text (c :: s.takeWhile (· != '<')), s.dropWhile (· != '<'))

theorem token?_tag {name : Text} {ps : List Pair} (single : Bool) (rest : Text) (hname : ∀ c ∈ name, isTagChar c = true)
    (hps : ∀ p ∈ ps, p.Legible) :
    token? ((Token.tag name ps single).written ++ rest) = some (.tag name ps single, rest) := by
  have hshape : (Token.tag name ps single).written ++ rest =
      '<' :: (name ++ (ps.flatMap Pair.written ++ (tagEnd single ++ rest))) := by
    simp [Token.written_tag]
  have hrest := tagRest?_written single rest hps
  obtain ⟨x, hx, hhead⟩ := tagRest_head ps single rest
  generalize ps.flatMap Pair.written ++ (tagEnd single ++ rest) = behind at hshape hrest hhead
  have hends : Ends isTagChar behind := by
    intro c hc
    rw [hhead] at hc
    cases hc
    simp only [List.mem_cons, List.not_mem_nil, or_false] at hx
    rcases hx with rfl | rfl <;> rfl
  -- the name, or what follows where there is none, does not begin with a slash
  have hslash : ∀ s, name ++ behind ≠ '/' :: s := by
    intro s hs
    cases name with
    | nil =>
      rw [List.nil_append] at hs
      rw [hs, List.head?_cons, Option.some.injEq] at hhead
      rw [← hhead] at hx
      simp at hx
    | cons c name =>
      cases hs
      exact absurd (hname '/' List.mem_cons_self) (by decide)
  rw [hshape, token?]
  · rw [Text.dropWhile_run hname hends, Text.takeWhile_run hname hends, hrest]
    rfl
  · exact fun s hs => hslash s hs

theorem token?_text {raw rest : Text} (hne : raw ≠ []) (hlt : '<' ∉ raw) (hends : Ends (· != '<') rest) :
    token? (raw ++ rest) = some (.text raw, rest) := by
  obtain ⟨c, raw, rfl⟩ := List.exists_cons_of_ne_nil hne
  rw [List.mem_cons, not_or] at hlt
  have hrun := Text.ne_of_not_mem hlt.2
  rw [List.cons_append, token?]
  · rw [Text.takeWhile_run hrun hends, Text.dropWhile_run hrun hends]
  · rintro s rfl
    exact absurd rfl hlt.1
  · rintro rfl
    exact absurd rfl hlt.1

/-- A token is read off the text in front of which it is written, if a text among them ends
    there. -/
theorem token?_written {t : Token} {rest : Text} (h : t.Legible) (hends : t.isText = true → Ends (· != '<') rest) :
    token? (t.written ++ rest) = some (t, rest) := by
  cases t with
  | text raw => exact token?_text h.1 h.2 (hends rfl)
  | opener name ps => exact token?_tag false rest h.1 h.2
  | single name ps => exact token?_tag true rest h.1 h.2
  | closer name =>
    have hshape : (Token.closer name).written ++ rest = '<' :: '/' :: (name ++ '>' :: rest) := by simp [Token.written]
    rw [hshape, token?, until?_append rest h]
    rfl

theorem of_token? {s rest : Text} {t : Token} (h : token? s = some (t, rest)) :
    t.Legible ∧ (t.isText = true → Ends (· != '<') rest) ∧ t.written ++ rest = s := by
  unfold token? at h
  split at h
  · cases h
  · obtain ⟨⟨name, rest'⟩, hname, heq⟩ := Option.map_eq_some_iff.mp h
    cases heq
    obtain ⟨hgt, htext⟩ := of_until? hname
    exact ⟨hgt, fun hf => (by cases hf), by simp [Token.written, ← htext]⟩
  · rename_i s _
    obtain ⟨⟨ps, single, rest'⟩, hrest, heq⟩ := Option.map_eq_some_iff.mp h
    cases heq
    obtain ⟨hps, hwritten⟩ := of_tagRest? hrest
    have hname : ∀ c ∈ s.takeWhile isTagChar, isTagChar c = true := fun _ => List.mem_takeWhile_imp
    have hsplit : s.takeWhile isTagChar ++ s.dropWhile isTagChar = s := List.takeWhile_append_dropWhile
    refine ⟨Token.legible_tag.mpr ⟨hname, hps⟩, fun hf => ?_, ?_⟩
    · rw [Token.isText_tag] at hf
      cases hf
    · rw [← hwritten] at hsplit
      simpa [Token.written_tag] using hsplit
  · rename_i c s _ hlt
    cases h
    have hc : c ≠ '<' := by rintro rfl; exact hlt rfl
    refine ⟨⟨List.cons_ne_nil _ _, ?_⟩, fun _ => Text.ends_dropWhile s, by simp [Token.written]⟩
    simp [hc.symm, not_mem_takeWhile_ne]

/-! ## Rows of tokens -/

/-- The tokens of a text. -/
def lex? (s : Text) : Option (List Token) :=
  match s with
  | [] => some []
  | c :: tail =>
    match h : token? (c :: tail) with
    | none => none
    | some (t, rest) =>
      have : rest.length < tail.length + 1 := by
        obtain ⟨hlegible, -, hwritten⟩ := of_token? h
        have hpos := List.length_pos_iff.mpr (Token.written_ne_nil hlegible)
        have := congrArg List.length hwritten
        rw [List.length_append, List.length_cons] at this
        omega
      (lex? rest).map (t :: ·)
termination_by s.length

theorem lex?_nil : lex? [] = some [] := by
  rw [lex?]

theorem lex?_of_token? {s rest : Text} {t : Token} (h : token? s = some (t, rest)) :
    lex? s = (lex? rest).map (t :: ·) := by
  cases s with
  | nil => cases h
  | cons c tail =>
    rw [lex?]
    split
    · rename_i hnone; rw [h] at hnone; cases hnone
    · rename_i hsome; rw [h] at hsome; cases hsome; rfl

/-- No text begins the row. -/
def BeginsWithTag (ts : List Token) : Prop := ∀ t ∈ ts.head?, t.isText = false

/-- Tokens that are told apart when they are written one after the other. -/
inductive Row : List Token → Prop
  | nil : Row []
  | cons {t : Token} {ts : List Token} : t.Legible → (t.isText = true → BeginsWithTag ts) → Row ts → Row (t :: ts)

theorem ends_written {ts : List Token} (h : BeginsWithTag ts) : Ends (· != '<') (ts.flatMap Token.written) := by
  cases ts with
  | nil => simp
  | cons t ts =>
    obtain ⟨tail, htail⟩ : ∃ tail, t.written = '<' :: tail := List.head?_eq_some_iff.mp (Token.head?_written (h t rfl))
    simp [htail]

theorem lex?_written {ts : List Token} (h : Row ts) : lex? (ts.flatMap Token.written) = some ts := by
  induction h with
  | nil => exact lex?_nil
  | cons hlegible htext _ ih =>
    rw [List.flatMap_cons, lex?_of_token? (token?_written hlegible fun ht => ends_written (htext ht)), ih]
    rfl

theorem of_lex? {s : Text} {ts : List Token} (h : lex? s = some ts) : Row ts ∧ ts.flatMap Token.written = s := by
  fun_induction lex? s generalizing ts with
  | case1 => cases h; exact ⟨.nil, rfl⟩
  | case2 => cases h
  | case3 c tail t rest ht _ ih =>
    obtain ⟨ts', hrest, rfl⟩ := Option.map_eq_some_iff.mp h
    obtain ⟨hrow, hwritten'⟩ := ih hrest
    obtain ⟨hlegible, hends, hwritten⟩ := of_token? ht
    refine ⟨.cons hlegible (fun htext => ?_) hrow, by rw [List.flatMap_cons, hwritten', hwritten]⟩
    -- a text that followed would not begin with the `<` at which this one ended
    intro u hu
    cases hrow with
    | nil => cases hu
    | cons hulegible _ _ =>
      cases hu
      cases u with
      | text raw =>
        obtain ⟨x, raw, rfl⟩ := List.exists_cons_of_ne_nil hulegible.1
        have hx : x = '<' := by
          have := hends htext x (by rw [← hwritten']; simp [Token.written])
          simpa using this
        exact absurd (by simp [hx]) hulegible.2
      | opener => rfl
      | single => rfl
      | closer => rfl

/-- A text is taken apart into the one row of tokens that it is. -/
theorem lex?_eq_some_iff {s : Text} {ts : List Token} : lex? s = some ts ↔ Row ts ∧ ts.flatMap Token.written = s := by
  constructor
  · exact of_lex?
  · rintro ⟨hrow, rfl⟩
    exact lex?_written hrow

theorem Row.legible {ts : List Token} (h : Row ts) : ∀ t ∈ ts, t.Legible := by
  induction h with
  | nil => intro t ht; cases ht
  | cons hlegible _ _ ih => exact List.forall_mem_cons.mpr ⟨hlegible, ih⟩

theorem Row.append {ts us : List Token} (hts : Row ts) (hus : Row us) (hborder : BeginsWithTag us) : Row (ts ++ us) := by
  induction hts with
  | nil => exact hus
  | @cons t ts hlegible htext _ ih =>
    refine .cons hlegible (fun ht => ?_) ih
    cases ts with
    | nil => exact hborder
    | cons u ts => exact htext ht

/-! ## Balance -/

/-- Each opening tag has a closing tag of its name, and the row between the two is balanced
    as well. -/
inductive Balanced : List Token → Prop
  | nil : Balanced []
  | text {ts : List Token} (raw : Text) : Balanced ts → Balanced (.text raw :: ts)
  | single {ts : List Token} (name : Text) (pairs : List Pair) : Balanced ts → Balanced (.single name pairs :: ts)
  | element {inner ts : List Token} (name : Text) (pairs : List Pair) :
      Balanced inner → Balanced ts → Balanced (.opener name pairs :: inner ++ .closer name :: ts)

end MarkupJsx.Jsx
