/-
  MarkupJsx.Proofs.Markup.Reading — reading a document from any growth on.

  `g.read final s` is the growth that `g` becomes over the events of the text `s`, from the
  first pass on or in the last one alone; a document is read by both from the start, and
  finished (`parse_eq_read`). What a construct does to the growth depends neither on what
  follows it nor on the pass: each lemma here reads one construct off the head of a text and
  goes on with the rest. The pieces in which a text is reported do not show
  (`read_char`), so a text is read as a whole (`read_spelled`).
-/

import MarkupJsx.Proofs.Markup.References
import MarkupJsx.Proofs.Markup.Reports
import MarkupJsx.Proofs.Markup.Settling
import MarkupJsx.Proofs.Text.Runs

namespace MarkupJsx.Markup

open Text (isBlank isLetter isDigit isAlphanumeric)

/-! ## One step -/

theorem pass_of_step {final : Bool} {mode mode' : Option RawElement} {c : Char} {tail rest : Text} {evs : List Event}
    (h : step final mode c tail = .ok (.on evs mode' rest)) :
    pass final mode (c :: tail) = (pass final mode' rest).map (Pass.after evs) := by
  rw [pass]
  split
  · rename_i h'; rw [h] at h'; cases h'
  · rename_i h'; rw [h] at h'; cases h'
  · rename_i h'; rw [h] at h'; cases h'; rfl

theorem pass_of_stop {final : Bool} {mode : Option RawElement} {c : Char} {tail rest : Text} {evs : List Event}
    (h : step final mode c tail = .ok (.stop evs rest)) : pass final mode (c :: tail) = .ok ⟨evs, mode, rest⟩ := by
  rw [pass]
  split
  · rename_i h'; rw [h] at h'; cases h'
  · rename_i h'; rw [h] at h'; cases h'; rfl
  · rename_i h'; rw [h] at h'; cases h'

/-- The events of a text from the first pass on, or in the last pass alone. -/
def eventsFrom : Bool → Text → Except MarkupError (List Event)
  | false, s => events s
  | true, s => (pass true none s).map fun p => p.events ++ p.leftover

/-- A step that goes on leaves a text of its own. -/
theorem eventsFrom_of_step {final : Bool} {c : Char} {tail rest : Text} {evs : List Event}
    (h : step final none c tail = .ok (.on evs none rest)) :
    eventsFrom final (c :: tail) = (eventsFrom final rest).map (evs ++ ·) := by
  cases final with
  | true =>
    simp only [eventsFrom, pass_of_step h]
    cases pass true none rest with
    | error e => rfl
    | ok last => simp [Except.map, Pass.after, Pass.leftover]
  | false =>
    simp only [eventsFrom, events, pass_of_step h, bind, Except.bind, pure, Except.pure]
    cases pass false none rest with
    | error e => rfl
    | ok first =>
      simp only [Except.map, Pass.after]
      cases pass true first.mode first.rest with
      | error e => rfl
      | ok second => simp

theorem eventsFrom_nil (final : Bool) : eventsFrom final [] = .ok [] := by
  cases final <;> simp only [eventsFrom, events, pass_nil, bind, Except.bind] <;> rfl

/-- Where the first pass stops the last one begins. -/
theorem eventsFrom_of_stop_first {c : Char} {tail rest : Text} {evs : List Event}
    (h : step false none c tail = .ok (.stop evs rest)) :
    eventsFrom false (c :: tail) = (eventsFrom true rest).map (evs ++ ·) := by
  simp only [eventsFrom, events, pass_of_stop h, bind, Except.bind, pure, Except.pure]
  cases pass true none rest with
  | error e => rfl
  | ok last => simp [Except.map]

/-- What is left where the last pass stops is text. -/
theorem eventsFrom_of_stop_last {c : Char} {tail rest : Text} {evs : List Event}
    (h : step true none c tail = .ok (.stop evs rest)) (hrest : rest ≠ []) :
    eventsFrom true (c :: tail) = .ok (evs ++ [.text rest]) := by
  simp [eventsFrom, pass_of_stop h, Except.map, Pass.leftover, hrest]

namespace Growth

/-- The growth over the events of a text. -/
def read (g : Growth) (final : Bool) (s : Text) : Except MarkupError Growth := (eventsFrom final s).map (·.foldl step g)

variable {final : Bool} {g : Growth} {s t rest : Text}

theorem read_nil (final : Bool) (g : Growth) : g.read final [] = .ok g := by
  rw [read, eventsFrom_nil]; rfl

theorem read_of_step {c : Char} {tail : Text} {evs : List Event}
    (h : Markup.step final none c tail = .ok (.on evs none rest)) : g.read final (c :: tail) = (evs.foldl step g).read final rest := by
  rw [read, read, eventsFrom_of_step h]
  cases eventsFrom final rest with
  | error e => rfl
  | ok more => simp [Except.map]

theorem read_of_stop_first {c : Char} {tail : Text} {evs : List Event}
    (h : Markup.step false none c tail = .ok (.stop evs rest)) :
    g.read false (c :: tail) = (evs.foldl step g).read true rest := by
  rw [read, read, eventsFrom_of_stop_first h]
  cases eventsFrom true rest with
  | error e => rfl
  | ok more => simp [Except.map]

theorem read_of_stop_last {c : Char} {tail : Text} {evs : List Event}
    (h : Markup.step true none c tail = .ok (.stop evs rest)) (hrest : rest ≠ []) :
    g.read true (c :: tail) = .ok ((evs.foldl step g).write rest) := by
  rw [read, eventsFrom_of_stop_last h hrest]
  simp only [Except.map, List.foldl_append]
  rfl

/-- Where both passes stop at once, all is text. -/
theorem read_of_stops {c : Char} {tail : Text}
    (h : ∀ final, Markup.step final none c tail = .ok (.stop [] (c :: tail))) :
    g.read final (c :: tail) = .ok (g.write (c :: tail)) := by
  have hlast : g.read true (c :: tail) = .ok (g.write (c :: tail)) := read_of_stop_last (h true) (List.cons_ne_nil c tail)
  cases final with
  | true => exact hlast
  | false => exact (read_of_stop_first (h false)).trans hlast

/-! ## Texts -/

theorem isPlain_iff {c : Char} : isPlain c = true ↔ c ≠ '<' ∧ c ≠ '&' := by simp [isPlain]

theorem step_plain {c : Char} (hc : isPlain c = true) (s : Text) :
    Markup.step final none c s = .ok (.on [.text (c :: s.takeWhile isPlain)] none (s.dropWhile isPlain)) := by
  obtain ⟨h1, h2⟩ := isPlain_iff.mp hc
  simp [Markup.step, h1, h2]

/-- A run of plain characters is reported at once, but may be read one by one. -/
theorem read_char {c : Char} (hc : isPlain c = true) (s : Text) : g.read final (c :: s) = (g.write [c]).read final s := by
  rw [read_of_step (step_plain hc s)]
  cases s with
  | nil => rfl
  | cons d s =>
    by_cases hd : isPlain d = true
    · rw [read_of_step (step_plain hd s), List.takeWhile_cons_of_pos hd, List.dropWhile_cons_of_pos hd]
      show (g.write (c :: d :: s.takeWhile isPlain)).read final _ = ((g.write [c]).write (d :: s.takeWhile isPlain)).read final _
      rw [write_write]; rfl
    · rw [List.takeWhile_cons_of_neg hd, List.dropWhile_cons_of_neg hd]; rfl

/-- A text of plain characters. -/
theorem read_plain (h : ∀ c ∈ s, isPlain c = true) : g.read final (s ++ rest) = (g.write s).read final rest := by
  induction s generalizing g with
  | nil => simp
  | cons c s ih =>
    obtain ⟨hc, hs⟩ := List.forall_mem_cons.mp h
    rw [List.cons_append, read_char hc, ih hs, write_write]
    rfl

theorem step_ampersand (s : Text) : Markup.step final none '&' s = referenceStep final s := by simp [Markup.step]

/-- A letter behind an ampersand begins a name, and the step is decided by where it ends. -/
theorem step_letter {x : Char} (hx : isLetter x = true) (more : Text) :
    Markup.step final none '&' (x :: more) =
      match Entity.nameInText? (x :: more) with
      | some (name, after) => .ok (.on [.text (Entity.named name)] none (Entity.dropSemicolon after))
      | none => .ok (if final && more.isEmpty then .stop [] (x :: more) else .stop [] ('&' :: x :: more)) := by
  rw [step_ampersand]
  unfold referenceStep
  split
  · rename_i heq; rw [(List.cons.inj heq).1] at hx; cases hx
  · rename_i heq; cases heq
  · rename_i heq
    obtain ⟨rfl, rfl⟩ := List.cons.inj heq
    exact if_pos hx

/-- A name goes on to a semicolon, which is swallowed, or to the first character that is not
    part of it. -/
theorem read_named {x : Char} {more name : Text} (hx : isLetter x = true)
    (hname : Entity.nameInText? (x :: more) = some (name, s)) :
    g.read final ('&' :: x :: more) = (g.write (Entity.named name)).read final (Entity.dropSemicolon s) := by
  have hstep : Markup.step final none '&' (x :: more) =
      .ok (.on [.text (Entity.named name)] none (Entity.dropSemicolon s)) := by
    rw [step_letter hx, hname]
  exact read_of_step hstep

theorem named_entities : Entity.named ['a', 'm', 'p'] = ['&'] ∧ Entity.named ['l', 't'] = ['<'] ∧
    Entity.named ['g', 't'] = ['>'] ∧ Entity.named ['q', 'u', 'o', 't'] = ['"'] := by decide +kernel

theorem read_entity {c : Char} {e : Text} (he : (c, e) ∈ Jsx.escapes) (s : Text) :
    g.read final (e ++ s) = (g.write [c]).read final s := by
  obtain ⟨hamp, hlt, hgt, hquot⟩ := named_entities
  simp only [Jsx.escapes, List.mem_cons, List.not_mem_nil, or_false, Prod.mk.injEq] at he
  rcases he with ⟨rfl, rfl⟩ | ⟨rfl, rfl⟩ | ⟨rfl, rfl⟩ | ⟨rfl, rfl⟩
  · rw [← hamp]; exact read_named (s := ';' :: s) rfl rfl
  · rw [← hlt]; exact read_named (s := ';' :: s) rfl rfl
  · rw [← hgt]; exact read_named (s := ';' :: s) rfl rfl
  · rw [← hquot]; exact read_named (s := ';' :: s) rfl rfl

/-- No reference begins with an ampersand in front of this text. -/
def OpensNoReference (s : Text) : Prop := ∀ d ∈ s.head?, isLetter d = false ∧ d ≠ '#'

instance : DecidablePred OpensNoReference
  | [] => isTrue fun _ h => (by cases h)
  | d :: s => decidable_of_iff (isLetter d = false ∧ d ≠ '#') (by simp [OpensNoReference])

theorem read_ampersand (h : OpensNoReference s) : g.read final ('&' :: s) = (g.write ['&']).read final s := by
  cases s with
  | nil => rw [read_of_stops fun _ => rfl, read_nil]
  | cons d s =>
    obtain ⟨h1, h2⟩ := h d rfl
    suffices h : referenceStep final (d :: s) = .ok (.on [.text ['&']] none (d :: s)) from
      read_of_step ((step_ampersand _).trans h)
    unfold referenceStep
    split
    · rename_i heq; exact absurd (List.cons.inj heq).1 h2
    · rename_i heq; cases heq
    · rename_i heq
      obtain ⟨rfl, rfl⟩ := List.cons.inj heq
      rw [if_neg (by simp [h1])]

/-- A text is read as what it spells, when the text behind it takes up none of its
    ampersands. -/
theorem read_spelled {free : Text → Prop} (hfree : ∀ q, free q → OpensNoReference (q ++ rest)) (h : Spells free s t)
    (hlt : '<' ∉ s) : g.read final (s ++ rest) = (g.write t).read final rest := by
  induction h generalizing g with
  | nil => rw [write_nil]; rfl
  | @char c s t hc _ ih =>
    simp only [List.mem_cons, not_or] at hlt
    rw [List.cons_append, read_char (isPlain_iff.mpr ⟨Ne.symm hlt.1, hc⟩), ih hlt.2, write_write]; rfl
  | @entity c e s t he _ ih =>
    simp only [List.mem_append, not_or] at hlt
    rw [List.append_assoc, read_entity he, ih hlt.2, write_write]; rfl
  | @ampersand s t hf _ ih =>
    simp only [List.mem_cons, not_or] at hlt
    rw [List.cons_append, read_ampersand (hfree s hf), ih hlt.2, write_write]; rfl

end Growth

/-- A document is read from the start, and finished. -/
theorem parse_eq_read (s : Text) : parse s = (Growth.start.read false s).map Growth.finish := by
  rw [parse, Growth.read, eventsFrom]
  cases events s <;> rfl

/-! ## Searches -/

theorem pastTag?_append {a : Text} (ha : '>' ∉ a) (rest : Text) : pastTag? (a ++ '>' :: rest) = some rest := by
  rw [pastTag?, Text.cutAfter?, Text.dropWhile_run (Text.ne_of_not_mem ha) (by simp)]
  rfl

/-- Two hyphens, blanks and the end of a tag stand nowhere in the text. -/
def HoldsNoCommentEnd (s : Text) : Prop :=
  ∀ p b q, s = p ++ '-' :: '-' :: b ++ '>' :: q → ∃ x ∈ b, isBlank x = false

theorem HoldsNoCommentEnd.of_cons {c : Char} {s : Text} (h : HoldsNoCommentEnd (c :: s)) : HoldsNoCommentEnd s := by
  intro p b q hq
  exact h (c :: p) b q (by rw [hq]; rfl)

/-- Behind two hyphens in the text come blanks and then a character that ends no tag, be it
    only the first hyphen of the comment's own end. -/
theorem dropWhile_ne_gt {s : Text} (h : HoldsNoCommentEnd ('-' :: '-' :: s)) (rest after : Text) :
    (s ++ '-' :: '-' :: '>' :: rest).dropWhile isBlank ≠ '>' :: after := by
  intro hdrop
  by_cases hall : ∀ x ∈ s, isBlank x = true
  · rw [Text.dropWhile_run hall (by simp; rfl)] at hdrop
    exact absurd (List.cons.inj hdrop).1 (by decide)
  · -- the run of blanks stops within the text, at a character that the text itself gives
    obtain ⟨x, hx, hblank⟩ : ∃ x ∈ s, isBlank x = false := by simpa using hall
    rw [Text.dropWhile_append_of_mem hx hblank] at hdrop
    have hmem := Text.mem_dropWhile hx hblank
    cases hw : s.dropWhile isBlank with
    | nil => rw [hw] at hmem; cases hmem
    | cons y w =>
      rw [hw] at hdrop
      obtain rfl : y = '>' := (List.cons.inj hdrop).1
      have hsplit : s.takeWhile isBlank ++ '>' :: w = s := by
        rw [← hw, List.takeWhile_append_dropWhile]
      obtain ⟨z, hz, hz'⟩ := h [] (s.takeWhile isBlank) w (by simp [hsplit])
      rw [List.all_eq_true.mp (List.all_takeWhile ..) z hz] at hz'
      cases hz'

/-- No comment ends within the text, nor across the end of it. -/
theorem commentEnd?_none {c : Char} {s : Text} (h : HoldsNoCommentEnd (c :: s)) (rest : Text) :
    commentEnd? (c :: (s ++ '-' :: '-' :: '>' :: rest)) = none := by
  by_cases hc : c = '-'
  · subst hc
    match s, h with
    | [], _ => rfl
    | d :: s, h =>
      by_cases hd : d = '-'
      · subst hd
        rw [List.cons_append, commentEnd?]
        split
        · rename_i after hdrop; exact absurd hdrop (dropWhile_ne_gt h rest after)
        · rfl
      · simp [commentEnd?, hd]
  · simp [commentEnd?, hc]

/-- The comment's own end is the first one. -/
theorem searchAfter_commentEnd? {s : Text} (h : HoldsNoCommentEnd s) (rest : Text) :
    searchAfter commentEnd? (s ++ '-' :: '-' :: '>' :: rest) = some rest := by
  induction s with
  | nil => rfl
  | cons c s ih =>
    rw [List.cons_append, searchAfter, commentEnd?_none h, Option.none_or]
    exact ih h.of_cons

/-! ## Constructs -/

/-- A letter, then letters, digits and hyphens. -/
def IsTagName (name : Text) : Prop :=
  ∃ c tail, name = c :: tail ∧ isLetter c = true ∧ ∀ d ∈ tail, (isAlphanumeric d || d == '-') = true

theorem range_of_isLetter {c : Char} (h : isLetter c = true) : 0x41 ≤ c.toNat ∧ c.toNat ≤ 0x7A := by
  simp only [isLetter, Bool.or_eq_true, Bool.and_eq_true, decide_eq_true_eq] at h
  rcases h with ⟨h1, h2⟩ | ⟨h1, h2⟩
  · have h1' : 0x61 ≤ c.toNat := h1
    have h2' : c.toNat ≤ 0x7A := h2
    omega
  · have h1' : 0x41 ≤ c.toNat := h1
    have h2' : c.toNat ≤ 0x5A := h2
    omega

namespace Growth

variable {final : Bool} {g : Growth} {rest : Text}

theorem step_open (s : Text) : Markup.step final none '<' s = openStep final s := by simp [Markup.step]

/-- A construct that is whole makes its event, and is left behind. -/
theorem read_construct {s : Text} {e : Event}
    (h : openStep final s = .ok ((Construct.whole (some e) rest).step final ('<' :: s))) :
    g.read final ('<' :: s) = (g.step e).read final rest :=
  read_of_step ((step_open s).trans h)

theorem read_declaration {inner : Text} (h : declaration inner = .ok (.whole (some .hidden) rest)) :
    g.read final ('<' :: '!' :: inner) = g.settle.read final rest := by
  refine read_construct (e := .hidden) ?_
  rw [openStep, h]
  rfl

theorem read_comment {c : Text} (h : HoldsNoCommentEnd c) :
    g.read final ('<' :: '!' :: '-' :: '-' :: (c ++ '-' :: '-' :: '>' :: rest)) = g.settle.read final rest := by
  refine read_declaration ?_
  rw [declaration, searchAfter_commentEnd? h]
  rfl

theorem declaration_doctype (s : Text) :
    declaration ('D' :: 'O' :: 'C' :: 'T' :: 'Y' :: 'P' :: 'E' :: s) = .ok (.hiddenUpTo (pastTag? s)) := by
  unfold declaration
  split
  · rename_i h; cases h
  · rename_i h; cases h
  · refine if_pos ?_
    simp only [List.take_succ_cons, List.take_zero, List.map_cons, List.map_nil]
    decide

theorem read_doctype {d : Text} (h : '>' ∉ d) :
    g.read final ('<' :: '!' :: 'D' :: 'O' :: 'C' :: 'T' :: 'Y' :: 'P' :: 'E' :: (d ++ '>' :: rest)) = g.settle.read final rest := by
  refine read_declaration ?_
  rw [declaration_doctype, pastTag?_append h]
  rfl

theorem read_instruction {p : Text} (h : '>' ∉ p) : g.read final ('<' :: '?' :: (p ++ '>' :: rest)) = g.settle.read final rest := by
  refine read_construct (e := .hidden) ?_
  rw [openStep, pastTag?_append h]
  rfl

theorem endName?_of_isTagName {name : Text} (h : IsTagName name) : endName? (name ++ '>' :: rest) = some name := by
  obtain ⟨c, tail, rfl, hc, htail⟩ := h
  have hrange := range_of_isLetter hc
  have hblank : isBlank c = false := by
    simp [isBlank]; omega
  have hchars : ∀ d ∈ tail, isEndNameChar d = true := fun d hd => by
    have := htail d hd
    simp only [Bool.or_eq_true, beq_iff_eq] at this
    rcases this with h | h <;> simp [isEndNameChar, h]
  have hends : Text.Ends isEndNameChar ('>' :: rest) := Text.ends_cons.mpr rfl
  unfold endName?
  rw [List.cons_append, List.dropWhile_cons_of_neg (by simp [hblank])]
  simp only [hc, if_true, Text.takeWhile_run hchars hends, Text.dropWhile_run hchars hends]
  rfl

theorem gt_not_mem_of_isTagName {name : Text} (h : IsTagName name) : '>' ∉ name := by
  obtain ⟨c, tail, rfl, hc, htail⟩ := h
  intro hmem
  rcases List.mem_cons.mp hmem with rfl | hmem
  · cases hc
  · exact absurd (htail _ hmem) (by decide)

theorem read_endTag {name : Text} (h : IsTagName name) :
    g.read final ('<' :: '/' :: (name ++ '>' :: rest)) = (g.step (.endTag name.lower)).read final rest := by
  refine read_construct (e := .endTag name.lower) ?_
  rw [openStep, endTag, pastTag?_append (gt_not_mem_of_isTagName h), endName?_of_isTagName h]

end Growth

end MarkupJsx.Markup
