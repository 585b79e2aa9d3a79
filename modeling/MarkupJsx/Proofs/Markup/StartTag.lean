/-
  MarkupJsx.Proofs.Markup.StartTag — start tags as they are written, and their reading.

  A written attribute is a gap of spaces, a key and perhaps a value, bare or quoted. A tag
  whose attributes are all legible is read whole (`scan_written`): each key is reported as
  it is written, and each value as what it spells. So a start tag makes one element, with
  the attributes that are meant (`Growth.read_startTag`).
-/

import MarkupJsx.Proofs.Markup.Spelling
import MarkupJsx.Proofs.Markup.TagForm

namespace MarkupJsx.Markup

open Text (isBlank isLetter isAlphanumeric)

/-! ## Written attributes -/

inductive WrittenValue where
  | absent
  | bare (v : Text)
  | quoted (q : Char) (v : Text)
  deriving DecidableEq, Repr

structure WrittenAttr where
  gap : Text
  key : Text
  value : WrittenValue
  deriving DecidableEq, Repr

namespace WrittenValue

def text : WrittenValue → Text
  | absent => []
  | bare v => '=' :: v
  | quoted q v => '=' :: q :: v ++ [q]

/-- The value without its quotes. -/
def raw? : WrittenValue → Option Text
  | absent => none
  | bare v | quoted _ v => some v

/-- A bare value ends with the first space and does not begin like a quoted one; a quoted
    one does not hold its quote. Ampersands begin one of the four entities. -/
def Legible : WrittenValue → Prop
  | absent => True
  | bare v =>
    (∃ x more, v = x :: more ∧ Tag.isQuote x = false ∧ x ≠ '=') ∧ (∀ c ∈ v, Tag.isBareChar c = true) ∧
      Accounted (fun _ => False) v
  | quoted q v => Tag.isQuote q = true ∧ q ∉ v ∧ Accounted (fun _ => False) v

end WrittenValue

namespace WrittenAttr

def text (a : WrittenAttr) : Text := a.gap ++ a.key ++ a.value.text

/-- The attribute as it stands in the tag. -/
def raw (a : WrittenAttr) : Attr := ⟨a.key, a.value.raw?⟩

/-- The attribute that is meant: the four entities are read back, and an absent value is an
    empty one. -/
def meant (a : WrittenAttr) : Attr := ⟨a.key, some ((a.value.raw?.map Jsx.unescape).getD [])⟩

structure Legible (a : WrittenAttr) : Prop where
  gap : a.gap ≠ [] ∧ ∀ c ∈ a.gap, c ∈ tagSpaces
  key : a.key ≠ [] ∧ ∀ c ∈ a.key, Tag.isKeyChar c = true
  value : a.value.Legible

end WrittenAttr

def attrsText (as : List WrittenAttr) : Text := as.flatMap WrittenAttr.text

/-! ## Reading one attribute -/

theorem isBlank_of_tagSpace : ∀ c ∈ tagSpaces, isBlank c = true ∧ Tag.isNameChar c = false :=
  Text.forall_mem_of_all (by decide)

/-- A legible value is one of the forms, with a single sign. -/
def WrittenValue.form : (w : WrittenValue) → w.Legible → ValueForm
  | absent, _ => .absent
  | bare v, h => .bare .one v h.1 h.2.1
  | quoted q v, h => .quoted .one q v h.1 h.2.1

theorem WrittenValue.text_form {w : WrittenValue} (h : w.Legible) : (w.form h).text = w.text := by
  cases w <;> simp [form, text, ValueForm.text, Signs.text, Signs.one]

theorem WrittenValue.raw?_form {w : WrittenValue} (h : w.Legible) : (w.form h).raw? = w.raw? := by
  cases w <;> rfl

def WrittenAttr.form (a : WrittenAttr) (h : a.Legible) : AttrForm where
  gap := a.gap
  key := a.key
  value := a.value.form h.value
  gap_ne := h.gap.1
  gap_chars := fun c hc => Or.inl (isBlank_of_tagSpace c (h.gap.2 c hc)).1
  key_ne := h.key.1
  key_chars := h.key.2

namespace Cursor

/-- A gap of spaces leads to the character behind them, which then has a space before it. -/
theorem skipGap_spaces {gap : Text} (b : Char) {x : Char} (more : Text) (hne : gap ≠ [])
    (hgap : ∀ c ∈ gap, c ∈ tagSpaces) (hx : Tag.startsKey x = true) :
    ∃ b', isBlank b' = true ∧ skipGap b (gap ++ x :: more) = ⟨b', x :: more⟩ := by
  have hstop : ∀ b, skipGap b (x :: more) = ⟨b, x :: more⟩ := fun b => by
    simp only [Tag.startsKey, Bool.and_eq_true, Bool.not_eq_true', bne_iff_ne, ne_eq] at hx
    rw [skipGap, if_neg (by simp [hx.1.1, hx.1.2])]
  induction gap generalizing b with
  | nil => exact absurd rfl hne
  | cons y gap ih =>
    have hy := (isBlank_of_tagSpace y (hgap y List.mem_cons_self)).1
    rw [List.cons_append, skipGap, if_pos (by simp [hy])]
    by_cases hnil : gap = []
    · subst hnil; exact ⟨y, hy, hstop y⟩
    · exact ih y hnil fun c hc => hgap c (List.mem_cons_of_mem y hc)

end Cursor

namespace Tag

/-- The text ends the attribute in front of it: with a space or the end of the tag, and
    with no equals sign behind the space. -/
def EndsAttr (s : Text) : Prop :=
  Text.Ends isKeyChar s ∧ Text.Ends isBareChar s ∧ Text.Ends (· == '=') (s.dropWhile isBlank)

theorem EndsAttr.endsBefore {rest : Text} (h : EndsAttr rest) (w : ValueForm) : w.EndsBefore rest := by
  cases w with
  | absent => exact ⟨h.1, h.2.2⟩
  | bare => exact h.2.1
  | quoted => trivial

theorem attr?_written {a : WrittenAttr} {b : Char} {rest : Text} (ha : a.Legible) (hb : isBlank b = true)
    (hr : EndsAttr rest) : ∃ b', attr? ⟨b, a.key ++ a.value.text ++ rest⟩ = some (a.raw, ⟨b', rest⟩) := by
  have hopen : opensAttr b = true := by simp [opensAttr, hb]
  have h := attr?_form (a := a.form ha) hopen (hr.endsBefore _)
  simp only [WrittenAttr.form, WrittenValue.text_form, WrittenValue.raw?_form] at h
  rw [List.append_assoc]
  exact h

/-! ## Reading all attributes -/

theorem startsKey_of_legible {a : WrittenAttr} (ha : a.Legible) :
    ∃ x more, a.key = x :: more ∧ startsKey x = true ∧ x ≠ '=' := by
  obtain ⟨hne, hchars⟩ := ha.key
  obtain ⟨x, more, hkey⟩ := List.exists_cons_of_ne_nil hne
  obtain ⟨hx, hsign⟩ := startsKey_of_isKeyChar (hchars x (by rw [hkey]; exact List.mem_cons_self))
  exact ⟨x, more, hkey, hx, hsign⟩

/-- Behind each attribute stands the gap of the next, or the end of the tag. -/
theorem endsAttr_written {as : List WrittenAttr} {selfClosing : Bool} {rest : Text} (h : ∀ a ∈ as, a.Legible) :
    EndsAttr (attrsText as ++ (tagEnd selfClosing ++ rest)) := by
  cases as with
  | nil =>
    cases selfClosing with
    | false => exact ⟨Text.ends_cons.mpr rfl, Text.ends_cons.mpr rfl, Text.ends_cons.mpr rfl⟩
    | true => exact ⟨Text.ends_cons.mpr rfl, Text.ends_cons.mpr rfl, Text.ends_cons.mpr rfl⟩
  | cons a as =>
    obtain ⟨hne, hgap⟩ := (h a List.mem_cons_self).gap
    obtain ⟨x, more, hkey, hx, hsign⟩ := startsKey_of_legible (h a List.mem_cons_self)
    obtain ⟨y, gap, hy⟩ := List.exists_cons_of_ne_nil hne
    have hblank := (isBlank_of_tagSpace y (hgap y (by rw [hy]; exact List.mem_cons_self))).1
    have hall : ∀ c ∈ a.gap, isBlank c = true := fun c hc => (isBlank_of_tagSpace c (hgap c hc)).1
    have hshape : attrsText (a :: as) ++ (tagEnd selfClosing ++ rest) =
        a.gap ++ (x :: (more ++ a.value.text ++ attrsText as ++ (tagEnd selfClosing ++ rest))) := by
      simp [attrsText, WrittenAttr.text, hkey]
    have hxblank : isBlank x = false := by
      simp only [startsKey, Bool.and_eq_true, Bool.not_eq_true'] at hx
      exact hx.1.1
    rw [hshape]
    refine ⟨?_, ?_, ?_⟩
    · rw [hy]; simp [isKeyChar, startsKey, hblank]
    · rw [hy]; simp [isBareChar, hblank]
    · rw [Text.dropWhile_run hall (by simpa using hxblank)]; simpa using hsign

theorem attrsFrom_of_not_startsKey {c : Cursor} {x : Char} {more : Text} (hr : c.rest = x :: more)
    (hx : startsKey x = false) : attrsFrom c = ([], c) := by
  rw [attrsFrom]
  split
  · rfl
  · rename_i hsome; rw [attr?_none_of_not_startsKey hr hx] at hsome; cases hsome

/-- Legible attributes are read one after the other, up to the end of the tag. -/
theorem attrsFrom_written {as : List WrittenAttr} (h : ∀ a ∈ as, a.Legible) (b : Char) (selfClosing : Bool) (rest : Text) :
    (attrsFrom (Cursor.skipGap b (attrsText as ++ (tagEnd selfClosing ++ rest)))).1 = as.map (·.raw) ∧
      (attrsFrom (Cursor.skipGap b (attrsText as ++ (tagEnd selfClosing ++ rest)))).2.rest =
        (if selfClosing then ['/', '>'] else ['>']) ++ rest := by
  induction as generalizing b with
  | nil =>
    cases selfClosing with
    | false =>
      have hgap : Cursor.skipGap b (attrsText [] ++ (tagEnd false ++ rest)) = ⟨b, '>' :: rest⟩ := rfl
      rw [hgap, attrsFrom_of_not_startsKey rfl rfl]
      exact ⟨rfl, rfl⟩
    | true =>
      have hgap : Cursor.skipGap b (attrsText [] ++ (tagEnd true ++ rest)) = ⟨' ', '/' :: '>' :: rest⟩ := rfl
      rw [hgap, attrsFrom_of_not_startsKey rfl rfl]
      exact ⟨rfl, rfl⟩
  | cons a as ih =>
    have ha := h a List.mem_cons_self
    have has : ∀ a ∈ as, a.Legible := fun a' h' => h a' (List.mem_cons_of_mem a h')
    obtain ⟨x, more, hkey, hx, -⟩ := startsKey_of_legible ha
    obtain ⟨b1, hb1, hgap⟩ := Cursor.skipGap_spaces b
      (more ++ (a.value.text ++ (attrsText as ++ (tagEnd selfClosing ++ rest)))) ha.gap.1 ha.gap.2 hx
    have hkeyed : x :: (more ++ (a.value.text ++ (attrsText as ++ (tagEnd selfClosing ++ rest)))) =
        a.key ++ a.value.text ++ (attrsText as ++ (tagEnd selfClosing ++ rest)) := by simp [hkey]
    rw [hkeyed] at hgap
    have hshape : attrsText (a :: as) ++ (tagEnd selfClosing ++ rest) =
        a.gap ++ (a.key ++ a.value.text ++ (attrsText as ++ (tagEnd selfClosing ++ rest))) := by
      simp [attrsText, WrittenAttr.text]
    obtain ⟨b2, hattr⟩ := attr?_written ha hb1 (endsAttr_written has)
    rw [hshape, hgap, attrsFrom]
    split
    · rename_i hnone; rw [hattr] at hnone; cases hnone
    · rename_i a' behind hsome
      rw [hattr] at hsome
      cases hsome
      obtain ⟨ih1, ih2⟩ := ih has b2
      exact ⟨by rw [List.map_cons, ← ih1], ih2⟩

/-! ## Whole tags -/

theorem decodeAttr_raw {a : WrittenAttr} (ha : a.Legible) :
    decodeAttr a.raw = .ok ⟨a.key.lower, a.value.raw?.map Jsx.unescape⟩ := by
  obtain ⟨gap, key, value⟩ := a
  cases value with
  | absent => rfl
  | bare v =>
    have hv : Entity.decodeValue v = .ok (Jsx.unescape v) := decodeValue_spelled (spells_unescape ha.value.2.2)
    simp only [decodeAttr, WrittenAttr.raw, WrittenValue.raw?, hv]
    rfl
  | quoted q v =>
    have hv : Entity.decodeValue v = .ok (Jsx.unescape v) := decodeValue_spelled (spells_unescape ha.value.2.2)
    simp only [decodeAttr, WrittenAttr.raw, WrittenValue.raw?, hv]
    rfl

theorem mapM_decodeAttr_raw {as : List WrittenAttr} (h : ∀ a ∈ as, a.Legible) :
    (as.map (·.raw)).mapM decodeAttr = .ok (as.map fun a => ⟨a.key.lower, a.value.raw?.map Jsx.unescape⟩) := by
  induction as with
  | nil => rfl
  | cons a as ih =>
    rw [List.map_cons, List.mapM_cons, decodeAttr_raw (h a List.mem_cons_self),
      ih fun a' h' => h a' (List.mem_cons_of_mem a h')]
    rfl

theorem ends_name_written {as : List WrittenAttr} {selfClosing : Bool} {rest : Text} (h : ∀ a ∈ as, a.Legible) :
    Text.Ends isNameChar (attrsText as ++ (tagEnd selfClosing ++ rest)) := by
  cases as with
  | nil => cases selfClosing <;> (simp [attrsText, tagEnd]; rfl)
  | cons a as =>
    obtain ⟨hne, hgap⟩ := (h a List.mem_cons_self).gap
    obtain ⟨y, gap, hy⟩ := List.exists_cons_of_ne_nil hne
    have := (isBlank_of_tagSpace y (hgap y (by rw [hy]; exact List.mem_cons_self))).2
    simpa [attrsText, WrittenAttr.text, hy] using this

/-- A legible tag is read whole: its name in lower case, and an element's attributes are
    the ones that are meant. -/
theorem scan_written {c : Char} {tail : Text} {as : List WrittenAttr} (hname : IsTagName (c :: tail))
    (has : ∀ a ∈ as, a.Legible) (selfClosing : Bool) (rest : Text) :
    ∃ t, scan c (tail ++ (attrsText as ++ (tagEnd selfClosing ++ rest))) = .ok (.whole t rest) ∧
      t.name = Text.lower (c :: tail) ∧ t.selfClosing = selfClosing ∧
      Growth.elementAttrs t = Attr.collapse (as.map (·.meant)) := by
  obtain ⟨_, _, heq, hc, htail⟩ := hname
  obtain ⟨rfl, rfl⟩ := List.cons.inj heq
  have hchars : ∀ d ∈ tail, isNameChar d = true := fun d hd => isNameChar_of_tagName (htail d hd)
  have hends : Text.Ends isNameChar (attrsText as ++ (tagEnd selfClosing ++ rest)) := ends_name_written has
  obtain ⟨b, hskip⟩ := Cursor.skip_run c hchars hends
  obtain ⟨hwritten, hstop⟩ := attrsFrom_written has b selfClosing rest
  have hfirst : firstAttr c (tail ++ (attrsText as ++ (tagEnd selfClosing ++ rest))) =
      Cursor.skipGap b (attrsText as ++ (tagEnd selfClosing ++ rest)) := by
    rw [firstAttr, hskip]
  have hscan : ∃ source, scan c (tail ++ (attrsText as ++ (tagEnd selfClosing ++ rest))) =
      .ok (.whole ⟨source, Text.lower (c :: tail), as.map fun a => ⟨a.key.lower, a.value.raw?.map Jsx.unescape⟩,
        selfClosing⟩ rest) := by
    unfold scan
    dsimp only
    rw [show Cursor.skipGap _ _ = firstAttr c (tail ++ (attrsText as ++ (tagEnd selfClosing ++ rest))) from rfl,
      hfirst, hwritten, hstop, mapM_decodeAttr_raw has, Text.takeWhile_run hchars hends]
    cases selfClosing <;> exact ⟨_, rfl⟩
  obtain ⟨source, hscan⟩ := hscan
  refine ⟨_, hscan, rfl, rfl, ?_⟩
  have hnames := declaredNames_of_scan hc hscan
  rw [hfirst, hwritten, List.map_map] at hnames
  have hspelled := spelled_eq (by rw [hnames, List.map_map, List.map_map]; rfl)
  unfold Growth.elementAttrs
  rw [hspelled, hnames, List.zipWith_map, List.zipWith_self, List.map_map]
  rfl

end Tag

namespace Growth

/-- An element begins; one that is void or closes itself ends at once. -/
def startElement (name : Text) (attrs : List Attr) (selfClosing : Bool) (g : Growth) : Growth :=
  let inside := g.settle.enter name attrs
  if selfClosing then inside.leave
  else if voidElements.contains name then { inside.leave with owed := name :: g.owed }
  else inside

theorem startElement_closed (name : Text) (attrs : List Attr) (g : Growth) :
    g.startElement name attrs true = { g.settle with siblings := g.settle.siblings ++ [.element name attrs []] } := rfl

theorem startElement_void {name : Text} (hv : voidElements.contains name = true) (attrs : List Attr) (g : Growth) :
    g.startElement name attrs false =
      { g.settle with siblings := g.settle.siblings ++ [.element name attrs []], owed := name :: g.owed } := by
  simp only [startElement, hv, if_true, Bool.false_eq_true, if_false, leave_enter]

theorem startElement_open {name : Text} (hv : voidElements.contains name = false) (attrs : List Attr) (g : Growth) :
    g.startElement name attrs false = g.settle.enter name attrs := by
  simp only [startElement, hv, Bool.false_eq_true, if_false]

/-- A legible start tag is reported whole, and its name decides how the rest is read. -/
theorem openStep_written (final : Bool) {name : Text} {as : List WrittenAttr} (hname : IsTagName name)
    (has : ∀ a ∈ as, a.Legible) (selfClosing : Bool) (rest : Text) :
    ∃ t, openStep final (name ++ (attrsText as ++ (tagEnd selfClosing ++ rest))) =
        .ok (.on [.startTag t] (if selfClosing then none else RawElement.ofName? name.lower) rest) ∧
      t.name = name.lower ∧ t.selfClosing = selfClosing ∧ elementAttrs t = Attr.collapse (as.map (·.meant)) := by
  obtain ⟨c, tail, rfl, hc, htail⟩ := hname
  obtain ⟨t, hscan, hlower, hself, hattrs⟩ := Tag.scan_written ⟨c, tail, rfl, hc, htail⟩ has selfClosing rest
  refine ⟨t, ?_, hlower, hself, hattrs⟩
  rw [List.cons_append]
  unfold openStep
  split
  · rename_i heq; cases heq
  · rename_i heq; rw [(List.cons.inj heq).1] at hc; cases hc
  · rename_i heq; rw [(List.cons.inj heq).1] at hc; cases hc
  · rename_i heq; rw [(List.cons.inj heq).1] at hc; cases hc
  · rename_i heq
    obtain ⟨rfl, rfl⟩ := List.cons.inj heq
    rw [if_pos hc, startTagStep, hscan]
    simp only [Except.map, hlower, hself]

/-- A reported tag begins an element. -/
theorem step_startTag (g : Growth) (t : Tag) :
    g.step (.startTag t) = g.startElement t.name (elementAttrs t) t.selfClosing := rfl

/-- A legible start tag begins the element that it names. -/
theorem read_startTag {final : Bool} {g : Growth} {name : Text} {as : List WrittenAttr} (hname : IsTagName name)
    (hraw : RawElement.ofName? name.lower = none) (has : ∀ a ∈ as, a.Legible) (selfClosing : Bool) (rest : Text) :
    g.read final ('<' :: (name ++ (attrsText as ++ (tagEnd selfClosing ++ rest)))) =
      (g.startElement name.lower (Attr.collapse (as.map (·.meant))) selfClosing).read final rest := by
  obtain ⟨t, hstep, hlower, hself, hattrs⟩ := openStep_written final hname has selfClosing rest
  rw [hraw, ite_self] at hstep
  rw [read_of_step ((step_open _).trans hstep), List.foldl_cons, List.foldl_nil, step_startTag, hlower, hattrs, hself]

end Growth

end MarkupJsx.Markup
