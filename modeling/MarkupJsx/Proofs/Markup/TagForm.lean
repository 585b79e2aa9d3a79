/-
  MarkupJsx.Proofs.Markup.TagForm — start tags in all their forms, and the names found in
  them.

  An attribute stands behind a gap of blanks and slashes. It has a key and perhaps a value:
  one equals sign or more, with blanks around them, and then a quoted or a bare text. A
  quoted text may hold anything but its quote; quotes may also stand in a key, and in a
  bare value behind its first character. The forms carry what makes them well-formed. One
  condition is left to the tag: a bare value runs on to a blank, or to the `>` of the end.

  The reading of names tries every place of the tag's text. It takes an attribute where its
  key stands and goes on behind its value (`attr?_form`), and nothing of a gap begins one
  (`KeyFree.foundFrom_append`). So it finds the keys as they are written, each in its own
  place and none within a value: `declaredNames_text`.
-/

import MarkupJsx.Proofs.Markup.AttributeScan
import MarkupJsx.Proofs.Markup.Reading

namespace MarkupJsx.Markup

open Text (isBlank isLetter isAlphanumeric)

/-! ## Forms -/

/-- One equals sign or more, with blanks around them. -/
structure Signs where
  before : Text
  further : Nat
  behind : Text
  blank_before : ∀ c ∈ before, isBlank c = true
  blank_behind : ∀ c ∈ behind, isBlank c = true

namespace Signs

def text (g : Signs) : Text := g.before ++ (List.replicate (g.further + 1) '=' ++ g.behind)

/-- A single sign with nothing around it. -/
def one : Signs := ⟨[], 0, [], by simp, by simp⟩

end Signs

inductive ValueForm where
  | absent
  /-- Text without blanks and `>` that begins with no quote and no further equals sign. -/
  | bare (signs : Signs) (v : Text) (begins : ∃ x more, v = x :: more ∧ Tag.isQuote x = false ∧ x ≠ '=')
      (chars : ∀ c ∈ v, Tag.isBareChar c = true)
  | quoted (signs : Signs) (q : Char) (v : Text) (quote : Tag.isQuote q = true) (inner : q ∉ v)

namespace ValueForm

def text : ValueForm → Text
  | absent => []
  | bare signs v _ _ => signs.text ++ v
  | quoted signs q v _ _ => signs.text ++ (q :: v ++ [q])

/-- The value without its quotes. -/
def raw? : ValueForm → Option Text
  | absent => none
  | bare _ v _ _ | quoted _ _ v _ _ => some v

def IsBare : ValueForm → Prop
  | bare .. => True
  | absent | quoted .. => False

/-- The value does not run on into the text `s` behind it. -/
def EndsBefore (s : Text) : ValueForm → Prop
  | absent => Text.Ends Tag.isKeyChar s ∧ Text.Ends (· == '=') (s.dropWhile isBlank)
  | bare .. => Text.Ends Tag.isBareChar s
  | quoted .. => True

end ValueForm

structure AttrForm where
  gap : Text
  key : Text
  value : ValueForm
  gap_ne : gap ≠ []
  gap_chars : ∀ c ∈ gap, isBlank c = true ∨ c = '/'
  key_ne : key ≠ []
  key_chars : ∀ c ∈ key, Tag.isKeyChar c = true

def AttrForm.text (a : AttrForm) : Text := a.gap ++ (a.key ++ a.value.text)

def formsText (as : List AttrForm) : Text := as.flatMap AttrForm.text

/-- The spaces that may stand between the parts of a tag. -/
def tagSpaces : Text := ['\t', '\n', '\r', '\x0c', ' ']

/-- A bare value runs on to a blank or to the `>` that ends the tag. -/
def Parted (ending : Text) : List AttrForm → Prop
  | [] => True
  | a :: as => (a.value.IsBare → Text.Ends Tag.isBareChar (formsText as ++ ending)) ∧ Parted ending as

/-- Each key with all that follows it. -/
def placesIn (ending : Text) : List AttrForm → List (Text × Text)
  | [] => []
  | a :: as => (a.key, a.value.text ++ (formsText as ++ ending)) :: placesIn ending as

structure TagForm where
  name : Text
  attrs : List AttrForm
  blanks : Text
  close : Text
  isName : IsTagName name
  /-- The gap behind the name begins with one of the characters that end a name. -/
  begins : ∀ a ∈ attrs.head?, ∀ c ∈ a.gap.head?, c ∈ '/' :: tagSpaces
  blank : ∀ c ∈ blanks, isBlank c = true
  closes : Tag.isTagEnd close
  parted : Parted (blanks ++ close) attrs

namespace TagForm

def ending (t : TagForm) : Text := t.blanks ++ t.close

def text (t : TagForm) : Text := '<' :: (t.name ++ (formsText t.attrs ++ t.ending))

/-- The keys, each with all that follows it in the tag. -/
def places (t : TagForm) : List (Text × Text) := placesIn t.ending t.attrs

end TagForm

/-! ## Reading one attribute -/

namespace Cursor

/-- A run is skipped up to its end. -/
theorem skip_run {p : Char → Bool} {a rest : Text} (b : Char) (ha : ∀ c ∈ a, p c = true) (hr : Text.Ends p rest) :
    ∃ b', skip p ⟨b, a ++ rest⟩ = ⟨b', rest⟩ :=
  ⟨a.getLastD b, by simp only [skip, Text.takeWhile_run ha hr, Text.dropWhile_run ha hr]⟩

end Cursor

namespace Tag

variable {b : Char} {s : Text}

theorem isQuote_iff {q : Char} : isQuote q = true ↔ q = '\'' ∨ q = '"' := by simp [isQuote]

/-- The signs are passed by, up to a text that begins with neither a blank nor a sign. -/
theorem skip_signs (g : Signs) (b : Char) {x : Char} (more : Text) (hblank : isBlank x = false) (hsign : x ≠ '=') :
    ∃ signs b1 b2 b3, signs ≠ [] ∧
      Cursor.skip isBlank ⟨b, g.text ++ x :: more⟩ = ⟨b1, signs ++ (g.behind ++ x :: more)⟩ ∧
      (signs ++ (g.behind ++ x :: more)).takeWhile (· == '=') = signs ∧
      Cursor.skip (· == '=') ⟨b1, signs ++ (g.behind ++ x :: more)⟩ = ⟨b2, g.behind ++ x :: more⟩ ∧
      Cursor.skip isBlank ⟨b2, g.behind ++ x :: more⟩ = ⟨b3, x :: more⟩ := by
  have hsigns : ∀ c ∈ List.replicate (g.further + 1) '=', (c == '=') = true := by simp
  have hends : Text.Ends (· == '=') (g.behind ++ x :: more) := by
    cases hb : g.behind with
    | nil => simpa using hsign
    | cons y ys =>
      have hy := g.blank_behind y (by simp [hb])
      have hne : y ≠ '=' := by rintro rfl; cases hy
      simpa using hne
  have hbefore : Text.Ends isBlank (List.replicate (g.further + 1) '=' ++ (g.behind ++ x :: more)) := Text.ends_cons.mpr rfl
  have hbehind : Text.Ends isBlank (x :: more) := Text.ends_cons.mpr hblank
  obtain ⟨b1, h1⟩ := Cursor.skip_run b g.blank_before hbefore
  obtain ⟨b2, h2⟩ := Cursor.skip_run b1 hsigns hends
  obtain ⟨b3, h3⟩ := Cursor.skip_run b2 g.blank_behind hbehind
  refine ⟨List.replicate (g.further + 1) '=', b1, b2, b3, by simp, ?_, Text.takeWhile_run hsigns hends, h2, h3⟩
  rw [Signs.text, List.append_assoc, List.append_assoc]
  exact h1

theorem value?_absent (h : ValueForm.absent.EndsBefore s) : value? ⟨b, s⟩ = none := by
  have : ((Cursor.skip isBlank ⟨b, s⟩).rest.takeWhile (· == '=')) = [] := Text.takeWhile_of_ends h.2
  simp only [value?, this, List.isEmpty_nil, if_true]

/-- A value is read up to its end, whatever it holds. -/
theorem value?_form (w : ValueForm) (b : Char) (h : w.EndsBefore s) :
    ∃ b', value? ⟨b, w.text ++ s⟩ = w.raw?.map (·, ⟨b', s⟩) := by
  cases w with
  | absent => exact ⟨b, value?_absent h⟩
  | bare g v begins chars =>
    obtain ⟨x, more, rfl, hquote, hsign⟩ := begins
    have hblank : isBlank x = false := by
      have := chars x List.mem_cons_self
      simp only [isBareChar, Bool.and_eq_true, Bool.not_eq_true'] at this
      exact this.1
    obtain ⟨signs, b1, b2, b3, hne, h1, h2, h3, h4⟩ := skip_signs g b (more ++ s) hblank hsign
    obtain ⟨b', hb'⟩ := Cursor.skip_run b3 chars h
    have hbare : bareValue ⟨b3, x :: (more ++ s)⟩ = (x :: more, ⟨b', s⟩) := by
      rw [bareValue, ← List.cons_append, hb', Text.takeWhile_run chars h]
    refine ⟨b', ?_⟩
    rw [ValueForm.text, List.append_assoc, List.cons_append]
    simp only [value?, h1, h2, h3, h4, hquote, hbare, List.isEmpty_iff, hne]
    rfl
  | quoted g q v quote inner =>
    have hchar : isBlank q = false ∧ q ≠ '=' := by
      rcases isQuote_iff.mp quote with rfl | rfl <;> exact ⟨rfl, by decide⟩
    have hall := Text.ne_of_not_mem inner
    have hends : Text.Ends (· != q) (q :: s) := by simp
    obtain ⟨signs, b1, b2, b3, hne, h1, h2, h3, h4⟩ := skip_signs g b (v ++ q :: s) hchar.1 hchar.2
    have hshape : ValueForm.text (.quoted g q v quote inner) ++ s = g.text ++ q :: (v ++ q :: s) := by
      simp [ValueForm.text]
    refine ⟨q, ?_⟩
    rw [hshape]
    simp only [value?, h1, h2, h3, h4, quote, List.isEmpty_iff, hne, Text.takeWhile_run hall hends,
      Text.dropWhile_run hall hends]
    rfl

/-- A key ends where its value begins, or where an attribute without one ends. -/
theorem ends_key {w : ValueForm} (h : w.EndsBefore s) : Text.Ends isKeyChar (w.text ++ s) := by
  have hsigns : ∀ (g : Signs) (s : Text), Text.Ends isKeyChar (g.text ++ s) := by
    intro g s
    cases hb : g.before with
    | nil => simp [Signs.text, hb, List.replicate_succ]; rfl
    | cons y ys =>
      have hy := g.blank_before y (by simp [hb])
      simp [Signs.text, hb, isKeyChar, startsKey, hy]
  cases w with
  | absent => exact h.1
  | bare g v _ _ => rw [ValueForm.text, List.append_assoc]; exact hsigns g _
  | quoted g q v _ _ => rw [ValueForm.text, List.append_assoc]; exact hsigns g _

theorem startsKey_of_isKeyChar {x : Char} (h : isKeyChar x = true) : startsKey x = true ∧ x ≠ '=' := by
  simpa [isKeyChar] using h

/-- An attribute is read where its key stands, and left behind with its value. -/
theorem attr?_form {a : AttrForm} (hb : opensAttr b = true) (h : a.value.EndsBefore s) :
    ∃ b', attr? ⟨b, a.key ++ (a.value.text ++ s)⟩ = some (⟨a.key, a.value.raw?⟩, ⟨b', s⟩) := by
  obtain ⟨x, tail, hkey⟩ := List.exists_cons_of_ne_nil a.key_ne
  have hchars := a.key_chars
  rw [hkey] at hchars
  have hx := (startsKey_of_isKeyChar (hchars x List.mem_cons_self)).1
  have htail : ∀ c ∈ tail, isKeyChar c = true := fun c hc => hchars c (List.mem_cons_of_mem x hc)
  have hends := ends_key h
  have hopen : (opensAttr b && startsKey x) = true := by simp [hb, hx]
  obtain ⟨b1, hb1⟩ := Cursor.skip_run x htail hends
  obtain ⟨b2, hb2⟩ := value?_form a.value b1 h
  rw [hkey]
  simp only [List.cons_append, attr?, hopen, if_true, Text.takeWhile_run htail hends, hb1, hb2]
  cases hw : a.value with
  | absent => exact ⟨b1, by simp [ValueForm.raw?, ValueForm.text]⟩
  | bare g v _ _ => exact ⟨b2, rfl⟩
  | quoted g q v _ _ => exact ⟨b2, rfl⟩

/-! ## Reading all attributes -/

/-- No key begins in the text. -/
def KeyFree (s : Text) : Prop := ∀ c ∈ s, startsKey c = false

theorem keyFree_gap (a : AttrForm) : KeyFree a.gap := by
  intro c hc
  rcases a.gap_chars c hc with h | rfl
  · simp [startsKey, h]
  · rfl

theorem keyFree_ending (t : TagForm) : KeyFree t.ending := by
  intro c hc
  rcases List.mem_append.mp hc with h | h
  · simp [startsKey, t.blank c h]
  · have hclose : ∀ close, isTagEnd close → KeyFree close := by
      rintro _ (rfl | rfl) <;> exact Text.forall_mem_of_all rfl
    exact hclose _ t.closes c h

namespace KeyFree

variable {gap : Text}

theorem tail {y : Char} (h : KeyFree (y :: gap)) : KeyFree gap := fun c hc => h c (List.mem_cons_of_mem y hc)

theorem ends_key (h : KeyFree gap) : Text.Ends isKeyChar gap := by
  intro c hc
  have hstart := h c (List.mem_of_mem_head? hc)
  simp [isKeyChar, hstart]

/-- Past the blanks comes no equals sign, if none stands right behind the text. -/
theorem ends_sign (h : KeyFree gap) (hsign : Text.Ends (· == '=') s) (hblank : Text.Ends isBlank s) :
    Text.Ends (· == '=') ((gap ++ s).dropWhile isBlank) := by
  induction gap with
  | nil => rwa [List.nil_append, Text.dropWhile_of_ends hblank]
  | cons y gap ih =>
    rw [List.cons_append]
    by_cases hy : isBlank y = true
    · rw [List.dropWhile_cons_of_pos hy]
      exact ih h.tail
    · rw [List.dropWhile_cons_of_neg hy, Text.ends_cons, beq_eq_false_iff_ne]
      rintro rfl
      cases h '=' List.mem_cons_self

/-- The reading passes by. -/
theorem foundFrom_append (h : KeyFree gap) (b : Char) (s : Text) :
    foundFrom ⟨b, gap ++ s⟩ = foundFrom ⟨gap.getLastD b, s⟩ := by
  induction gap generalizing b with
  | nil => rfl
  | cons y gap ih =>
    rw [List.cons_append, foundFrom_skip rfl (h y List.mem_cons_self), ih h.tail, List.getLastD_cons]

theorem foundFrom_eq_nil (h : KeyFree gap) (b : Char) : foundFrom ⟨b, gap⟩ = [] := by
  have hpast := h.foundFrom_append b []
  rw [List.append_nil] at hpast
  rw [hpast, foundFrom_nil rfl]

end KeyFree

/-- A key may begin behind a gap. -/
theorem opensAttr_gap (a : AttrForm) (b : Char) : opensAttr (a.gap.getLastD b) = true := by
  have hlast : a.gap.getLastD b ∈ a.gap := by
    rw [List.getLastD_eq_getLast?, List.getLast?_eq_some_getLast a.gap_ne, Option.getD_some]
    exact List.getLast_mem a.gap_ne
  rcases a.gap_chars _ hlast with h | h
  · rw [opensAttr, h, Bool.or_true, Bool.true_or]
  · rw [h]; rfl

theorem formsText_cons (a : AttrForm) (as : List AttrForm) (ending : Text) :
    formsText (a :: as) ++ ending = a.gap ++ (a.key ++ (a.value.text ++ (formsText as ++ ending))) := by
  simp [formsText, AttrForm.text]

/-- No equals sign comes before the next key, so an attribute without a value has none. -/
theorem endsBefore_forms {ending : Text} (hend : KeyFree ending) (as : List AttrForm) :
    ValueForm.absent.EndsBefore (formsText as ++ ending) := by
  cases as with
  | nil =>
    have hsign := hend.ends_sign Text.ends_nil Text.ends_nil
    rw [List.append_nil] at hsign
    exact ⟨hend.ends_key, hsign⟩
  | cons a as =>
    obtain ⟨x, more, hkey⟩ := List.exists_cons_of_ne_nil a.key_ne
    obtain ⟨y, gap, hgap⟩ := List.exists_cons_of_ne_nil a.gap_ne
    have hx : (isBlank x = false ∧ x ≠ '/' ∧ x ≠ '>') ∧ x ≠ '=' := by
      simpa [isKeyChar, startsKey, and_assoc] using a.key_chars x (by simp [hkey])
    have hfree := keyFree_gap a
    rw [formsText_cons, hkey]
    refine ⟨?_, hfree.ends_sign ?_ ?_⟩
    · rw [hgap] at hfree ⊢
      exact Text.ends_cons.mpr (Text.ends_cons.mp hfree.ends_key)
    · exact Text.ends_cons.mpr (by simpa using hx.2)
    · exact Text.ends_cons.mpr hx.1.1

theorem endsBefore_of_parted {ending : Text} (hend : KeyFree ending) {a : AttrForm} {as : List AttrForm}
    (h : Parted ending (a :: as)) : a.value.EndsBefore (formsText as ++ ending) := by
  have hbare := h.1
  cases hw : a.value with
  | absent => exact endsBefore_forms hend as
  | bare g v _ _ => exact hbare (by rw [hw]; trivial)
  | quoted g q v _ _ => trivial

/-- The keys are found one after the other, each where it stands. -/
theorem foundFrom_forms {ending : Text} (hend : KeyFree ending) {as : List AttrForm} (h : Parted ending as) (b : Char) :
    foundFrom ⟨b, formsText as ++ ending⟩ = placesIn ending as := by
  induction as generalizing b with
  | nil => exact hend.foundFrom_eq_nil b
  | cons a as ih =>
    obtain ⟨b', hattr⟩ := attr?_form (opensAttr_gap a b) (endsBefore_of_parted hend h)
    rw [formsText_cons, (keyFree_gap a).foundFrom_append, foundFrom_some hattr, ih h.2 b', placesIn, List.drop_left]

theorem map_placesIn (ending : Text) (as : List AttrForm) : (placesIn ending as).map (·.1) = as.map (·.key) := by
  induction as with
  | nil => rfl
  | cons a as ih => rw [placesIn, List.map_cons, List.map_cons, ih]

/-! ## Whole tags -/

/-- The names found in a tag, each with all that follows it. -/
def found (tag : Text) : List (Text × Text) :=
  match tag with
  | '<' :: c :: rest => if isLetter c then foundFrom (Cursor.skip isNameChar ⟨c, rest⟩) else []
  | _ => []

theorem declaredNames_eq_found (tag : Text) : declaredNames tag = (found tag).map (·.1) := by
  unfold declaredNames
  split
  · rename_i c rest
    by_cases hc : isLetter c = true
    · rw [if_pos hc, found, if_pos hc, keysFrom_eq_found]
    · rw [if_neg hc, found, if_neg hc, List.map_nil]
  · rename_i hno
    unfold found
    split
    · exact (hno _ _ rfl).elim
    · rfl

theorem isNameChar_of_tagName {d : Char} (h : (isAlphanumeric d || d == '-') = true) : isNameChar d = true := by
  unfold isNameChar
  by_cases hd : d ∈ ['\t', '\n', '\r', '\x0c', ' ', '/', '>', '\x00']
  · simp only [List.mem_cons, List.not_mem_nil, or_false] at hd
    rcases hd with rfl | rfl | rfl | rfl | rfl | rfl | rfl | rfl <;> cases h
  · simp only [List.mem_cons, List.not_mem_nil, or_false, not_or] at hd
    simp [hd]

/-- The first gap ends the name of the tag. -/
theorem ends_name_forms {a : AttrForm} (hbegins : ∀ c ∈ a.gap.head?, c ∈ '/' :: tagSpaces) (as : List AttrForm)
    (ending : Text) : Text.Ends isNameChar (formsText (a :: as) ++ ending) := by
  have hname : ∀ c ∈ '/' :: tagSpaces, isNameChar c = false := Text.forall_mem_of_all (by decide)
  obtain ⟨y, gap, hgap⟩ := List.exists_cons_of_ne_nil a.gap_ne
  rw [formsText_cons, hgap]
  exact Text.ends_cons.mpr (hname y (hbegins y (by simp [hgap])))

theorem found_text (t : TagForm) : found t.text = t.places := by
  obtain ⟨c, tail, hname, hc, htail⟩ := t.isName
  have hchars : ∀ d ∈ tail, isNameChar d = true := fun d hd => isNameChar_of_tagName (htail d hd)
  have hbegins := t.begins
  have hparted : Parted t.ending t.attrs := t.parted
  rw [TagForm.text, hname, List.cons_append, found, if_pos hc, TagForm.places]
  cases hattrs : t.attrs with
  | nil =>
    -- the name may take blanks of the end with it
    have hrest : KeyFree ((tail ++ t.ending).dropWhile isNameChar) := by
      rw [List.dropWhile_append_of_pos hchars]
      exact fun c hc => keyFree_ending t c ((List.dropWhile_suffix _).subset hc)
    exact hrest.foundFrom_eq_nil _
  | cons a as =>
    rw [hattrs] at hbegins hparted
    obtain ⟨b, hskip⟩ := Cursor.skip_run c hchars (ends_name_forms (hbegins a rfl) as t.ending)
    rw [hskip]
    exact foundFrom_forms (keyFree_ending t) hparted b

/-- The names declared in a tag of any form are its keys, in their order and as they are
    spelled. They are found where the keys stand: nothing within a value is taken for a
    name. -/
theorem declaredNames_text (t : TagForm) :
    declaredNames t.text = t.attrs.map (·.key) ∧ found t.text = t.places := by
  have hfound := found_text t
  refine ⟨?_, hfound⟩
  rw [declaredNames_eq_found, hfound]
  exact map_placesIn t.ending t.attrs

/-- The tag `<a-B /x="y z='1' />" D ==\n'"e=" >' / F f=g/h />`. -/
def crowdedTag : TagForm where
  name := "a-B".toList
  attrs :=
    [⟨" /".toList, ['x'], .quoted .one '"' "y z='1' />".toList rfl (by decide), by decide,
      Text.forall_mem_of_all (by decide), by decide, Text.forall_mem_of_all (by decide)⟩,
     ⟨[' '], ['D'], .quoted ⟨[' '], 1, ['\n'], Text.forall_mem_of_all (by decide), Text.forall_mem_of_all (by decide)⟩
        '\'' "\"e=\" >".toList rfl (by decide), by decide, Text.forall_mem_of_all (by decide), by decide,
      Text.forall_mem_of_all (by decide)⟩,
     ⟨" / ".toList, ['F'], .absent, by decide, Text.forall_mem_of_all (by decide), by decide,
      Text.forall_mem_of_all (by decide)⟩,
     ⟨[' '], ['f'], .bare .one "g/h".toList ⟨'g', "/h".toList, rfl, rfl, by decide⟩ (Text.forall_mem_of_all (by decide)),
      by decide, Text.forall_mem_of_all (by decide), by decide, Text.forall_mem_of_all (by decide)⟩]
  blanks := [' ']
  close := ['/', '>']
  isName := ⟨'a', "-B".toList, rfl, rfl, Text.forall_mem_of_all (by decide)⟩
  begins := by simp; decide
  blank := Text.forall_mem_of_all (by decide)
  closes := Or.inr rfl
  parted := ⟨nofun, nofun, nofun, fun _ => Text.ends_cons.mpr rfl, trivial⟩

theorem declaredNames_crowdedTag :
    crowdedTag.text = "<a-B /x=\"y z='1' />\" D ==\n'\"e=\" >' / F f=g/h />".toList ∧
      declaredNames crowdedTag.text = [['x'], ['D'], ['F'], ['f']] :=
  ⟨by decide, (declaredNames_text crowdedTag).1⟩

end Tag

end MarkupJsx.Markup
