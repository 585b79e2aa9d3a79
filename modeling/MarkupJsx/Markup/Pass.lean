/-
  MarkupJsx.Markup.Pass — the events of a whole document.

  A pass repeats steps until one stops or the text is used up; every step that goes on
  leaves less text (`length_of_step`). The document is a first pass, a second one over
  what the first left, and what even the second left as text, unless that lies within a
  script or style element.
-/

import MarkupJsx.Markup.Event

namespace MarkupJsx.Markup

open Text (isBlank)

/-! ## A step leaves less text -/

theorem length_of_cutAfter? {c : Char} {s t rest : Text} (h : Text.cutAfter? c s = some (t, rest)) :
    rest.length < s.length := by
  have := Entity.length_dropWhile_le (· != c) s
  unfold Text.cutAfter? at h
  split at h
  · cases h
  · next x tail hx => rw [hx] at this; simp at h this; rw [← h.2]; omega

theorem length_of_pastTag? {s rest : Text} (h : pastTag? s = some rest) : rest.length < s.length := by
  unfold pastTag? at h
  obtain ⟨⟨t, r⟩, h1, h2⟩ := Option.map_eq_some_iff.1 h
  rw [← h2]; exact length_of_cutAfter? h1

theorem length_of_searchAfter {at? : Text → Option Text} (hat : ∀ {s r : Text}, at? s = some r → r.length ≤ s.length)
    {s rest : Text} (h : searchAfter at? s = some rest) : rest.length ≤ s.length := by
  induction s with
  | nil => exact hat h
  | cons c tail ih =>
    simp only [searchAfter, Option.or_eq_some_iff] at h
    rcases h with h | h
    · exact hat h
    · exact Nat.le_succ_of_le (ih h.2)

theorem length_of_commentEnd? {s rest : Text} (h : commentEnd? s = some rest) : rest.length ≤ s.length := by
  unfold commentEnd? at h
  split at h
  · next tail =>
    have := Entity.length_dropWhile_le isBlank tail
    split at h
    · next after ha => rw [ha] at this; simp at h this; rw [← h]; simp; omega
    · cases h
  · cases h

theorem length_of_charAt? {c : Char} {s rest : Text} (h : charAt? c s = some rest) : rest.length < s.length := by
  unfold charAt? at h
  split at h
  · cases h
  · next x tail =>
    have := Entity.length_dropWhile_le isBlank tail
    split at h
    · simp at h; rw [← h]; simp; omega
    · cases h

theorem length_of_sectionEnd? {n : Nat} {s rest : Text} (h : sectionEnd? n s = some rest) : rest.length ≤ s.length := by
  induction n generalizing s with
  | zero =>
    simp only [sectionEnd?] at h
    split at h
    · simp at h; rw [← h]; simp
    · cases h
  | succ n ih =>
    simp only [sectionEnd?, Option.bind_eq_some_iff] at h
    obtain ⟨t, h1, h2⟩ := h
    have := ih h2
    have := length_of_charAt? h1
    omega

/-- A construct that is whole ends within the text. -/
def Construct.EndsWithin (n : Nat) : Construct → Prop
  | whole _ rest => rest.length ≤ n
  | incomplete => True

theorem Construct.endsWithin_hiddenUpTo {n : Nat} {rest : Option Text} (h : ∀ r, rest = some r → r.length ≤ n) :
    (Construct.hiddenUpTo rest).EndsWithin n := by
  cases rest with
  | none => trivial
  | some r => exact h r rfl

theorem endsWithin_markedSection {whole inner : Text} {k : Construct} (h : markedSection whole inner = .ok k) :
    k.EndsWithin inner.length := by
  unfold markedSection at h
  split at h
  · cases h; trivial
  · split at h
    · dsimp only at h
      split at h
      · cases h; trivial
      · split at h
        · cases h
          exact Construct.endsWithin_hiddenUpTo fun r hr => length_of_searchAfter (fun e => length_of_sectionEnd? e) hr
        · split at h
          · cases h
            exact Construct.endsWithin_hiddenUpTo fun r hr => length_of_searchAfter (fun e => length_of_sectionEnd? e) hr
          · cases h
    · cases h

theorem endsWithin_declaration {inner : Text} {k : Construct} (h : declaration inner = .ok k) :
    k.EndsWithin inner.length := by
  unfold declaration at h
  split at h
  · next rest =>
    cases h
    refine Construct.endsWithin_hiddenUpTo fun r hr => ?_
    have := length_of_searchAfter (fun e => length_of_commentEnd? e) hr
    simp; omega
  · next rest =>
    have := endsWithin_markedSection h
    cases k with
    | whole e r => simp [Construct.EndsWithin] at this ⊢; omega
    | incomplete => trivial
  · split at h
    · cases h
      refine Construct.endsWithin_hiddenUpTo fun r hr => ?_
      have := length_of_pastTag? hr
      simp at this; omega
    · cases h
      exact Construct.endsWithin_hiddenUpTo fun r hr => Nat.le_of_lt (length_of_pastTag? hr)

theorem endsWithin_endTag (inner : Text) : (endTag inner).EndsWithin inner.length := by
  unfold endTag
  split
  · trivial
  · next rest hrest =>
    have := Nat.le_of_lt (length_of_pastTag? hrest)
    split
    · exact this
    · split
      · exact this
      · split <;> exact this
      · trivial

theorem textOfIncomplete_ne_nil {c : Char} {rest : Text} : textOfIncomplete (c :: rest) ≠ [] := by
  unfold textOfIncomplete
  dsimp only
  split
  · simp
  · split <;> simp

theorem length_of_constructStep {final : Bool} {s : Text} {k : Construct} {events mode rest}
    (hs : s ≠ []) (hk : k.EndsWithin (s.length - 1)) (h : k.step final s = .on events mode rest) :
    rest.length < s.length := by
  have hpos : 0 < s.length := List.length_pos_iff.2 hs
  cases k with
  | whole e r => simp [Construct.step] at h; simp [Construct.EndsWithin] at hk; rw [← h.2.2]; omega
  | incomplete =>
    simp only [Construct.step] at h
    split at h
    · cases s with
      | nil => exact absurd rfl hs
      | cons c tail =>
        have := List.length_pos_iff.2 (@textOfIncomplete_ne_nil c tail)
        simp at h; rw [← h.2.2]; simp; omega
    · cases h

def Tag.Scan.EndsWithin (n : Nat) : Tag.Scan → Prop
  | whole _ rest | broken _ rest => rest.length ≤ n
  | incomplete => True

theorem endsWithin_tagScan {c : Char} {tail : Text} {k : Tag.Scan} (h : Tag.scan c tail = .ok k) :
    k.EndsWithin tail.length := by
  have h1 := Cursor.length_skip_le Tag.isNameChar ⟨c, tail⟩
  have h2 := Cursor.length_skipGap_le (Cursor.skip Tag.isNameChar ⟨c, tail⟩).before (Cursor.skip Tag.isNameChar ⟨c, tail⟩).rest
  have h3 := Tag.length_attrsFrom_le (Cursor.skipGap (Cursor.skip Tag.isNameChar ⟨c, tail⟩).before (Cursor.skip Tag.isNameChar ⟨c, tail⟩).rest)
  unfold Tag.scan at h
  dsimp only at h h1 h2 h3
  generalize Tag.attrsFrom _ = p at h h3
  obtain ⟨written, stop⟩ := p
  dsimp only at h h3
  cases hd : written.mapM Tag.decodeAttr with
  | error e =>
    rw [hd] at h
    split at h <;> simp [Except.map] at h
    · rw [← h]; trivial
    · split at h <;> simp at h
      rw [← h]; trivial
  | ok as =>
    rw [hd] at h
    split at h
    · cases h; trivial
    · next after ha => rw [ha] at h3; simp [Except.map] at h h3; rw [← h]; simp only [Tag.Scan.EndsWithin]; omega
    · next after ha => rw [ha] at h3; simp [Except.map] at h h3; rw [← h]; simp only [Tag.Scan.EndsWithin]; omega
    · next x more _ _ ha =>
      rw [ha] at h3
      split at h <;> simp [Except.map] at h
      · rw [← h]; trivial
      · rw [← h]; simp [Tag.Scan.EndsWithin] at h3 ⊢; omega

theorem length_of_startTagStep {final : Bool} {c : Char} {tail : Text} {events mode rest}
    (h : startTagStep final c tail = .ok (.on events mode rest)) : rest.length < tail.length + 2 := by
  unfold startTagStep at h
  cases hk : Tag.scan c tail with
  | error e => rw [hk] at h; cases h
  | ok k =>
    have := endsWithin_tagScan hk
    rw [hk] at h
    cases k with
    | whole tag r => simp [Except.map] at h; simp [Tag.Scan.EndsWithin] at this; rw [← h.2.2]; omega
    | broken src r => simp [Except.map] at h; simp [Tag.Scan.EndsWithin] at this; rw [← h.2.2]; omega
    | incomplete =>
      simp only [Except.map] at h
      exact length_of_constructStep (s := '<' :: c :: tail) (by simp) (k := .incomplete) trivial (Except.ok.inj h)

theorem length_of_openStep {final : Bool} {tail : Text} {events mode rest}
    (h : openStep final tail = .ok (.on events mode rest)) : rest.length < tail.length + 1 := by
  unfold openStep at h
  split at h
  · cases h
  · next inner =>
    refine length_of_constructStep (s := '<' :: '/' :: inner) (by simp) ?_ (Except.ok.inj h)
    have := endsWithin_endTag inner
    cases hk : endTag inner with
    | whole e r => rw [hk] at this; simp [Construct.EndsWithin] at this ⊢; omega
    | incomplete => trivial
  · next inner =>
    cases hk : declaration inner with
    | error e => rw [hk] at h; cases h
    | ok k =>
      have := endsWithin_declaration hk
      rw [hk] at h
      refine length_of_constructStep (s := '<' :: '!' :: inner) (by simp) (k := k) ?_ (Except.ok.inj h)
      cases k with
      | whole e r => simp [Construct.EndsWithin] at this ⊢; omega
      | incomplete => trivial
  · next inner =>
    refine length_of_constructStep (s := '<' :: '?' :: inner) (by simp) ?_ (Except.ok.inj h)
    refine Construct.endsWithin_hiddenUpTo fun r hr => ?_
    have := length_of_pastTag? hr
    simp; omega
  · next c more _ _ _ =>
    split at h
    · exact length_of_startTagStep h
    · simp at h; rw [← h.2.2]; simp

theorem length_of_nameInText? {s name after : Text} (h : Entity.nameInText? s = some (name, after)) :
    after.length ≤ s.length := by
  unfold Entity.nameInText? at h
  split at h
  · cases h
  · next c tail =>
    split at h
    · split at h
      · next d more hd =>
        have := Entity.length_dropWhile_le Entity.isNameChar (c :: tail)
        rw [hd] at this
        simp at h this; rw [← h.2]; simpa using this
      · split at h
        · cases h
        · simp only [Option.some.injEq, Prod.mk.injEq] at h
          rw [← h.2]; simp
    · cases h

theorem length_of_numericInText? {s : Text} {r : Entity.Numeric} {after : Text}
    (h : Entity.numericInText? s = some (r, after)) : after.length ≤ s.length := by
  unfold Entity.numericInText? at h
  split at h
  · next r' c tail hscan =>
    split at h
    · cases h
    · simp at h
      have := Entity.Numeric.length_of_scan? hscan
      rw [← h.2]; exact this
  · cases h

theorem length_of_referenceStep {final : Bool} {tail : Text} {events mode rest}
    (h : referenceStep final tail = .ok (.on events mode rest)) : rest.length < tail.length + 1 := by
  unfold referenceStep at h
  split at h
  · next number =>
    split at h
    · next r after ha =>
      have h1 := length_of_numericInText? ha
      have h2 := Entity.length_dropSemicolon_le after
      cases hc : r.code with
      | error e => rw [hc] at h; cases h
      | ok n => rw [hc] at h; simp [Except.map] at h; rw [← h.2.2]; simp; omega
    · split at h <;> simp at h
  · cases h
  · next c more hne =>
    split at h
    · split at h
      · next name after ha =>
        have h1 := length_of_nameInText? ha
        have h2 := Entity.length_dropSemicolon_le after
        simp at h; rw [← h.2.2]; omega
      · split at h <;> simp at h
    · simp at h; rw [← h.2.2]; simp

theorem length_of_spelling? {name s w rest : Text} (h : RawElement.spelling? name s = some (w, rest)) :
    rest.length ≤ s.length := by
  induction name generalizing s w rest with
  | nil =>
    simp only [RawElement.spelling?, Option.some.injEq, Prod.mk.injEq] at h
    exact Nat.le_of_eq (congrArg List.length h.2.symm)
  | cons l name ih =>
    cases s with
    | nil => cases h
    | cons x s =>
      simp only [RawElement.spelling?] at h
      split at h
      · obtain ⟨⟨w', r'⟩, h1, h2⟩ := Option.map_eq_some_iff.1 h
        simp at h2
        have := ih h1
        rw [← h2.2]; exact Nat.le_succ_of_le this
      · cases h

theorem RawElement.length_of_closer? {e : RawElement} {s tag rest : Text} {plain : Bool}
    (h : e.closer? s = some (tag, plain, rest)) : rest.length < s.length := by
  unfold RawElement.closer? at h
  split at h
  · next tail =>
    have h1 := Entity.length_dropWhile_le isBlank tail
    split at h
    · cases h
    · next w more hw =>
      have h2 := length_of_spelling? hw
      have h3 := Entity.length_dropWhile_le isBlank more
      split at h
      · next after ha =>
        rw [ha] at h3
        simp at h h3
        rw [← h.2.2]; simp; omega
      · cases h
  · cases h

theorem length_of_rawStep {e : RawElement} {c : Char} {tail : Text} {events mode rest}
    (h : rawStep e (c :: tail) = .on events mode rest) : rest.length < tail.length + 1 := by
  unfold rawStep at h
  split at h
  · next tag plain r hr =>
    have := RawElement.length_of_closer? hr
    split at h <;> (simp at h this; rw [← h.2.2]; omega)
  · next hnone =>
    split at h
    · next t ht =>
      simp only [Step.on.injEq] at h
      cases t with
      | nil =>
        simp only [RawElement.contentBefore?, hnone] at ht
        simp at ht
      | cons x t => rw [← h.2.2]; simp only [List.length_drop, List.length_cons]; omega
    · cases h

theorem length_of_step {final : Bool} {mode : Option RawElement} {c : Char} {tail : Text} {events mode' rest}
    (h : step final mode c tail = .ok (.on events mode' rest)) : rest.length < tail.length + 1 := by
  unfold step at h
  split at h
  · exact length_of_rawStep (Except.ok.inj h)
  · split at h
    · exact length_of_openStep h
    · split at h
      · exact length_of_referenceStep h
      · have := Entity.length_dropWhile_le isPlain tail
        simp at h; rw [← h.2.2]; omega

/-! ## Passes -/

/-- The outcome of a pass: its events, the mode in which it ended, and the text it left. -/
structure Pass where
  events : List Event
  mode : Option RawElement
  rest : Text
  deriving DecidableEq, Repr

def Pass.after (events : List Event) (p : Pass) : Pass := { p with events := events ++ p.events }

def pass (final : Bool) (mode : Option RawElement) (s : Text) : Except MarkupError Pass :=
  match s with
  | [] => .ok ⟨[], mode, []⟩
  | c :: tail =>
    match h : step final mode c tail with
    | .error e => .error e
    | .ok (.stop events rest) => .ok ⟨events, mode, rest⟩
    | .ok (.on events mode' rest) =>
      have : rest.length < tail.length + 1 := length_of_step h
      (pass final mode' rest).map (Pass.after events)
termination_by s.length

/-- What the last pass left, as text. -/
def Pass.leftover (p : Pass) : List Event := if p.mode.isNone && !p.rest.isEmpty then [.text p.rest] else []

/-- The events of a document. -/
def events (s : Text) : Except MarkupError (List Event) := do
  let first ← pass false none s
  let second ← pass true first.mode first.rest
  return first.events ++ second.events ++ second.leftover

end MarkupJsx.Markup
