/-
  MarkupJsx.Proofs.Markup.Rest — what is left to read is always the end of the document.

  No step puts text back or changes what is still to come: the text that it leaves is a
  suffix of the text that it found (`rest_of_step`), whether it goes on or stops. So every
  place that a reading comes to is a place in the document (`suffix_of_reaches`).
-/

import MarkupJsx.Proofs.Markup.AttributeScan
import MarkupJsx.Proofs.Markup.Reports

namespace MarkupJsx.Markup

open Text (isBlank)

def Step.rest : Step → Text
  | on _ _ s | stop _ s => s

variable {s rest : Text}

/-! ## Searches -/

theorem pastTag?_suffix (h : pastTag? s = some rest) : rest <:+ s := by
  obtain ⟨⟨t, r⟩, hcut, rfl⟩ := Option.map_eq_some_iff.mp h
  unfold Text.cutAfter? at hcut
  split at hcut
  · cases hcut
  · rename_i x tail hx
    cases hcut
    exact (List.suffix_cons _ _).trans (hx ▸ List.dropWhile_suffix _)

theorem searchAfter_suffix {at? : Text → Option Text} (hat : ∀ {s r : Text}, at? s = some r → r <:+ s)
    (h : searchAfter at? s = some rest) : rest <:+ s := by
  induction s with
  | nil => exact hat h
  | cons c tail ih =>
    simp only [searchAfter, Option.or_eq_some_iff] at h
    rcases h with h | ⟨-, h⟩
    · exact hat h
    · exact (ih h).trans (List.suffix_cons c tail)

theorem commentEnd?_suffix (h : commentEnd? s = some rest) : rest <:+ s := by
  unfold commentEnd? at h
  split at h
  · rename_i tail
    split at h
    · rename_i after hafter
      cases h
      have hdrop : '>' :: rest <:+ tail := hafter ▸ List.dropWhile_suffix _
      exact (List.suffix_cons _ _).trans (hdrop.trans ((List.suffix_cons _ _).trans (List.suffix_cons _ _)))
    · cases h
  · cases h

theorem charAt?_suffix {c : Char} (h : charAt? c s = some rest) : rest <:+ s := by
  unfold charAt? at h
  split at h
  · cases h
  · rename_i x tail
    split at h
    · cases h
      exact (List.dropWhile_suffix _).trans (List.suffix_cons x tail)
    · cases h

theorem sectionEnd?_suffix {n : Nat} (h : sectionEnd? n s = some rest) : rest <:+ s := by
  induction n generalizing s with
  | zero =>
    simp only [sectionEnd?] at h
    split at h
    · cases h; exact List.suffix_cons _ _
    · cases h
  | succ n ih =>
    simp only [sectionEnd?, Option.bind_eq_some_iff] at h
    obtain ⟨t, hchar, hend⟩ := h
    exact (ih hend).trans (charAt?_suffix hchar)

/-! ## Constructs -/

/-- What follows the construct ends the text. -/
def Construct.EndsIn (s : Text) : Construct → Prop
  | whole _ rest => rest <:+ s
  | incomplete => True

theorem hiddenUpTo_endsIn {r : Option Text} (h : ∀ rest, r = some rest → rest <:+ s) :
    (Construct.hiddenUpTo r).EndsIn s := by
  cases r with
  | none => trivial
  | some r => exact h r rfl

theorem construct_step_rest {k : Construct} (final : Bool) (h : k.EndsIn s) : (k.step final s).rest <:+ s := by
  cases k with
  | whole e rest => exact h
  | incomplete =>
    cases final with
    | false => exact List.suffix_rfl
    | true => exact List.drop_suffix _ _

theorem endTag_endsIn (inner : Text) : (endTag inner).EndsIn inner := by
  unfold endTag
  split
  · trivial
  · rename_i rest hrest
    have hsuffix := pastTag?_suffix hrest
    split
    · exact hsuffix
    · split
      · exact hsuffix
      · split <;> exact hsuffix
      · trivial

theorem markedSection_endsIn {whole inner : Text} {k : Construct} (h : markedSection whole inner = .ok k) :
    k.EndsIn inner := by
  have hsection : ∀ n, (Construct.hiddenUpTo (searchAfter (sectionEnd? n) inner)).EndsIn inner := fun n =>
    hiddenUpTo_endsIn fun r hr => searchAfter_suffix (fun h => sectionEnd?_suffix h) hr
  unfold markedSection at h
  split at h
  · cases h; trivial
  · split at h
    · dsimp only at h
      split at h
      · cases h; trivial
      · split at h
        · cases h; exact hsection 2
        · split at h
          · cases h; exact hsection 1
          · cases h
    · cases h

theorem declaration_endsIn {inner : Text} {k : Construct} (h : declaration inner = .ok k) : k.EndsIn inner := by
  unfold declaration at h
  split at h
  · cases h
    refine hiddenUpTo_endsIn fun r hr => ?_
    have hsuffix := searchAfter_suffix (fun h => commentEnd?_suffix h) hr
    exact hsuffix.trans ((List.suffix_cons _ _).trans (List.suffix_cons _ _))
  · rename_i tail
    have hsection := markedSection_endsIn h
    cases k with
    | whole e r => exact hsection.trans (List.suffix_cons _ _)
    | incomplete => trivial
  · split at h
    · cases h
      exact hiddenUpTo_endsIn fun r hr => (pastTag?_suffix hr).trans (List.drop_suffix _ _)
    · cases h
      exact hiddenUpTo_endsIn fun r hr => pastTag?_suffix hr

/-- What follows the tag, or what is no tag, ends the text. -/
def Tag.Scan.EndsIn (s : Text) : Tag.Scan → Prop
  | whole _ rest | broken _ rest => rest <:+ s
  | incomplete => True

theorem tagScan_endsIn {c : Char} {tail : Text} {k : Tag.Scan} (h : Tag.scan c tail = .ok k) : k.EndsIn tail := by
  have hstop := (Tag.attrsFrom_suffix _).trans ((Cursor.skipGap_suffix
    (Cursor.skip Tag.isNameChar ⟨c, tail⟩).before _).trans (Cursor.skip_suffix Tag.isNameChar ⟨c, tail⟩))
  unfold Tag.scan at h
  dsimp only at h hstop
  generalize Tag.attrsFrom _ = p at h hstop
  obtain ⟨written, stop⟩ := p
  dsimp only at h hstop
  have reported : ∀ {f : List Attr → Tag.Scan}, (written.mapM Tag.decodeAttr).map f = .ok k → ∃ as, f as = k := by
    intro f hf
    cases hd : written.mapM Tag.decodeAttr with
    | error e => rw [hd] at hf; cases hf
    | ok as => rw [hd] at hf; exact ⟨as, Except.ok.inj hf⟩
  split at h
  · cases h; trivial
  · rename_i after hafter
    obtain ⟨as, rfl⟩ := reported h
    exact (List.suffix_cons _ _).trans (hafter ▸ hstop)
  · rename_i after hafter
    obtain ⟨as, rfl⟩ := reported h
    exact ((List.suffix_cons _ _).trans (List.suffix_cons _ _)).trans (hafter ▸ hstop)
  · rename_i x more _ _ hafter
    split at h
    · cases h; trivial
    · obtain ⟨as, rfl⟩ := reported h
      exact hafter ▸ hstop

theorem startTagStep_rest {final : Bool} {c : Char} {tail : Text} {k : Step} (h : startTagStep final c tail = .ok k) :
    k.rest <:+ '<' :: c :: tail := by
  unfold startTagStep at h
  cases hs : Tag.scan c tail with
  | error e => rw [hs] at h; cases h
  | ok scan =>
    have hends := tagScan_endsIn hs
    have hcons : tail <:+ '<' :: c :: tail := (List.suffix_cons c tail).trans (List.suffix_cons '<' _)
    rw [hs] at h
    cases scan with
    | whole t rest => cases h; exact List.IsSuffix.trans hends hcons
    | broken source rest => cases h; exact List.IsSuffix.trans hends hcons
    | incomplete => cases h; exact construct_step_rest (k := .incomplete) final trivial

theorem openStep_rest {final : Bool} {tail : Text} {k : Step} (h : openStep final tail = .ok k) :
    k.rest <:+ '<' :: tail := by
  have within : ∀ {x : Char} {inner : Text} {c : Construct}, c.EndsIn inner → c.EndsIn ('<' :: x :: inner) := by
    intro x inner c hc
    cases c with
    | whole e r => exact hc.trans ((List.suffix_cons x inner).trans (List.suffix_cons '<' _))
    | incomplete => trivial
  unfold openStep at h
  split at h
  · cases h; exact List.suffix_rfl
  · cases h; exact construct_step_rest final (within (endTag_endsIn _))
  · rename_i inner
    cases hd : declaration inner with
    | error e => rw [hd] at h; cases h
    | ok d => rw [hd] at h; cases h; exact construct_step_rest final (within (declaration_endsIn hd))
  · cases h
    exact construct_step_rest final (within (hiddenUpTo_endsIn fun r hr => pastTag?_suffix hr))
  · split at h
    · exact startTagStep_rest h
    · cases h; exact List.suffix_cons _ _

/-! ## References and raw text -/

theorem dropSemicolon_suffix (s : Text) : Entity.dropSemicolon s <:+ s := by
  unfold Entity.dropSemicolon
  split
  · exact List.suffix_cons _ _
  · exact List.suffix_rfl

theorem nameInText?_suffix {name : Text} (h : Entity.nameInText? s = some (name, rest)) : rest <:+ s := by
  unfold Entity.nameInText? at h
  split at h
  · cases h
  · split at h
    · split at h
      · rename_i d more hd
        cases h
        exact hd ▸ List.dropWhile_suffix _
      · split at h
        · cases h
        · cases h; exact List.drop_suffix _ _
    · cases h

theorem numeric_scan?_suffix {r : Entity.Numeric} (h : Entity.Numeric.scan? s = some (r, rest)) : rest <:+ s := by
  unfold Entity.Numeric.scan? at h
  split at h
  · cases h
  · rename_i c tail
    split at h
    · split at h
      · cases h
      · cases h
        exact (List.dropWhile_suffix _).trans (List.suffix_cons c tail)
    · split at h
      · cases h; exact List.dropWhile_suffix _
      · cases h

theorem numericInText?_suffix {r : Entity.Numeric} (h : Entity.numericInText? s = some (r, rest)) : rest <:+ s := by
  unfold Entity.numericInText? at h
  split at h
  · rename_i hscan
    split at h
    · cases h
    · cases h; exact numeric_scan?_suffix hscan
  · cases h

theorem referenceStep_rest {final : Bool} {tail : Text} {k : Step} (h : referenceStep final tail = .ok k) :
    k.rest <:+ '&' :: tail := by
  unfold referenceStep at h
  split at h
  · rename_i number
    have hnumber : number <:+ '&' :: '#' :: number := (List.suffix_cons '#' number).trans (List.suffix_cons '&' _)
    split at h
    · rename_i r after hafter
      cases hc : r.code with
      | error e => rw [hc] at h; cases h
      | ok n =>
        rw [hc] at h
        cases h
        exact (dropSemicolon_suffix after).trans ((numericInText?_suffix hafter).trans hnumber)
    · split at h
      · cases h; exact hnumber
      · cases h; exact List.suffix_rfl
  · cases h; exact List.suffix_rfl
  · rename_i c more _
    have hmore : c :: more <:+ '&' :: c :: more := List.suffix_cons '&' _
    split at h
    · split at h
      · rename_i name after hafter
        cases h
        exact (dropSemicolon_suffix after).trans ((nameInText?_suffix hafter).trans hmore)
      · split at h
        · cases h; exact hmore
        · cases h; exact List.suffix_rfl
    · cases h; exact hmore

theorem spelling?_suffix {name w : Text} (h : RawElement.spelling? name s = some (w, rest)) : rest <:+ s := by
  induction name generalizing s w with
  | nil => cases h; exact List.suffix_rfl
  | cons l name ih =>
    cases s with
    | nil => cases h
    | cons x s =>
      simp only [RawElement.spelling?] at h
      split at h
      · obtain ⟨⟨w', r⟩, hrest, heq⟩ := Option.map_eq_some_iff.mp h
        cases heq
        exact (ih hrest).trans (List.suffix_cons x s)
      · cases h

theorem closer?_suffix {e : RawElement} {tag : Text} {plain : Bool} (h : e.closer? s = some (tag, plain, rest)) :
    rest <:+ s := by
  unfold RawElement.closer? at h
  split at h
  · rename_i tail
    split at h
    · cases h
    · rename_i w more hw
      split at h
      · rename_i after hafter
        cases h
        have hmore : more <:+ tail := (spelling?_suffix hw).trans (List.dropWhile_suffix _)
        have hend : '>' :: rest <:+ more := hafter ▸ List.dropWhile_suffix _
        exact (List.suffix_cons _ _).trans (hend.trans (hmore.trans ((List.suffix_cons _ _).trans (List.suffix_cons _ _))))
      · cases h
  · cases h

theorem rawStep_rest (e : RawElement) (s : Text) : (rawStep e s).rest <:+ s := by
  unfold rawStep
  split
  · rename_i hcloser
    split
    · exact closer?_suffix hcloser
    · exact closer?_suffix hcloser
  · split
    · exact List.drop_suffix _ _
    · exact List.suffix_rfl

/-! ## Steps -/

theorem rest_of_step {final : Bool} {mode : Option RawElement} {c : Char} {tail : Text} {k : Step}
    (h : step final mode c tail = .ok k) : k.rest <:+ c :: tail := by
  unfold step at h
  split at h
  · cases h; exact rawStep_rest _ _
  · split at h
    · rename_i hc; subst hc; exact openStep_rest h
    · split at h
      · rename_i hc; subst hc; exact referenceStep_rest h
      · cases h
        exact (List.dropWhile_suffix _).trans (List.suffix_cons c tail)

/-- A reading only ever comes to places in the document. -/
theorem suffix_of_reaches {final : Bool} {mode : Option RawElement} (h : Reaches s final mode rest) : rest <:+ s := by
  induction h with
  | start => exact List.suffix_rfl
  | on _ hstep ih => exact (rest_of_step hstep).trans ih
  | again _ hstep ih => exact (rest_of_step hstep).trans ih

end MarkupJsx.Markup
