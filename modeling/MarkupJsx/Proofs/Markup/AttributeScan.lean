/-
  MarkupJsx.Proofs.Markup.AttributeScan — the two ways of reading the attributes of a tag.

  `attrsFrom` goes from one attribute to the next and skips the gap between them; it reads
  on in the document. `keysFrom` tries every place of the tag's own text. They find the
  same names:
  - `attr?_extend`: text behind a tag does not change an attribute that ends within the
    tag. Only a quote could look further, and a quote that is closed behind the tag would
    have carried the tag with it.
  - `keysFrom_eq_found`: each name is found in a place of the text (`foundFrom`).
  - `keysFrom_skipGap`: no place of a gap begins an attribute.
  - `keysFrom_eq_attrsFrom`: so both find the same names up to the end of the tag.
  - `keysFrom_inOrder`: each name is a piece of the text, in the order of the text.
  - `isKey_of_declaredNames`: no name holds a character that would have ended it.
-/

import MarkupJsx.Markup.Pass
import MarkupJsx.Proofs.Text.Runs

namespace MarkupJsx.Markup

open Text (isBlank isLetter)

/-- The words are pieces of the text, in their order and apart from each other. -/
inductive InOrder : List Text → Text → Prop
  | nil (s : Text) : InOrder [] s
  | cons {w : Text} {ws : List Text} {rest : Text} (gap : Text) : InOrder ws rest → InOrder (w :: ws) (gap ++ w ++ rest)

theorem InOrder.append_left {ws : List Text} {s : Text} (u : Text) (h : InOrder ws s) : InOrder ws (u ++ s) := by
  cases h with
  | nil => exact .nil _
  | cons gap h => rw [List.append_assoc, ← List.append_assoc]; exact List.append_assoc .. ▸ .cons (u ++ gap) h

theorem InOrder.of_suffix {ws : List Text} {s t : Text} (h : InOrder ws s) (hs : s <:+ t) : InOrder ws t := by
  obtain ⟨u, rfl⟩ := hs
  exact h.append_left u

namespace Cursor

variable {p : Char → Bool} {c : Cursor} {t : Text} {x : Char}

/-- The same place, with more text behind. -/
def extend (c : Cursor) (t : Text) : Cursor := ⟨c.before, c.rest ++ t⟩

@[simp] theorem extend_before (c : Cursor) (t : Text) : (c.extend t).before = c.before := rfl
@[simp] theorem extend_rest (c : Cursor) (t : Text) : (c.extend t).rest = c.rest ++ t := rfl
@[simp] theorem skip_rest (p : Char → Bool) (c : Cursor) : (c.skip p).rest = c.rest.dropWhile p := rfl

theorem skip_suffix (p : Char → Bool) (c : Cursor) : (c.skip p).rest <:+ c.rest := List.dropWhile_suffix p

theorem skip_extend (hx : x ∈ c.rest) (hp : p x = false) : (c.extend t).skip p = (c.skip p).extend t := by
  simp only [skip, extend, Text.takeWhile_append_of_mem hx hp, Text.dropWhile_append_of_mem hx hp]

theorem skipGap_suffix (b : Char) (s : Text) : (skipGap b s).rest <:+ s := by
  induction s generalizing b with
  | nil => exact List.suffix_rfl
  | cons y s ih =>
    rw [skipGap]
    split
    · exact (ih y).trans (List.suffix_cons y s)
    · exact List.suffix_rfl

/-- The end of the tag stops a gap. -/
theorem skipGap_extend {b : Char} {s t : Text} (hgt : '>' ∈ s) : skipGap b (s ++ t) = (skipGap b s).extend t := by
  induction s generalizing b with
  | nil => cases hgt
  | cons y s ih =>
    by_cases hy : y = '>'
    · subst hy; rfl
    · have hs : '>' ∈ s := (List.mem_cons.mp hgt).resolve_left (Ne.symm hy)
      have hhead : (s ++ t).head? = s.head? := by
        cases s with
        | nil => cases hs
        | cons z s => rfl
      rw [List.cons_append, skipGap, skipGap, hhead]
      split
      · exact ih hs
      · rfl

end Cursor

namespace Tag

variable {c c' : Cursor} {a : Attr} {t v : Text}

/-! ## What is read is a piece of the text -/

theorem value?_suffix (h : value? c = some (v, c')) : c'.rest <:+ c.rest := by
  have h1 : ((c.skip isBlank).skip (· == '=')).rest <:+ c.rest :=
    (Cursor.skip_suffix _ _).trans (Cursor.skip_suffix _ _)
  have h2 : (((c.skip isBlank).skip (· == '=')).skip isBlank).rest <:+ c.rest := (Cursor.skip_suffix _ _).trans h1
  have h3 : ((((c.skip isBlank).skip (· == '=')).skip isBlank).skip isBareChar).rest <:+ c.rest :=
    (Cursor.skip_suffix _ _).trans h2
  unfold value? at h
  dsimp only at h
  split at h
  · cases h
  · split at h
    · cases h; exact h3
    · next q tail hq =>
      split at h
      · cases h; exact h3
      · rw [hq] at h2
        split at h
        · next close after ha =>
          cases h
          have : after <:+ tail.dropWhile (· != q) := ha ▸ List.suffix_cons close after
          exact (this.trans (List.dropWhile_suffix _)).trans ((List.suffix_cons q tail).trans h2)
        · split at h
          · next blank hb =>
            cases h
            -- the last blank of the gap is given back
            obtain ⟨l, hl⟩ := List.getLast?_eq_some_iff.mp hb
            have hgap := List.takeWhile_append_dropWhile (p := isBlank) (l := ((c.skip isBlank).skip (· == '=')).rest)
            rw [hl, List.append_assoc] at hgap
            exact List.IsSuffix.trans ⟨l, by simpa using hgap⟩ h1
          · split at h
            · cases h
            · cases h; exact h3

theorem attr?_suffix (h : attr? c = some (a, c')) : ∃ mid, c.rest = a.key ++ mid ++ c'.rest := by
  unfold attr? at h
  split at h
  · cases h
  · next x tail hx =>
    have hkey : x :: tail = (x :: tail.takeWhile isKeyChar) ++ tail.dropWhile isKeyChar := by simp
    split at h
    · dsimp only at h
      split at h
      · next v after hv =>
        cases h
        obtain ⟨mid, hmid⟩ := value?_suffix hv
        exact ⟨mid, by rw [hx, hkey, List.append_assoc, hmid]; rfl⟩
      · cases h
        exact ⟨[], by rw [hx, List.append_nil]; exact hkey⟩
    · cases h

theorem attr?_rest_suffix (h : attr? c = some (a, c')) : c'.rest <:+ c.rest := by
  obtain ⟨mid, hmid⟩ := attr?_suffix h
  exact ⟨a.key ++ mid, hmid.symm⟩

theorem attrsFrom_suffix (c : Cursor) : (attrsFrom c).2.rest <:+ c.rest := by
  fun_induction attrsFrom c with
  | case1 => exact List.suffix_rfl
  | case2 c a behind h hlt more ih => exact (ih.trans (Cursor.skipGap_suffix ..)).trans (attr?_rest_suffix h)

/-! ## Text behind the tag -/

/-- A quote that nothing closes in the tag is not closed behind it, if no value ends there. -/
theorem unclosed_of_not_mem {q : Char} {tail : Text} (hq : q ∉ tail)
    (hin : ∀ close after, (tail ++ t).dropWhile (· != q) = close :: after → t.length < after.length) :
    tail.dropWhile (· != q) = [] ∧ (tail ++ t).dropWhile (· != q) = [] := by
  have hall := Text.ne_of_not_mem hq
  have hnone : tail.dropWhile (· != q) = [] := by
    simpa using Text.dropWhile_run (b := []) hall Text.ends_nil
  refine ⟨hnone, ?_⟩
  cases hclose : (tail ++ t).dropWhile (· != q) with
  | nil => rfl
  | cons close after =>
    have h1 := hin close after hclose
    have h2 := Entity.length_dropWhile_le (· != q) t
    rw [List.dropWhile_append_of_pos hall] at hclose
    rw [hclose, List.length_cons] at h2
    omega

/-- A value that is read within the tag is read so whatever follows the tag. -/
theorem value?_extend (hgt : '>' ∈ c.rest)
    (hin : ∀ v c', value? (c.extend t) = some (v, c') → t.length < c'.rest.length) :
    value? (c.extend t) = (value? c).map (Prod.map id (·.extend t)) := by
  have e1 : (c.extend t).skip isBlank = (c.skip isBlank).extend t := Cursor.skip_extend hgt rfl
  have g1 : '>' ∈ (c.skip isBlank).rest := Text.mem_dropWhile hgt rfl
  have e2 : ((c.skip isBlank).extend t).skip (· == '=') = ((c.skip isBlank).skip (· == '=')).extend t :=
    Cursor.skip_extend g1 rfl
  have g2 : '>' ∈ ((c.skip isBlank).skip (· == '=')).rest := Text.mem_dropWhile g1 rfl
  have e3 : (((c.skip isBlank).skip (· == '=')).extend t).skip isBlank =
      (((c.skip isBlank).skip (· == '=')).skip isBlank).extend t := Cursor.skip_extend g2 rfl
  have g3 : '>' ∈ (((c.skip isBlank).skip (· == '=')).skip isBlank).rest := Text.mem_dropWhile g2 rfl
  have hbare : bareValue ((((c.skip isBlank).skip (· == '=')).skip isBlank).extend t) =
      (bareValue (((c.skip isBlank).skip (· == '=')).skip isBlank)).map id (·.extend t) := by
    simp only [bareValue, Cursor.skip_extend g3 (p := isBareChar) rfl, Cursor.extend_rest,
      Text.takeWhile_append_of_mem g3 (p := isBareChar) rfl, Prod.map_apply, id_eq]
  unfold value? at hin ⊢
  dsimp only at hin ⊢
  simp only [e1, e2, e3, Cursor.extend_rest, Text.takeWhile_append_of_mem g1 (p := (· == '=')) rfl,
    Text.takeWhile_append_of_mem g2 (p := isBlank) rfl] at hin ⊢
  split
  · rfl
  · next hsigns =>
    rw [if_neg hsigns] at hin
    cases hrest : (((c.skip isBlank).skip (· == '=')).skip isBlank).rest with
    | nil => rw [hrest] at g3; cases g3
    | cons q tail =>
      simp only [hrest, List.cons_append] at hin ⊢
      split
      · rw [hbare]; rfl
      · next hquote =>
        rw [if_neg hquote] at hin
        by_cases hq : q ∈ tail
        · rw [Text.dropWhile_append_of_mem hq (by simp), Text.takeWhile_append_of_mem hq (by simp)]
          cases hclose : tail.dropWhile (· != q) with
          | nil => exact absurd (Text.mem_dropWhile hq (p := (· != q)) (by simp)) (by simp [hclose])
          | cons close after => rfl
        · obtain ⟨hnone, hnone'⟩ := unclosed_of_not_mem (t := t) hq fun close after hclose => by
            rw [hclose] at hin
            exact hin _ _ rfl
          rw [hnone, hnone']
          dsimp only
          split
          · rfl
          · split
            · rfl
            · rw [hbare]; rfl

theorem attr?_extend (hgt : '>' ∈ c.rest)
    (hin : ∀ a c', attr? (c.extend t) = some (a, c') → t.length < c'.rest.length) :
    attr? (c.extend t) = (attr? c).map (Prod.map id (·.extend t)) := by
  cases hrest : c.rest with
  | nil => rw [hrest] at hgt; cases hgt
  | cons x tail =>
    have hx : (c.extend t).rest = x :: (tail ++ t) := by simp [hrest]
    unfold attr? at hin ⊢
    simp only [hx, hrest, Cursor.extend_before] at hin ⊢
    by_cases hopen : (opensAttr c.before && startsKey x) = true
    · simp only [hopen, if_true] at hin ⊢
      have hne : x ≠ '>' := by rintro rfl; simp [startsKey] at hopen
      have htail : '>' ∈ tail := by
        rw [hrest] at hgt; exact (List.mem_cons.mp hgt).resolve_left (Ne.symm hne)
      have e : Cursor.skip isKeyChar ⟨x, tail ++ t⟩ = (Cursor.skip isKeyChar ⟨x, tail⟩).extend t :=
        Cursor.skip_extend (c := ⟨x, tail⟩) htail rfl
      have g : '>' ∈ (Cursor.skip isKeyChar ⟨x, tail⟩).rest := Text.mem_dropWhile htail rfl
      simp only [e, Text.takeWhile_append_of_mem htail (p := isKeyChar) rfl] at hin ⊢
      have hv := value?_extend (t := t) g fun v c' h => by
        rw [h] at hin; exact hin _ _ rfl
      rw [hv]
      cases value? (Cursor.skip isKeyChar ⟨x, tail⟩) with
      | none => rfl
      | some r => rfl
    · simp only [hopen, Bool.false_eq_true, if_false]; rfl

/-! ## The same names -/

theorem attr?_none_of_not_startsKey {x : Char} {tail : Text} (hr : c.rest = x :: tail) (hx : startsKey x = false) :
    attr? c = none := by
  unfold attr?
  simp [hr, hx]

/-- The names found from a place on, each with all that follows it in the tag. -/
def foundFrom (c : Cursor) : List (Text × Text) :=
  match hr : c.rest with
  | [] => []
  | x :: tail =>
    match h : attr? c with
    | some (a, behind) =>
      have := length_of_attr? h
      (a.key, c.rest.drop a.key.length) :: foundFrom behind
    | none =>
      have : tail.length < c.rest.length := by simp [hr]
      foundFrom ⟨x, tail⟩
termination_by c.rest.length

theorem foundFrom_nil (hr : c.rest = []) : foundFrom c = [] := by
  rw [foundFrom]
  split
  · rfl
  · next h => rw [hr] at h; cases h

theorem foundFrom_some (h : attr? c = some (a, c')) :
    foundFrom c = (a.key, c.rest.drop a.key.length) :: foundFrom c' := by
  rw [foundFrom]
  split
  · next hr => simp [attr?, hr] at h
  · split
    · next a2 c2 h2 => rw [h] at h2; cases h2; rfl
    · next h2 => rw [h] at h2; cases h2

theorem foundFrom_none {x : Char} {tail : Text} (hr : c.rest = x :: tail) (h : attr? c = none) :
    foundFrom c = foundFrom ⟨x, tail⟩ := by
  rw [foundFrom]
  split
  · next hnil => rw [hr] at hnil; cases hnil
  · next y more hcons =>
    obtain ⟨rfl, rfl⟩ := List.cons.inj (hr.symm.trans hcons)
    split
    · next hsome => rw [h] at hsome; cases hsome
    · rfl

theorem foundFrom_skip {x : Char} {tail : Text} (hr : c.rest = x :: tail) (hx : startsKey x = false) :
    foundFrom c = foundFrom ⟨x, tail⟩ :=
  foundFrom_none hr (attr?_none_of_not_startsKey hr hx)

theorem keysFrom_eq_found (c : Cursor) : keysFrom c = (foundFrom c).map (·.1) := by
  fun_induction keysFrom c with
  | case1 c hr => rw [foundFrom_nil hr]; rfl
  | case2 c x tail hr a behind h _ ih => rw [foundFrom_some h, List.map_cons, ih]
  | case3 c x tail hr h _ ih => rw [foundFrom_none hr h, ih]

theorem keysFrom_skip {x : Char} {tail : Text} (hr : c.rest = x :: tail) (hx : startsKey x = false) :
    keysFrom c = keysFrom ⟨x, tail⟩ := by
  rw [keysFrom_eq_found, foundFrom_skip hr hx, ← keysFrom_eq_found]

theorem keysFrom_some (h : attr? c = some (a, c')) : keysFrom c = a.key :: keysFrom c' := by
  rw [keysFrom_eq_found, foundFrom_some h, List.map_cons, ← keysFrom_eq_found]

/-- No place of a gap begins an attribute. -/
theorem keysFrom_skipGap (b : Char) (s : Text) : keysFrom (Cursor.skipGap b s) = keysFrom ⟨b, s⟩ := by
  induction s generalizing b with
  | nil => rfl
  | cons y s ih =>
    rw [Cursor.skipGap]
    split
    · next hgap =>
      have : startsKey y = false := by
        simp only [Bool.or_eq_true, Bool.and_eq_true, beq_iff_eq] at hgap
        rcases hgap with h | h
        · simp [startsKey, h]
        · simp [startsKey, h.1]
      rw [ih, keysFrom_skip (c := ⟨b, y :: s⟩) rfl this]
    · rfl

/-- The end of a start tag, plain or self-closing. -/
def isTagEnd (s : Text) : Prop := s = ['>'] ∨ s = ['/', '>']

theorem keysFrom_of_isTagEnd (h : isTagEnd c.rest) : keysFrom c = [] := by
  have hnil : ∀ b, keysFrom ⟨b, []⟩ = [] := fun b => by rw [keysFrom]
  rcases h with h | h
  · rw [keysFrom_skip h rfl, hnil]
  · rw [keysFrom_skip h rfl, keysFrom_skip (c := ⟨'/', ['>']⟩) rfl rfl, hnil]

theorem mem_of_isTagEnd_suffix {e s : Text} (he : isTagEnd e) (hs : e <:+ s) : '>' ∈ s := by
  refine hs.subset ?_
  rcases he with rfl | rfl <;> simp

/-- Where the attributes of a document's tag end with the tag, the names found in the
    tag's own text are the same. -/
theorem keysFrom_eq_attrsFrom {e : Text} (he : isTagEnd e) (hstop : (attrsFrom (c.extend t)).2.rest = e ++ t) :
    keysFrom c = (attrsFrom (c.extend t)).1.map (·.key) := by
  generalize hfull : c.extend t = full at hstop ⊢
  fun_induction attrsFrom full generalizing c with
  | case1 full h =>
    subst hfull
    have : c.rest = e := List.append_cancel_right hstop
    exact keysFrom_of_isTagEnd (this ▸ he)
  | case2 full a behind h hlt more =>
    rename_i ih
    subst hfull
    -- the end of the tag still lies ahead of the attribute's own end
    have hend : e ++ t <:+ behind.rest := by
      rw [← hstop]; exact (attrsFrom_suffix _).trans (Cursor.skipGap_suffix ..)
    have hlen : t.length < behind.rest.length := by
      have h1 := hend.length_le
      have h2 : 0 < e.length := by rcases he with rfl | rfl <;> simp
      rw [List.length_append] at h1; omega
    have hgt : '>' ∈ c.rest := by
      have : e ++ t <:+ c.rest ++ t := hend.trans (attr?_rest_suffix h)
      exact mem_of_isTagEnd_suffix he (List.suffix_append_self_iff.mp this)
    have hsame := attr?_extend hgt fun a' c' h' => by rw [h] at h'; cases h'; exact hlen
    rw [h] at hsame
    cases hshort : attr? c with
    | none => rw [hshort] at hsame; cases hsame
    | some r =>
      obtain ⟨a', within⟩ := r
      rw [hshort] at hsame
      simp only [Option.map_some, Prod.map_apply, id_eq, Option.some.injEq, Prod.mk.injEq] at hsame
      obtain ⟨rfl, rfl⟩ := hsame
      have hgt' : '>' ∈ within.rest := mem_of_isTagEnd_suffix he (List.suffix_append_self_iff.mp hend)
      have hgap : Cursor.skipGap within.before (within.rest ++ t) =
          (Cursor.skipGap within.before within.rest).extend t := Cursor.skipGap_extend hgt'
      rw [keysFrom_some hshort, List.map_cons, ← keysFrom_skipGap]
      exact congrArg _ (ih hgap.symm hstop)

/-- The names found are pieces of the text, in its order. -/
theorem keysFrom_inOrder (c : Cursor) : InOrder (keysFrom c) c.rest := by
  fun_induction keysFrom c with
  | case1 c h => exact .nil _
  | case2 c x tail hr a behind h hlt ih =>
    obtain ⟨mid, hmid⟩ := attr?_suffix h
    rw [hmid, List.append_assoc]
    exact InOrder.cons [] (ih.append_left mid)
  | case3 c x tail hr h hlt ih =>
    rw [hr]
    exact ih.of_suffix (List.suffix_cons x tail)

end Tag

/-- How a tag that is written ends. -/
def tagEnd (selfClosing : Bool) : Text := if selfClosing then [' ', '/', '>'] else ['>']

/-! ## Keys -/

/-- The first character may start a name of an attribute, the others may stand in it. -/
def IsKey (k : Text) : Prop := ∃ x tail, k = x :: tail ∧ Tag.startsKey x = true ∧ ∀ y ∈ tail, Tag.isKeyChar y = true

theorem isKey_of_attr? {c c' : Cursor} {a : Attr} (h : Tag.attr? c = some (a, c')) : IsKey a.key := by
  unfold Tag.attr? at h
  split at h
  · cases h
  · rename_i x tail _
    split at h
    · rename_i hx
      simp only [Bool.and_eq_true] at hx
      have hkey : IsKey (x :: tail.takeWhile Tag.isKeyChar) :=
        ⟨x, _, rfl, hx.2, fun _ => List.mem_takeWhile_imp⟩
      dsimp only at h
      split at h <;> (cases h; exact hkey)
    · cases h

theorem isKey_of_keysFrom (c : Cursor) : ∀ k ∈ Tag.keysFrom c, IsKey k := by
  fun_induction Tag.keysFrom c with
  | case1 => intro k hk; cases hk
  | case2 c x tail hr a behind h hlt ih =>
    intro k hk
    rcases List.mem_cons.mp hk with rfl | hk
    · exact isKey_of_attr? h
    · exact ih k hk
  | case3 c x tail hr h hlt ih => exact ih

theorem isKey_of_declaredNames {tag : Text} : ∀ k ∈ Tag.declaredNames tag, IsKey k := by
  unfold Tag.declaredNames
  split
  · split
    · exact isKey_of_keysFrom _
    · intro k hk; cases hk
  · intro k hk; cases hk

end MarkupJsx.Markup
