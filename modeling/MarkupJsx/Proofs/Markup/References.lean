/-
  MarkupJsx.Proofs.Markup.References — texts in which every ampersand is accounted for.

  `Spells free s t`: the four entities in `s` stand for their characters, all else for
  itself, and `t` is what comes of it; an ampersand may stand for itself where `free` holds
  of the text behind it. A text whose every ampersand begins an entity or is free spells
  what `Jsx.unescape` makes of it (`spells_unescape`), an escaped text spells the text
  itself (`spells_escape`), and a value is decoded to what it spells (`decodeValue_spelled`).
-/

import MarkupJsx.Markup.Entity
import MarkupJsx.Proofs.Jsx.Escape

namespace MarkupJsx.Markup

variable {free : Text → Prop} {s t : Text}

inductive Spells (free : Text → Prop) : Text → Text → Prop
  | nil : Spells free [] []
  | char {c : Char} {s t : Text} : c ≠ '&' → Spells free s t → Spells free (c :: s) (c :: t)
  | entity {c : Char} {e s t : Text} : (c, e) ∈ Jsx.escapes → Spells free s t → Spells free (e ++ s) (c :: t)
  | ampersand {s t : Text} : free s → Spells free s t → Spells free ('&' :: s) ('&' :: t)

/-- Every ampersand begins one of the four entities, or is free. -/
def Accounted (free : Text → Prop) : Text → Prop
  | [] => True
  | c :: s => (c = '&' → (∃ e ∈ Jsx.escapes, e.2 <+: c :: s) ∨ free s) ∧ Accounted free s

instance decidableAccounted [DecidablePred free] : ∀ s, Decidable (Accounted free s)
  | [] => inferInstanceAs (Decidable True)
  | c :: s =>
    have := decidableAccounted s
    inferInstanceAs (Decidable ((c = '&' → (∃ e ∈ Jsx.escapes, e.2 <+: c :: s) ∨ free s) ∧ Accounted free s))

/-- The ampersand of an entity is its first character. -/
theorem entity_eq_cons {c : Char} {e : Text} (he : (c, e) ∈ Jsx.escapes) : ∃ e', e = '&' :: e' ∧ '&' ∉ e' := by
  simp only [Jsx.escapes, List.mem_cons, List.not_mem_nil, or_false, Prod.mk.injEq] at he
  rcases he with ⟨-, rfl⟩ | ⟨-, rfl⟩ | ⟨-, rfl⟩ | ⟨-, rfl⟩ <;> exact ⟨_, rfl, by decide⟩

theorem spells_unescape (h : Accounted free s) : Spells free s (Jsx.unescape s) := by
  fun_induction Jsx.unescape s with
  | case1 => exact .nil
  | case2 s ih => exact .entity (e := ['&', 'a', 'm', 'p', ';']) (by decide) (ih h.2.2.2.2.2)
  | case3 s ih => exact .entity (e := ['&', 'l', 't', ';']) (by decide) (ih h.2.2.2.2)
  | case4 s ih => exact .entity (e := ['&', 'g', 't', ';']) (by decide) (ih h.2.2.2.2)
  | case5 s ih => exact .entity (e := ['&', 'q', 'u', 'o', 't', ';']) (by decide) (ih h.2.2.2.2.2.2)
  | case6 c s h1 h2 h3 h4 ih =>
    have hrest := ih h.2
    by_cases hc : c = '&'
    · subst hc
      rcases h.1 rfl with ⟨e, he, r, hr⟩ | hfree
      · -- an entity here would have been read
        simp only [Jsx.escapes, List.mem_cons, List.not_mem_nil, or_false] at he
        rcases he with rfl | rfl | rfl | rfl
        · exact (h1 r rfl (List.cons.inj hr).2.symm).elim
        · exact (h2 r rfl (List.cons.inj hr).2.symm).elim
        · exact (h3 r rfl (List.cons.inj hr).2.symm).elim
        · exact (h4 r rfl (List.cons.inj hr).2.symm).elim
      · exact .ampersand hfree hrest
    · exact .char hc hrest

theorem spells_escape (s : Text) : Spells free (Jsx.escape s) s := by
  induction s with
  | nil => exact .nil
  | cons c s ih =>
    rw [Jsx.escape_cons]
    rcases Jsx.escapeChar_cases c with ⟨e, he, heq⟩ | ⟨hc, -, -, -, heq⟩
    · rw [heq]; exact .entity he ih
    · rw [heq]; exact .char hc ih

theorem accounted_of_not_mem {a : Text} (ha : '&' ∉ a) (h : Accounted free s) : Accounted free (a ++ s) := by
  induction a with
  | nil => exact h
  | cons c a ih =>
    simp only [List.mem_cons, not_or] at ha
    exact ⟨fun hc => absurd hc.symm ha.1, ih ha.2⟩

theorem accounted_escape (s : Text) : Accounted free (Jsx.escape s) := by
  induction s with
  | nil => trivial
  | cons c s ih =>
    rw [Jsx.escape_cons]
    rcases Jsx.escapeChar_cases c with ⟨e, he, heq⟩ | ⟨hc, -, -, -, heq⟩
    · obtain ⟨e', rfl, hamp⟩ := entity_eq_cons he
      rw [heq]
      exact ⟨fun _ => Or.inl ⟨_, he, List.prefix_append _ _⟩, accounted_of_not_mem hamp ih⟩
    · rw [heq]
      exact ⟨fun h => absurd h hc, ih⟩

/-! ## Values -/

theorem decodeValue_char {c : Char} (hc : c ≠ '&') (s : Text) :
    Entity.decodeValue (c :: s) = (Entity.decodeValue s).map (c :: ·) := by
  rw [Entity.decodeValue, if_neg hc]

theorem named_in_values : Entity.namedInValue ['a', 'm', 'p'] true = ['&'] ∧ Entity.namedInValue ['l', 't'] true = ['<'] ∧
    Entity.namedInValue ['g', 't'] true = ['>'] ∧ Entity.namedInValue ['q', 'u', 'o', 't'] true = ['"'] := by
  decide +kernel

theorem inValue?_entity {c : Char} {e : Text} (he : (c, '&' :: e) ∈ Jsx.escapes) (s : Text) :
    Entity.inValue? (e ++ s) = .ok (some ([c], s)) := by
  obtain ⟨hamp, hlt, hgt, hquot⟩ := named_in_values
  have named : ∀ {name e : Text}, Entity.inValue? (e ++ s) = .ok (some (Entity.namedInValue name true, s)) →
      Entity.namedInValue name true = [c] → Entity.inValue? (e ++ s) = .ok (some ([c], s)) := by
    intro name e h hname
    rw [h, hname]
  simp only [Jsx.escapes, List.mem_cons, List.not_mem_nil, or_false, Prod.mk.injEq] at he
  rcases he with ⟨rfl, he⟩ | ⟨rfl, he⟩ | ⟨rfl, he⟩ | ⟨rfl, he⟩
  · obtain rfl := (List.cons.inj he).2
    exact named rfl hamp
  · obtain rfl := (List.cons.inj he).2
    exact named rfl hlt
  · obtain rfl := (List.cons.inj he).2
    exact named rfl hgt
  · obtain rfl := (List.cons.inj he).2
    exact named rfl hquot

theorem decodeValue_entity {c : Char} {e : Text} (he : (c, e) ∈ Jsx.escapes) (s : Text) :
    Entity.decodeValue (e ++ s) = (Entity.decodeValue s).map (c :: ·) := by
  obtain ⟨e, rfl, -⟩ := entity_eq_cons he
  rw [List.cons_append, Entity.decodeValue, if_pos rfl]
  split
  · rename_i h; rw [inValue?_entity he] at h; cases h
  · rename_i h; rw [inValue?_entity he] at h; cases h
  · rename_i h
    rw [inValue?_entity he] at h
    cases h
    rfl

/-- A value in which every ampersand begins an entity is decoded to what it spells. -/
theorem decodeValue_spelled (h : Spells (fun _ => False) s t) : Entity.decodeValue s = .ok t := by
  induction h with
  | nil => rw [Entity.decodeValue]
  | char hc _ ih => rw [decodeValue_char hc, ih]; rfl
  | entity he _ ih => rw [decodeValue_entity he, ih]; rfl
  | ampersand hf _ _ => exact hf.elim

end MarkupJsx.Markup
