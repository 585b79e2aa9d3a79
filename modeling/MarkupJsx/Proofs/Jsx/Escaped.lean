/-
  MarkupJsx.Proofs.Jsx.Escaped — the texts that come of escaping.

  An escaped text holds none of `<`, `>` and `"`, and each of its ampersands begins one of
  the four entities. Escaping makes such texts only, and each of them from one text alone,
  which is read back in one pass (`escape_unescape_iff`). So a text that looks escaped is
  nothing special: it is escaped once more, and reading it back once gives it again
  (`escape_one_to_one`).
-/

import MarkupJsx.Proofs.Markup.References

namespace MarkupJsx.Jsx

open Markup (Accounted Spells)

structure IsEscaped (t : Text) : Prop where
  marks : '<' ∉ t ∧ '>' ∉ t ∧ '"' ∉ t
  /-- At every ampersand stands an entity. -/
  ampersands : ∀ rest, '&' :: rest <:+ t → ∃ e ∈ ["&amp;", "&lt;", "&gt;", "&quot;"], e.toList <+: '&' :: rest

theorem exists_entity_iff {t : Text} :
    (∃ e ∈ ["&amp;", "&lt;", "&gt;", "&quot;"], e.toList <+: t) ↔ ∃ e ∈ escapes, e.2 <+: t := by
  simp [escapes]

/-- What is accounted for from left to right is accounted for at every place. -/
theorem accounted_iff {t : Text} :
    Accounted (fun _ => False) t ↔ ∀ rest, '&' :: rest <:+ t → ∃ e ∈ escapes, e.2 <+: '&' :: rest := by
  induction t with
  | nil =>
    constructor
    · intro _ rest h
      cases List.suffix_nil.mp h
    · intro _
      trivial
  | cons c t ih =>
    rw [Accounted, ih]
    constructor
    · rintro ⟨hhead, htail⟩ rest h
      rcases List.suffix_cons_iff.mp h with heq | h
      · obtain ⟨rfl, rfl⟩ := List.cons.inj heq
        exact (hhead rfl).resolve_right id
      · exact htail rest h
    · intro h
      refine ⟨?_, fun rest hrest => h rest (hrest.trans (List.suffix_cons c t))⟩
      rintro rfl
      exact Or.inl (h t List.suffix_rfl)

theorem isEscaped_iff {t : Text} :
    IsEscaped t ↔ ('<' ∉ t ∧ '>' ∉ t ∧ '"' ∉ t) ∧ Accounted (fun _ => False) t := by
  constructor
  · rintro ⟨hmarks, hamp⟩
    exact ⟨hmarks, accounted_iff.mpr fun rest h => exists_entity_iff.mp (hamp rest h)⟩
  · rintro ⟨hmarks, hacc⟩
    exact ⟨hmarks, fun rest h => exists_entity_iff.mpr (accounted_iff.mp hacc rest h)⟩

theorem isEscaped_escape (s : Text) : IsEscaped (escape s) :=
  isEscaped_iff.mpr ⟨not_mem_escape s, Markup.accounted_escape s⟩

/-- Where every ampersand belongs to an entity, escaping what is spelled gives its spelling. -/
theorem escape_of_spells {s t : Text} (h : Spells (fun _ => False) s t) (hmarks : '<' ∉ s ∧ '>' ∉ s ∧ '"' ∉ s) :
    escape t = s := by
  induction h with
  | nil => rfl
  | @char c s t hc _ ih =>
    simp only [List.mem_cons, not_or] at hmarks
    obtain ⟨⟨hlt, hlt'⟩, ⟨hgt, hgt'⟩, hquot, hquot'⟩ := hmarks
    rcases escapeChar_cases c with ⟨e, he, -⟩ | ⟨-, -, -, -, heq⟩
    · simp [escapes, hc, Ne.symm hlt, Ne.symm hgt, Ne.symm hquot] at he
    · rw [escape_cons, heq, ih ⟨hlt', hgt', hquot'⟩]
      rfl
  | @entity c e s t he _ ih =>
    simp only [List.mem_append, not_or] at hmarks
    rw [escape_cons, escapeChar_of_mem _ he, ih ⟨hmarks.1.2, hmarks.2.1.2, hmarks.2.2.2⟩]
  | ampersand hfree _ _ => exact hfree.elim

/-- The escaped texts are those that reading back and escaping again leave as they are. -/
theorem escape_unescape_iff {t : Text} : escape (unescape t) = t ↔ IsEscaped t := by
  constructor
  · intro h
    rw [← h]
    exact isEscaped_escape (unescape t)
  · intro h
    obtain ⟨hmarks, hacc⟩ := isEscaped_iff.mp h
    exact escape_of_spells (Markup.spells_unescape hacc) hmarks

/-- Escaping puts an entity in the place of each of four characters and leaves the others.
    It makes escaped texts, all of them, and each from one text alone: the one that a single
    pass over its entities reads back. -/
theorem escape_one_to_one (s t : Text) :
    escape s = (s.flatMap fun
      | '&' => "&amp;".toList
      | '<' => "&lt;".toList
      | '>' => "&gt;".toList
      | '"' => "&quot;".toList
      | c => [c]) ∧
    escape (s ++ t) = escape s ++ escape t ∧ IsEscaped (escape s) ∧ unescape (escape s) = s ∧
    (escape s = escape t ↔ s = t) ∧ (escape (unescape t) = t ↔ IsEscaped t) := by
  refine ⟨?_, escape_append s t, isEscaped_escape s, unescape_escape s, ⟨escape_injective, congrArg escape⟩,
    escape_unescape_iff⟩
  rw [escape_eq_flatMap]
  congr 1
  funext c
  split
  · rfl
  · rfl
  · rfl
  · rfl
  · rename_i h1 h2 h3 h4
    exact lookup_getD_of_ne (by simpa [escapes] using ⟨h1, h2, h3, h4⟩)

end MarkupJsx.Jsx
