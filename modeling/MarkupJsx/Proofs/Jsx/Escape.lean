/-
  MarkupJsx.Proofs.Jsx.Escape — escaping goes character by character.

  The four replacements run one after the other, each over what the ones before it made.
  No entity holds a character that is replaced later: all of them hold the ampersand, and
  it comes first. So the chain is one substitution (`foldl_replace_eq_flatMap`), and
  escaping a text is escaping each of its characters (`escape_eq_flatMap`). What comes out
  holds none of `<`, `>` and `"` (`not_mem_escape`), and reading the entities back gives the
  text again (`unescape_escape`).
-/

import Mathlib.Data.List.Basic
import MarkupJsx.Jsx.Escape

namespace MarkupJsx.Jsx

/-! ## One substitution -/

theorem lookup_getD_of_ne {es : List (Char × Text)} {c : Char} (h : ∀ e ∈ es, c ≠ e.1) :
    (es.lookup c).getD [c] = [c] := by
  have hnone : es.lookup c = none := by
    rw [List.lookup_eq_none_iff]
    simpa using h
  rw [hnone]
  rfl

/-- A text without the characters of the table is left alone. -/
theorem flatMap_lookup_of_not_mem {es : List (Char × Text)} {t : Text} (h : ∀ e ∈ es, e.1 ∉ t) :
    t.flatMap (fun c => (es.lookup c).getD [c]) = t := by
  have hchars : ∀ c ∈ t, (es.lookup c).getD [c] = [c] := by
    intro c hc
    apply lookup_getD_of_ne
    rintro e he rfl
    exact h e he hc
  rw [List.flatMap_congr hchars, List.flatMap_singleton']

/-- Replacements one after the other make one substitution, if nothing that is put in holds
    a character that is replaced later. -/
theorem foldl_replace_eq_flatMap {es : List (Char × Text)} (h : es.Pairwise fun e e' => e'.1 ∉ e.2) (s : Text) :
    es.foldl (fun t e => t.replace e.1 e.2) s = s.flatMap fun c => (es.lookup c).getD [c] := by
  induction h generalizing s with
  | nil => simp
  | @cons e es hlater _ ih =>
    -- what the first replacement puts in is left alone by the others
    have hkept := flatMap_lookup_of_not_mem hlater
    have hchar : ∀ c, (if c = e.1 then e.2 else [c]).flatMap (fun c => (es.lookup c).getD [c]) =
        (((e :: es).lookup c).getD [c]) := by
      intro c
      by_cases hc : c = e.1
      · subst hc
        rw [if_pos rfl, hkept, List.lookup_cons_self]
        rfl
      · have hne : (c == e.1) = false := by simpa using hc
        rw [if_neg hc, List.flatMap_singleton, List.lookup_cons, hne]
    rw [List.foldl_cons, ih, Text.replace, List.flatMap_assoc]
    simp only [hchar]

/-- With the ampersand last, an entity is taken apart. -/
example : escapes.reverse.foldl (fun t e => Text.replace t e.1 e.2) ['<'] = "&amp;lt;".toList := by decide

/-- The entity of one of the four characters; any other stands for itself. -/
def escapeChar (c : Char) : Text := (escapes.lookup c).getD [c]

theorem escape_eq_flatMap (s : Text) : escape s = s.flatMap escapeChar :=
  foldl_replace_eq_flatMap (by decide) s

@[simp] theorem escape_nil : escape [] = [] := rfl

theorem escape_cons (c : Char) (s : Text) : escape (c :: s) = escapeChar c ++ escape s := by
  rw [escape_eq_flatMap, escape_eq_flatMap, List.flatMap_cons]

theorem escape_append (s t : Text) : escape (s ++ t) = escape s ++ escape t := by
  rw [escape_eq_flatMap, escape_eq_flatMap, escape_eq_flatMap, List.flatMap_append]

theorem escapeChar_of_mem : ∀ r ∈ escapes, escapeChar r.1 = r.2 := by decide

/-- The four characters give way to their entities; another character stays. -/
theorem escapeChar_cases (c : Char) :
    (∃ e, (c, e) ∈ escapes ∧ escapeChar c = e) ∨ (c ≠ '&' ∧ c ≠ '<' ∧ c ≠ '>' ∧ c ≠ '"' ∧ escapeChar c = [c]) := by
  by_cases h : c ∈ escapes.map (·.1)
  · obtain ⟨⟨c, e⟩, he, rfl⟩ := List.mem_map.mp h
    exact Or.inl ⟨e, he, escapeChar_of_mem _ he⟩
  · have heq : escapeChar c = [c] := lookup_getD_of_ne fun e he hc => h (List.mem_map.mpr ⟨e, he, hc.symm⟩)
    simp only [escapes, List.map_cons, List.map_nil, List.mem_cons, List.not_mem_nil, or_false, not_or] at h
    exact Or.inr ⟨h.1, h.2.1, h.2.2.1, h.2.2.2, heq⟩

/-- None of the characters that are replaced, but for the ampersand, is in the entities. -/
theorem not_mem_entity : ∀ e ∈ escapes, '<' ∉ e.2 ∧ '>' ∉ e.2 ∧ '"' ∉ e.2 := by decide

theorem not_mem_escape (s : Text) : '<' ∉ escape s ∧ '>' ∉ escape s ∧ '"' ∉ escape s := by
  induction s with
  | nil => exact ⟨by simp, by simp, by simp⟩
  | cons c s ih =>
    have hc : '<' ∉ escapeChar c ∧ '>' ∉ escapeChar c ∧ '"' ∉ escapeChar c := by
      rcases escapeChar_cases c with ⟨e, he, heq⟩ | ⟨-, h2, h3, h4, heq⟩
      · rw [heq]; exact not_mem_entity _ he
      · rw [heq]; simp [Ne.symm h2, Ne.symm h3, Ne.symm h4]
    simp only [escape_cons, List.mem_append, not_or]
    exact ⟨⟨hc.1, ih.1⟩, ⟨hc.2.1, ih.2.1⟩, ⟨hc.2.2, ih.2.2⟩⟩

/-! ## Reading entities back -/

/-- The four entities read back in one pass from left to right. -/
def unescape : Text → Text
  | [] => []
  | '&' :: 'a' :: 'm' :: 'p' :: ';' :: s => '&' :: unescape s
  | '&' :: 'l' :: 't' :: ';' :: s => '<' :: unescape s
  | '&' :: 'g' :: 't' :: ';' :: s => '>' :: unescape s
  | '&' :: 'q' :: 'u' :: 'o' :: 't' :: ';' :: s => '"' :: unescape s
  | c :: s => c :: unescape s

theorem unescape_char {c : Char} (hc : c ≠ '&') (s : Text) : unescape (c :: s) = c :: unescape s := by
  simp [unescape, hc]

/-- Entities are read back whatever follows them. -/
theorem unescape_escape_append (s t : Text) : unescape (escape s ++ t) = s ++ unescape t := by
  induction s with
  | nil => rfl
  | cons c s ih =>
    rw [escape_cons, List.append_assoc]
    rcases escapeChar_cases c with ⟨e, he, heq⟩ | ⟨hc, -, -, -, heq⟩
    · rw [heq]
      simp only [escapes, List.mem_cons, List.not_mem_nil, or_false, Prod.mk.injEq] at he
      rcases he with ⟨rfl, rfl⟩ | ⟨rfl, rfl⟩ | ⟨rfl, rfl⟩ | ⟨rfl, rfl⟩ <;> exact congrArg (_ :: ·) ih
    · rw [heq, List.singleton_append, unescape_char hc, ih]
      rfl

theorem unescape_escape (s : Text) : unescape (escape s) = s := by
  have h := unescape_escape_append s []
  rwa [List.append_nil, unescape, List.append_nil] at h

theorem escape_injective {s t : Text} (h : escape s = escape t) : s = t := by
  rw [← unescape_escape s, h, unescape_escape]

end MarkupJsx.Jsx
