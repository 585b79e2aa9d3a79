/-
  MarkupJsx.Proofs.Jsx.Writing — what the writer makes of a forest, piece by piece.

  The names that are written as one tag are void, so an element that is not void is written
  with both its tags, whatever is in it (`node_open`).
-/

import MarkupJsx.Jsx.Writer
import MarkupJsx.Markup.Growth

namespace MarkupJsx.Jsx

open Markup (Attr Node Forest)

theorem forest_append (f f' : Forest) : forest (f ++ f') = forest f ++ forest f' := by
  induction f with
  | nil => rfl
  | cons n f ih => rw [List.cons_append, forest, forest, ih, List.append_assoc]

theorem forest_singleton (n : Node) : forest [n] = node n := by
  rw [forest, forest, List.append_nil]

theorem attrName_renamed : ∀ r ∈ renames, attrName r.1 = r.2 ∧ attrName r.2 = r.2 := by decide

theorem attrName_of_not_mem {key : Text} (h : key ∉ renames.map (·.1)) : attrName key = key := by
  have hnone : renames.lookup key = none := by
    rw [List.lookup_eq_none_iff]
    intro r hr
    have hne : key ≠ r.1 := by
      rintro rfl
      exact h (List.mem_map_of_mem hr)
    simpa using hne
  rw [attrName, hnone]
  rfl

/-- A key is renamed, or keeps its name. -/
theorem attrName_cases (key : Text) : (∃ r ∈ renames, attrName key = r.2) ∨ attrName key = key := by
  by_cases h : key ∈ renames.map (·.1)
  · obtain ⟨r, hr, rfl⟩ := List.mem_map.mp h
    exact Or.inl ⟨r, hr, (attrName_renamed r hr).1⟩
  · exact Or.inr (attrName_of_not_mem h)

/-- Two keys are only written alike when one of them is renamed to the other. -/
theorem mem_renames_of_attrName_eq {k l : Text} (h : attrName k = attrName l) (hne : k ≠ l) :
    (k, l) ∈ renames ∨ (l, k) ∈ renames := by
  have hnames : ∀ r ∈ renames, ∀ r' ∈ renames, r.2 = r'.2 → r.1 = r'.1 := by decide
  by_cases hk : k ∈ renames.map (·.1)
  · obtain ⟨r, hr, rfl⟩ := List.mem_map.mp hk
    rw [(attrName_renamed r hr).1] at h
    by_cases hl : l ∈ renames.map (·.1)
    · obtain ⟨r', hr', rfl⟩ := List.mem_map.mp hl
      rw [(attrName_renamed r' hr').1] at h
      exact absurd (hnames r hr r' hr' h) hne
    · rw [attrName_of_not_mem hl] at h
      rw [← h]
      exact Or.inl hr
  · rw [attrName_of_not_mem hk] at h
    by_cases hl : l ∈ renames.map (·.1)
    · obtain ⟨r', hr', rfl⟩ := List.mem_map.mp hl
      rw [(attrName_renamed r' hr').1] at h
      rw [h]
      exact Or.inr hr'
    · rw [attrName_of_not_mem hl] at h
      exact absurd h hne

theorem void_of_jsxVoid : ∀ name ∈ voidElements, Markup.voidElements.contains name = true := by decide

/-- An element that is not void is written with both its tags. -/
theorem node_open {name : Text} {as : List Attr} {children : Forest} (h : Markup.voidElements.contains name = false) :
    node (.element name as children) =
      '<' :: name ++ attrs as ++ ['>'] ++ forest children ++ ['<', '/'] ++ name ++ ['>'] := by
  have hname : voidElements.contains name = false := by
    cases hc : voidElements.contains name with
    | false => rfl
    | true =>
      rw [void_of_jsxVoid name (List.contains_iff_mem.mp hc)] at h
      cases h
  simp only [node, hname, Bool.and_false, Bool.false_eq_true, if_false]

end MarkupJsx.Jsx
