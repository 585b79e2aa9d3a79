/-
  MarkupJsx.Proofs.Text.Trim — texts without blanks at their ends.

  Trimming takes away exactly the blanks at both ends: what it leaves has none there
  (`trimmed_trim`), and a text that has none there is left alone (`Trimmed.trim_eq`). Two
  such texts next to each other are one more (`Trimmed.append`).
-/

import MarkupJsx.Proofs.Text.Runs

namespace MarkupJsx.Text

variable {s t : Text}

def Trimmed (s : Text) : Prop := Ends isBlank s ∧ Ends isBlank s.reverse

theorem Trimmed.trim_eq (h : Trimmed s) : trim s = s := by
  rw [trim, dropWhile_of_ends h.1, dropWhile_of_ends h.2, List.reverse_reverse]

theorem trimmed_nil : Trimmed [] := ⟨ends_nil, ends_nil⟩

/-- What stands at the head of a text still does once its end is cut. -/
theorem Ends.reverse_dropWhile {p : Char → Bool} (h : Ends p s) : Ends p (s.reverse.dropWhile p).reverse := by
  cases s with
  | nil => exact ends_nil
  | cons x s =>
    have hx : p x = false := ends_cons.mp h
    by_cases hall : ∀ y ∈ s.reverse, p y = true
    · rw [List.reverse_cons, dropWhile_run hall (ends_cons.mpr hx)]
      exact ends_cons.mpr hx
    · obtain ⟨y, hy, hpy⟩ : ∃ y ∈ s.reverse, p y = false := by simpa using hall
      rw [List.reverse_cons, dropWhile_append_of_mem hy hpy, List.reverse_append]
      exact ends_cons.mpr hx

theorem trimmed_trim (s : Text) : Trimmed (trim s) := by
  refine ⟨(ends_dropWhile s).reverse_dropWhile, ?_⟩
  rw [trim, List.reverse_reverse]
  exact ends_dropWhile _

theorem Ends.append {p : Char → Bool} (hs : Ends p s) (ht : Ends p t) : Ends p (s ++ t) := by
  cases s with
  | nil => exact ht
  | cons x s => exact ends_cons.mpr (ends_cons.mp hs)

theorem Trimmed.append (hs : Trimmed s) (ht : Trimmed t) : Trimmed (s ++ t) := by
  refine ⟨hs.1.append ht.1, ?_⟩
  rw [List.reverse_append]
  exact ht.2.append hs.2

/-- Nothing is left of a text of blanks only. -/
theorem trim_of_all (h : ∀ c ∈ s, isBlank c = true) : trim s = [] := by
  have hdrop := dropWhile_run h (ends_nil (p := isBlank))
  rw [List.append_nil] at hdrop
  rw [trim, hdrop]
  rfl

end MarkupJsx.Text
