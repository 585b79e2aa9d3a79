/-
  MarkupJsx.Proofs.Text.Runs — runs of one class of characters at the head of a text.

  Where a run stops inside the first of two texts, or between them, the second has no part
  in it.
-/

import Mathlib.Data.List.TakeWhile
import MarkupJsx.Text.Basic

namespace MarkupJsx.Text

variable {p : Char → Bool} {a b s t : Text} {x : Char}

/-- A property of all characters of a text, checked one by one. -/
theorem forall_mem_of_all {q : Char → Prop} [DecidablePred q] (h : s.all (fun c => decide (q c)) = true) :
    ∀ c ∈ s, q c := by
  simpa using h

/-- A text without a character is one run of the others. -/
theorem ne_of_not_mem (h : x ∉ s) : ∀ c ∈ s, (c != x) = true := by
  intro c hc
  simp only [bne_iff_ne, ne_eq]
  rintro rfl
  exact h hc

/-- No run of the class begins the text. -/
def Ends (p : Char → Bool) (s : Text) : Prop := ∀ c ∈ s.head?, p c = false

@[simp] theorem ends_nil : Ends p [] := by simp [Ends]

@[simp] theorem ends_cons : Ends p (x :: s) ↔ p x = false := by simp [Ends]

theorem takeWhile_of_ends (h : Ends p b) : b.takeWhile p = [] := by
  cases b with
  | nil => rfl
  | cons y b => exact List.takeWhile_cons_of_neg (by simp [ends_cons.mp h])

theorem dropWhile_of_ends (h : Ends p b) : b.dropWhile p = b := by
  cases b with
  | nil => rfl
  | cons y b => exact List.dropWhile_cons_of_neg (by simp [ends_cons.mp h])

theorem takeWhile_run (ha : ∀ c ∈ a, p c = true) (hb : Ends p b) : (a ++ b).takeWhile p = a := by
  rw [List.takeWhile_append_of_pos ha, takeWhile_of_ends hb, List.append_nil]

theorem dropWhile_run (ha : ∀ c ∈ a, p c = true) (hb : Ends p b) : (a ++ b).dropWhile p = b := by
  rw [List.dropWhile_append_of_pos ha, dropWhile_of_ends hb]

/-- Two runs of a class with something else behind each are told apart from what follows. -/
theorem append_inj_of_ends {a' b' : Text} (ha : ∀ c ∈ a, p c = true) (ha' : ∀ c ∈ a', p c = true) (hb : Ends p b)
    (hb' : Ends p b') (h : a ++ b = a' ++ b') : a = a' ∧ b = b' := by
  have htake := congrArg (List.takeWhile p) h
  have hdrop := congrArg (List.dropWhile p) h
  rw [takeWhile_run ha hb, takeWhile_run ha' hb'] at htake
  rw [dropWhile_run ha hb, dropWhile_run ha' hb'] at hdrop
  exact ⟨htake, hdrop⟩

theorem ends_dropWhile (s : Text) : Ends p (s.dropWhile p) := by
  induction s with
  | nil => simp
  | cons y s ih =>
    by_cases h : p y = true
    · rw [List.dropWhile_cons_of_pos h]; exact ih
    · rw [List.dropWhile_cons_of_neg h, ends_cons]; simpa using h

/-- More text can only prolong a run. -/
theorem takeWhile_prefix_append (p : Char → Bool) (s t : Text) : s.takeWhile p <+: (s ++ t).takeWhile p := by
  induction s with
  | nil => exact List.nil_prefix
  | cons c s ih =>
    by_cases hc : p c = true
    · simpa [hc] using ih
    · simp [hc]

/-! ## A run that stops inside the first text -/

theorem takeWhile_append_of_mem (hx : x ∈ s) (hp : p x = false) : (s ++ t).takeWhile p = s.takeWhile p := by
  induction s with
  | nil => cases hx
  | cons y s ih =>
    by_cases hy : p y = true
    · have : x ∈ s := (List.mem_cons.mp hx).resolve_left (by rintro rfl; simp [hp] at hy)
      simp [hy, ih this]
    · simp [hy]

theorem dropWhile_append_of_mem (hx : x ∈ s) (hp : p x = false) : (s ++ t).dropWhile p = s.dropWhile p ++ t := by
  induction s with
  | nil => cases hx
  | cons y s ih =>
    by_cases hy : p y = true
    · have : x ∈ s := (List.mem_cons.mp hx).resolve_left (by rintro rfl; simp [hp] at hy)
      simp [hy, ih this]
    · simp [hy]

theorem mem_dropWhile (hx : x ∈ s) (hp : p x = false) : x ∈ s.dropWhile p := by
  induction s with
  | nil => cases hx
  | cons y s ih =>
    by_cases hy : p y = true
    · rw [List.dropWhile_cons_of_pos hy]
      exact ih ((List.mem_cons.mp hx).resolve_left (by rintro rfl; simp [hp] at hy))
    · rwa [List.dropWhile_cons_of_neg hy]

end MarkupJsx.Text
