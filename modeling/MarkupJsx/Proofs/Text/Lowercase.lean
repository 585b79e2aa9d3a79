/-
  MarkupJsx.Proofs.Text.Lowercase — lowering a text makes letters only.

  A character below the letters is in the lower case of a text only if it is in the text
  (`mem_of_mem_lower`): no rule of the case table leads down there, and every code point
  that a rule leads to is a character. ASCII without capitals stays (`lower_ascii`), and what
  begins with a letter begins with a small one in lower case (`lower_of_isLetter`).
-/

import MarkupJsx.Text.Lowercase

namespace MarkupJsx.Text

theorem toNat_ofNat {n : Nat} (h : n.isValidChar) : (Char.ofNat n).toNat = n := by
  rw [Char.ofNat, dif_pos h]
  rfl

namespace CaseTable

/-- Where a run leads to: letters, all of them characters. -/
def Run.leadsToLetters (r : Run) : Bool :=
  0x41 ≤ r.lower && (r.lower + (r.last - r.first) < 0xD800 ||
    (0xDFFF < r.lower && r.lower + (r.last - r.first) < 0x110000))

theorem runs_leadToLetters : runs.all Run.leadsToLetters = true := by decide +kernel

theorem le_toNat_of_covers {r : Run} {n : Nat} (hr : r ∈ runs) (hn : r.covers n = true) :
    0x41 ≤ (Char.ofNat (r.lower + (n - r.first))).toNat := by
  have hlead := List.all_eq_true.mp runs_leadToLetters r hr
  simp only [Run.leadsToLetters, Bool.and_eq_true, Bool.or_eq_true, decide_eq_true_eq] at hlead
  simp only [Run.covers, Bool.and_eq_true, decide_eq_true_eq] at hn
  have hvalid : (r.lower + (n - r.first)).isValidChar := by
    rcases hlead.2 with h | h
    · exact Or.inl (by omega)
    · exact Or.inr ⟨by omega, by omega⟩
  rw [toNat_ofNat hvalid]
  omega

end CaseTable

/-- A character below the letters is its own lower case, and no other's. -/
theorem eq_of_mem_lowerChar {c d : Char} (h : d ∈ lowerChar c) (hd : d.toNat < 0x41) : d = c := by
  unfold lowerChar at h
  split at h
  · obtain rfl := List.mem_singleton.mp h
    unfold toAsciiLower at hd ⊢
    split
    · rename_i hup hc
      simp only [hc, if_true] at hd
      simp only [Bool.and_eq_true, decide_eq_true_eq] at hc
      have h1 : 0x41 ≤ c.toNat := hc.1
      rw [toNat_ofNat (Or.inl (by omega))] at hd
      omega
    · rfl
  · split at h
    · simp only [List.mem_cons, List.not_mem_nil, or_false] at h
      rcases h with rfl | rfl
      · exact absurd hd (by decide)
      · exact absurd hd (by decide)
    · split at h
      · rename_i r hr
        obtain rfl := List.mem_singleton.mp h
        have hcov := List.find?_some hr
        have := CaseTable.le_toNat_of_covers (List.mem_of_find?_eq_some hr) hcov
        omega
      · exact List.mem_singleton.mp h

theorem mem_of_mem_lowerAfter {before s : Text} {d : Char} (h : d ∈ lowerAfter before s) (hd : d.toNat < 0x41) :
    d ∈ s := by
  induction s generalizing before with
  | nil => cases h
  | cons c s ih =>
    simp only [lowerAfter, List.mem_append] at h
    rcases h with h | h
    · split at h
      · obtain rfl := List.mem_singleton.mp h
        exact absurd hd (by decide)
      · rw [eq_of_mem_lowerChar h hd]; exact List.mem_cons_self
    · exact List.mem_cons_of_mem c (ih h)

theorem mem_of_mem_lower {s : Text} {d : Char} (h : d ∈ s.lower) (hd : d.toNat < 0x41) : d ∈ s :=
  mem_of_mem_lowerAfter h hd

/-! ## Texts in lower case -/

theorem lowerChar_ascii {c : Char} (h : c.toNat < 0x80) (hup : ¬ ('A' ≤ c ∧ c ≤ 'Z')) : lowerChar c = [c] := by
  have hcapital : ¬ ('A' ≤ c && c ≤ 'Z') = true := by simpa using hup
  rw [lowerChar, if_pos h, toAsciiLower, if_neg hcapital]

/-- A text of ASCII characters that are no capitals is its own lower case. -/
theorem lower_ascii {s : Text} (h : ∀ c ∈ s, c.toNat < 0x80 ∧ ¬ ('A' ≤ c ∧ c ≤ 'Z')) : lower s = s := by
  suffices ∀ before, lowerAfter before s = s from this []
  induction s with
  | nil => intro before; rfl
  | cons c s ih =>
    intro before
    obtain ⟨hc, hup⟩ := h c List.mem_cons_self
    have hsigma : ¬ c.toNat = 0x3A3 := by omega
    rw [lowerAfter, lowerChar_ascii hc hup, ih fun d hd => h d (List.mem_cons_of_mem c hd)]
    simp [hsigma]

/-- The lower case of a text that begins with a letter begins with a small letter. -/
theorem lower_of_isLetter {c : Char} (s : Text) (h : isLetter c = true) :
    ∃ d rest, lower (c :: s) = d :: rest ∧ 'a' ≤ d ∧ d ≤ 'z' := by
  have hsmall : c.toNat < 0x80 ∧ 'a' ≤ toAsciiLower c ∧ toAsciiLower c ≤ 'z' := by
    simp only [isLetter, Bool.or_eq_true, Bool.and_eq_true, decide_eq_true_eq] at h
    rcases h with ⟨h1, h2⟩ | ⟨h1, h2⟩
    · have h1' : 0x61 ≤ c.toNat := h1
      have h2' : c.toNat ≤ 0x7A := h2
      have hcapital : ¬ ('A' ≤ c && c ≤ 'Z') = true := by
        simp only [Bool.and_eq_true, decide_eq_true_eq, not_and]
        intro _ h3
        have h3' : c.toNat ≤ 0x5A := h3
        omega
      rw [toAsciiLower, if_neg hcapital]
      exact ⟨by omega, h1, h2⟩
    · have h1' : 0x41 ≤ c.toNat := h1
      have h2' : c.toNat ≤ 0x5A := h2
      have hcapital : ('A' ≤ c && c ≤ 'Z') = true := by simp [h1, h2]
      have hvalue : (Char.ofNat (c.toNat + 32)).toNat = c.toNat + 32 := toNat_ofNat (Or.inl (by omega))
      rw [toAsciiLower, if_pos hcapital]
      refine ⟨by omega, ?_, ?_⟩
      · show 0x61 ≤ (Char.ofNat (c.toNat + 32)).toNat
        omega
      · show (Char.ofNat (c.toNat + 32)).toNat ≤ 0x7A
        omega
  have hsigma : ¬ c.toNat = 0x3A3 := by omega
  refine ⟨toAsciiLower c, lowerAfter [c] s, ?_, hsmall.2⟩
  simp [lower, lowerAfter, hsigma, lowerChar, hsmall.1]

end MarkupJsx.Text
