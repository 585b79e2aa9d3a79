/-
  MarkupJsx.Proofs.Paths — paths and how they are written.

  Rule. A path is normal when none of its parts is empty, a single dot or holds a slash. A
  written path is normal (`isNormal_ofWide`), and a normal one is read back from how it is
  written (`ofWide_toWide`). Parents, joins and homes keep paths normal.

  One path is written like the marker of the standard input (`eq_of_toWide`). A relative path
  is resolved to it only in the current directory, or in a directory of that very name
  (`base_of_resolvePath`).
-/

import MarkupJsx.Manifest.Load

namespace MarkupJsx

/-! ## Pieces -/

namespace Text

variable {α : Type} [DecidableEq α] {c : α} {s w : List α} {ws : List (List α)}

theorem split_ne_nil (c : α) (s : List α) : split c s ≠ [] := by
  cases s with
  | nil => simp [split]
  | cons x rest =>
    unfold split
    split
    · simp
    · split <;> simp

theorem not_mem_of_mem_split (h : w ∈ split c s) : c ∉ w := by
  induction s generalizing w with
  | nil =>
    obtain rfl : w = [] := by simpa [split] using h
    simp
  | cons x rest ih =>
    unfold split at h
    split at h
    · rcases List.mem_cons.mp h with rfl | h
      · simp
      · exact ih h
    · rename_i hx
      split at h
      · rename_i hnil
        exact absurd hnil (split_ne_nil c rest)
      · rename_i v vs hv
        rcases List.mem_cons.mp h with rfl | h
        · have hvc : c ∉ v := ih (by rw [hv]; exact List.mem_cons_self ..)
          simp [Ne.symm hx, hvc]
        · exact ih (by rw [hv]; exact List.mem_cons_of_mem v h)

theorem split_of_not_mem (h : c ∉ s) : split c s = [s] := by
  induction s with
  | nil => rfl
  | cons x rest ih =>
    simp only [List.mem_cons, not_or] at h
    simp [split, Ne.symm h.1, ih h.2]

theorem split_append_cons (h : c ∉ w) (s : List α) : split c (w ++ c :: s) = w :: split c s := by
  induction w with
  | nil => simp [split]
  | cons x rest ih =>
    simp only [List.mem_cons, not_or] at h
    simp [split, Ne.symm h.1, ih h.2]

theorem split_join (h : ∀ w ∈ ws, c ∉ w) (hne : ws ≠ []) : split c (join [c] ws) = ws := by
  induction ws with
  | nil => exact absurd rfl hne
  | cons w rest ih =>
    have hw := h w (List.mem_cons_self ..)
    cases rest with
    | nil => exact split_of_not_mem hw
    | cons v rest =>
      have hrest := ih (fun u hu => h u (List.mem_cons_of_mem w hu)) (List.cons_ne_nil v rest)
      rw [join, List.append_assoc, List.singleton_append, split_append_cons hw, hrest]
      simp

theorem split_replicate (c : α) (k : Nat) (s : List α) :
    split c (List.replicate k c ++ s) = List.replicate k [] ++ split c s := by
  induction k with
  | zero => rfl
  | succ k ih => rw [List.replicate_succ, List.cons_append, split, if_pos rfl, ih, List.replicate_succ, List.cons_append]

end Text

namespace Path

variable {p q base home : Path} {w : WideText}

/-! ## Normal paths -/

/-- No part is empty, a single dot, or holds a slash. -/
def IsNormal (p : Path) : Prop := ∀ part ∈ p.parts, part ≠ [] ∧ part ≠ dot ∧ .char '/' ∉ part

instance (p : Path) : Decidable p.IsNormal :=
  inferInstanceAs (Decidable (∀ part ∈ p.parts, part ≠ [] ∧ part ≠ dot ∧ CodePoint.char '/' ∉ part))

theorem isNormal_ofWide (w : WideText) : (ofWide w).IsNormal := by
  intro part hpart
  obtain ⟨hsplit, hkept⟩ := List.mem_filter.mp hpart
  simp only [Bool.and_eq_true, decide_eq_true_eq] at hkept
  exact ⟨hkept.1, hkept.2, Text.not_mem_of_mem_split hsplit⟩

theorem IsNormal.parent (h : p.IsNormal) : p.parent.IsNormal := fun part hpart => h part (List.dropLast_subset p.parts hpart)

theorem IsNormal.join (hp : p.IsNormal) (hq : q.IsNormal) : (p.join q).IsNormal := by
  unfold Path.join
  split
  · exact hq
  · exact fun part hpart => (List.mem_append.mp hpart).elim (hp part) (hq part)

theorem IsNormal.fromHome (hp : p.IsNormal) (hhome : home.IsNormal) : (p.fromHome home).IsNormal := fun part hpart =>
  (List.mem_append.mp hpart).elim (hhome part) fun h => hp part (List.mem_of_mem_drop h)

/-- The first part does not go on with the slashes before it. -/
theorem takeWhile_slashes (h : p.IsNormal) (k : Nat) :
    (List.replicate k (CodePoint.char '/') ++ Text.join [.char '/'] p.parts).takeWhile (· == .char '/') =
      List.replicate k (.char '/') := by
  have hends : (Text.join [.char '/'] p.parts).takeWhile (· == CodePoint.char '/') = [] := by
    cases hparts : p.parts with
    | nil => rfl
    | cons part rest =>
      obtain ⟨hne, -, hslash⟩ := h part (by rw [hparts]; exact List.mem_cons_self ..)
      obtain ⟨x, part, rfl⟩ := List.exists_cons_of_ne_nil hne
      have hx : ¬(x == CodePoint.char '/') = true := by
        simp only [List.mem_cons, not_or] at hslash
        simpa using Ne.symm hslash.1
      cases rest with
      | nil => exact List.takeWhile_cons_of_neg hx
      | cons part' rest => exact List.takeWhile_cons_of_neg hx
  rw [List.takeWhile_append_of_pos (fun x hx => by simp [List.eq_of_mem_replicate hx]), hends, List.append_nil]

/-- A normal path is read back from how it is written. -/
theorem ofWide_toWide (h : p.IsNormal) : ofWide p.toWide = p := by
  obtain ⟨root, parts⟩ := p
  have hroot : Root.ofSlashes root.slashes = root := by cases root <;> rfl
  have hkept : parts.filter (fun part => part ≠ [] && part ≠ dot) = parts := by
    refine List.filter_eq_self.mpr fun part hpart => ?_
    obtain ⟨hne, hdot, -⟩ := h part hpart
    simp [hne, hdot]
  have hsplit : (Text.split (.char '/') (Text.join [.char '/'] parts)).filter (fun part => part ≠ [] && part ≠ dot) = parts := by
    cases parts with
    | nil => rfl
    | cons part rest => rw [Text.split_join (fun w hw => (h w hw).2.2) (List.cons_ne_nil part rest), hkept]
  unfold toWide
  split
  · rename_i hempty
    obtain ⟨rfl, rfl⟩ : root = .relative ∧ parts = [] := by simpa using hempty
    rfl
  · have hslashes := takeWhile_slashes h root.slashes
    have hempty : (List.replicate root.slashes []).filter (fun part : WideText => part ≠ [] && part ≠ dot) = [] := by simp
    simp only [ofWide, hslashes, List.length_replicate, hroot, Text.split_replicate, List.filter_append, hsplit, hempty,
      List.nil_append]

/-! ## The marker -/

/-- The path that is written like the marker of the standard input. -/
theorem eq_of_toWide (h : p.toWide = .ofText Source.marker) : p = ofText Source.marker := by
  obtain ⟨root, parts⟩ := p
  unfold toWide at h
  split at h
  · exact absurd h (by decide)
  · rename_i hne
    cases root with
    | slash => exact absurd (List.cons.inj h).1 (by decide)
    | doubleSlash => exact absurd (List.cons.inj h).1 (by decide)
    | relative =>
      match parts, h with
      | [], _ => exact absurd rfl hne
      | [part], h =>
        obtain rfl : part = .ofText Source.marker := h
        rfl
      | part :: part' :: rest, h =>
        have hslash : CodePoint.char '/' ∈ WideText.ofText Source.marker := by
          rw [← h]
          simp [Text.join]
        exact absurd hslash (by decide)

end Path

theorem Source.ofPath_of_ne {p : Path} (h : p ≠ Path.ofText Source.marker) : Source.ofPath p = .path p :=
  if_neg fun hw => h (Path.eq_of_toWide hw)

namespace Manifest

variable {homes : Homes} {base p q : Path}

theorem isNormal_resolvePath (hhomes : ∀ user home, homes user = some home → home.IsNormal) (hbase : base.IsNormal)
    (hp : p.IsNormal) (h : resolvePath homes base p = .ok q) : q.IsNormal := by
  unfold resolvePath expandHome at h
  split at h
  · cases h
    exact hbase.join hp
  · split at h
    · cases h
    · split at h
      · cases h
      · rename_i home hhome
        cases h
        exact hbase.join (hp.fromHome (hhomes _ _ hhome))

/-- Where the marker is what a path is resolved to: in the current directory, or in a directory
    with the marker for a name. -/
theorem base_of_resolvePath (h : resolvePath homes base p = .ok (Path.ofText Source.marker)) :
    base = ⟨.relative, []⟩ ∨ base = Path.ofText Source.marker := by
  have hjoin : ∃ r : Path, base.join r = Path.ofText Source.marker := by
    unfold resolvePath at h
    cases he : expandHome homes p with
    | error e => rw [he] at h; cases h
    | ok r => rw [he] at h; exact ⟨r, Except.ok.inj h⟩
  obtain ⟨r, hr⟩ := hjoin
  unfold Path.join at hr
  split at hr
  · rename_i habs
    rw [hr] at habs
    exact absurd habs (by decide)
  · obtain ⟨root, parts⟩ := base
    obtain ⟨rfl, hparts⟩ := Path.mk.inj hr
    rcases List.append_eq_singleton_iff.mp hparts with ⟨rfl, -⟩ | ⟨rfl, -⟩
    · exact .inl rfl
    · exact .inr rfl

end Manifest

end MarkupJsx
