/-
  MarkupJsx.Proofs.Markup.Attributes — the attributes that an element keeps.

  Collapsing makes nothing up (`mem_of_mem_collapse`) and leaves each key once
  (`nodup_collapse`), with the last attribute that has it (`mem_collapse_iff`); where every
  attribute has a key of its own it changes nothing (`collapse_of_nodup`).
-/

import Mathlib.Data.List.Induction
import MarkupJsx.Markup.Node

namespace MarkupJsx.Markup.Attr

theorem mem_of_mem_put {a b : Attr} {as : List Attr} (h : b ∈ put a as) : b = a ∨ b ∈ as := by
  induction as with
  | nil => exact Or.inl (List.mem_singleton.mp h)
  | cons x as ih =>
    rw [put] at h
    split at h
    · rcases List.mem_cons.mp h with h | h
      · exact Or.inl h
      · exact Or.inr (List.mem_cons_of_mem x h)
    · rcases List.mem_cons.mp h with h | h
      · exact Or.inr (h ▸ List.mem_cons_self)
      · exact (ih h).imp id (List.mem_cons_of_mem x)

theorem mem_of_mem_collapse {b : Attr} {as : List Attr} (h : b ∈ collapse as) : b ∈ as := by
  suffices ∀ kept, b ∈ as.foldl (fun kept a => put a kept) kept → b ∈ kept ∨ b ∈ as from
    (this [] h).resolve_left (by simp)
  clear h
  induction as with
  | nil => intro kept h; exact Or.inl h
  | cons a as ih =>
    intro kept h
    rcases ih _ h with h | h
    · rcases mem_of_mem_put h with rfl | h
      · exact Or.inr List.mem_cons_self
      · exact Or.inl h
    · exact Or.inr (List.mem_cons_of_mem a h)

theorem put_of_not_mem {a : Attr} {as : List Attr} (h : a.key ∉ as.map (·.key)) : put a as = as ++ [a] := by
  induction as with
  | nil => rfl
  | cons b as ih =>
    simp only [List.map_cons, List.mem_cons, not_or] at h
    rw [put, if_neg (Ne.symm h.1), ih h.2, List.cons_append]

/-- Attributes with keys of their own are all kept. -/
theorem collapse_of_nodup {as : List Attr} (h : (as.map (·.key)).Nodup) : collapse as = as := by
  suffices ∀ kept : List Attr, ((kept ++ as).map (·.key)).Nodup →
      as.foldl (fun kept a => put a kept) kept = kept ++ as from this [] h
  clear h
  induction as with
  | nil => intro kept _; exact (List.append_nil kept).symm
  | cons a as ih =>
    intro kept h
    have hnot : a.key ∉ kept.map (·.key) := by
      intro hmem
      rw [List.map_append, List.nodup_append] at h
      exact h.2.2 _ hmem _ List.mem_cons_self rfl
    rw [List.foldl_cons, put_of_not_mem hnot, ih (kept ++ [a]) (by simpa using h), List.append_assoc]
    rfl

/-- A key that is put again keeps its place, and a new one goes to the end. -/
theorem keys_put (a : Attr) (as : List Attr) :
    (put a as).map (·.key) = if a.key ∈ as.map (·.key) then as.map (·.key) else as.map (·.key) ++ [a.key] := by
  induction as with
  | nil => rfl
  | cons b as ih =>
    by_cases hb : b.key = a.key
    · simp [put, hb]
    · rw [put, if_neg hb, List.map_cons, ih]
      have hb' : ¬ a.key = b.key := fun h => hb h.symm
      by_cases hmem : a.key ∈ as.map (·.key)
      · simp only [List.map_cons, List.mem_cons, hmem, or_true, if_true]
      · simp only [List.map_cons, List.mem_cons, hb', hmem, or_self, if_false, List.cons_append]

theorem nodup_put {a : Attr} {as : List Attr} (h : (as.map (·.key)).Nodup) : ((put a as).map (·.key)).Nodup := by
  rw [keys_put]
  split
  · exact h
  · rename_i hnot
    rw [List.nodup_append]
    refine ⟨h, by simp, fun k hk l hl => ?_⟩
    obtain rfl := List.mem_singleton.mp hl
    rintro rfl
    exact hnot hk

/-- Collapsed attributes have keys of their own. -/
theorem nodup_collapse (as : List Attr) : ((collapse as).map (·.key)).Nodup := by
  suffices ∀ kept : List Attr, (kept.map (·.key)).Nodup → ((as.foldl (fun kept a => put a kept) kept).map (·.key)).Nodup from
    this [] List.nodup_nil
  induction as with
  | nil => intro kept h; exact h
  | cons a as ih => intro kept h; exact ih _ (nodup_put h)

/-- Among attributes with keys of their own, the one that is put takes the place of the one
    that had its key. -/
theorem mem_put_iff {a b : Attr} {as : List Attr} (h : (as.map (·.key)).Nodup) :
    b ∈ put a as ↔ b = a ∨ b.key ≠ a.key ∧ b ∈ as := by
  induction as with
  | nil => simp [put]
  | cons x as ih =>
    rw [List.map_cons, List.nodup_cons] at h
    rw [put]
    by_cases hx : x.key = a.key
    · -- no other attribute has the key
      have hrest : b ∈ as → b.key ≠ a.key := by
        intro hb hkey
        exact h.1 (hx ▸ hkey ▸ List.mem_map_of_mem hb)
      rw [if_pos hx, List.mem_cons, List.mem_cons]
      constructor
      · rintro (rfl | hb)
        · exact Or.inl rfl
        · exact Or.inr ⟨hrest hb, Or.inr hb⟩
      · rintro (rfl | ⟨hkey, rfl | hb⟩)
        · exact Or.inl rfl
        · exact absurd hx hkey
        · exact Or.inr hb
    · rw [if_neg hx, List.mem_cons, List.mem_cons, ih h.2]
      constructor
      · rintro (rfl | rfl | ⟨hkey, hb⟩)
        · exact Or.inr ⟨hx, Or.inl rfl⟩
        · exact Or.inl rfl
        · exact Or.inr ⟨hkey, Or.inr hb⟩
      · rintro (rfl | ⟨hkey, rfl | hb⟩)
        · exact Or.inr (Or.inl rfl)
        · exact Or.inl rfl
        · exact Or.inr (Or.inr ⟨hkey, hb⟩)

/-- What is kept for a key is the last attribute that has it. -/
theorem mem_collapse_iff {as : List Attr} {b : Attr} :
    b ∈ collapse as ↔ (as.filter fun a => a.key = b.key).getLast? = some b := by
  induction as using List.reverseRecOn with
  | nil => simp [collapse]
  | append_singleton as a ih =>
    have hput : collapse (as ++ [a]) = put a (collapse as) := by rw [collapse, List.foldl_append]; rfl
    rw [hput, mem_put_iff (nodup_collapse as), ih, List.filter_append]
    by_cases hkey : a.key = b.key
    · simp [hkey, eq_comm]
    · have hne : b ≠ a := by rintro rfl; exact hkey rfl
      simp [hkey, hne, Ne.symm hkey]

/-- No key is lost. -/
theorem key_mem_collapse_iff {as : List Attr} {key : Text} :
    key ∈ (collapse as).map (·.key) ↔ key ∈ as.map (·.key) := by
  constructor
  · intro h
    obtain ⟨a, ha, rfl⟩ := List.mem_map.mp h
    exact List.mem_map_of_mem (mem_of_mem_collapse ha)
  · intro h
    obtain ⟨a, ha, rfl⟩ := List.mem_map.mp h
    have hne : as.filter (fun b => b.key = a.key) ≠ [] := List.ne_nil_of_mem (List.mem_filter.mpr ⟨ha, by simp⟩)
    obtain ⟨b, hb⟩ := Option.isSome_iff_exists.mp (List.getLast?_isSome.mpr hne)
    have hkey : b.key = a.key := by simpa using (List.mem_filter.mp (List.mem_of_getLast? hb)).2
    refine List.mem_map.mpr ⟨b, mem_collapse_iff.mpr ?_, hkey⟩
    rw [hkey]
    exact hb

end MarkupJsx.Markup.Attr
