/-
  MarkupJsx.Proofs.Yaml.Depth — the value of a document, to one depth and to another.

  Rule. A document may contain itself, so its value is given to a depth, and what lies deeper
  reads as null. All nodes are built before a depth is asked for. So whether there is a value
  does not depend on the depth, and the values that a document has to two depths are the same
  down to the smaller one (`agreesTo_value`, `load_cases`).
-/

import Mathlib.Data.List.Forall2
import MarkupJsx.Yaml.Document

namespace MarkupJsx.Yaml

/-- The values are the same as far as one sees who goes so many steps down. -/
def Value.AgreesTo : Nat → Value → Value → Prop
  | 0, _, _ => True
  | _ + 1, .atom a, .atom b => a = b
  | k + 1, .list items, .list items' => List.Forall₂ (AgreesTo k) items items'
  | k + 1, .pair key value, .pair key' value' => AgreesTo k key key' ∧ AgreesTo k value value'
  | _ + 1, .set keys, .set keys' => keys = keys'
  | k + 1, .map entries, .map entries' => List.Forall₂ (fun e e' => e.1 = e'.1 ∧ AgreesTo k e.2 e'.2) entries entries'
  | _ + 1, _, _ => False

/-- One step down, values that agree are equal or collections of one kind. -/
theorem Value.AgreesTo.kinds {k : Nat} {v v' : Value} (h : v.AgreesTo (k + 1) v') :
    v = v' ∨ (∃ items items', v = .list items ∧ v' = .list items' ∧ List.Forall₂ (AgreesTo k) items items') ∨
      (∃ a b a' b', v = .pair a b ∧ v' = .pair a' b') ∨
      ∃ entries entries', v = .map entries ∧ v' = .map entries' ∧
        List.Forall₂ (fun e e' => e.1 = e'.1 ∧ AgreesTo k e.2 e'.2) entries entries' := by
  cases v with
  | atom a =>
    cases v' with
    | atom b => exact .inl (congrArg _ h)
    | _ => exact h.elim
  | list items =>
    cases v' with
    | list items' => exact .inr (.inl ⟨items, items', rfl, rfl, h⟩)
    | _ => exact h.elim
  | pair a b =>
    cases v' with
    | pair a' b' => exact .inr (.inr (.inl ⟨a, b, a', b', rfl, rfl⟩))
    | _ => exact h.elim
  | set keys =>
    cases v' with
    | set keys' => exact .inl (congrArg _ h)
    | _ => exact h.elim
  | map entries =>
    cases v' with
    | map entries' => exact .inr (.inr (.inr ⟨entries, entries', rfl, rfl, h⟩))
    | _ => exact h.elim

theorem forall₂_map_same {α β : Type} {R : β → β → Prop} {f g : α → β} {l : List α} (h : ∀ x, R (f x) (g x)) :
    List.Forall₂ R (l.map f) (l.map g) := by
  rw [List.forall₂_map_left_iff, List.forall₂_map_right_iff, List.forall₂_same]
  exact fun x _ => h x

theorem agreesTo_value (b : Builder) {k m n : Nat} (hm : k ≤ m) (hn : k ≤ n) (id : Nat) :
    (b.value m id).AgreesTo k (b.value n id) := by
  induction k using Nat.strongRecOn generalizing m n id with
  | ind k ih =>
    cases k with
    | zero => trivial
    | succ k =>
      obtain ⟨m, rfl⟩ : ∃ i, m = i + 1 := ⟨m - 1, by omega⟩
      obtain ⟨n, rfl⟩ : ∃ i, n = i + 1 := ⟨n - 1, by omega⟩
      have hlower : ∀ j ≤ k, ∀ x, (b.value m x).AgreesTo j (b.value n x) := fun j hj x =>
        ih j (by omega) (by omega) (by omega) x
      simp only [Builder.value]
      rcases (b.cells[id]?).getD none with _ | cell
      · exact rfl
      · cases cell with
        | pending => exact rfl
        | atom a => exact rfl
        | set keys => exact rfl
        | list items => exact forall₂_map_same (hlower k (Nat.le_refl k))
        | map entries => exact forall₂_map_same fun e => ⟨rfl, hlower k (Nat.le_refl k) e.2⟩
        | pairs pairs =>
          refine forall₂_map_same fun p => ?_
          -- A pair stands as deep as the list that holds it, one step above its two halves.
          cases k with
          | zero => trivial
          | succ k => exact ⟨hlower k (Nat.le_succ k) p.1, hlower k (Nat.le_succ k) p.2⟩

/-- A text has a value to every depth, or the same error. -/
theorem load_cases (s : Text) :
    (∃ e, ∀ n, load n s = .error e) ∨
      ∃ value : Nat → Value, (∀ n, load n s = .ok (value n)) ∧
        ∀ k m n, k ≤ m → k ≤ n → (value m).AgreesTo k (value n) := by
  unfold load
  cases Graph.ofText? s with
  | error e => exact .inl ⟨e, fun _ => rfl⟩
  | ok graph =>
    cases graph with
    | none => exact .inr ⟨fun _ => .atom .null, fun _ => rfl, fun k _ _ _ _ => by cases k <;> trivial⟩
    | some g =>
      simp only [bind, Except.bind, pure, Except.pure]
      cases StateT.run (do Build.visit g.root; Build.finish (g.nodes.size + 1) : Build Unit)
          ⟨g.nodes, Array.replicate g.nodes.size none, []⟩ with
      | error e => exact .inl ⟨e, fun _ => rfl⟩
      | ok built =>
        exact .inr ⟨fun n => built.2.value n g.root, fun _ => rfl, fun _ _ _ hm hn => agreesTo_value built.2 hm hn g.root⟩

end MarkupJsx.Yaml
