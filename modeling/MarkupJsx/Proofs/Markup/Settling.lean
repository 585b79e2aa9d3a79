/-
  MarkupJsx.Proofs.Markup.Settling — what each operation on a growth leaves alone.

  Writing only adds to what is pending, settling turns it into a node, and neither opens or
  closes anything. Closing an element settles first, and no operation but a start tag or
  the end tag of an element that is owed one changes what is owed.
-/

import MarkupJsx.Markup.Growth

namespace MarkupJsx.Markup.Growth

/-! ## Writing -/

/-- More text. -/
def write (t : Text) (g : Growth) : Growth := { g with pending := g.pending ++ t }

@[simp] theorem write_nil (g : Growth) : g.write [] = g := by simp [write]
@[simp] theorem write_write (g : Growth) (s t : Text) : (g.write s).write t = g.write (s ++ t) := by simp [write]
@[simp] theorem write_enclosing (g : Growth) (t : Text) : (g.write t).enclosing = g.enclosing := rfl
@[simp] theorem write_siblings (g : Growth) (t : Text) : (g.write t).siblings = g.siblings := rfl
@[simp] theorem write_pending (g : Growth) (t : Text) : (g.write t).pending = g.pending ++ t := rfl
@[simp] theorem write_owed (g : Growth) (t : Text) : (g.write t).owed = g.owed := rfl

/-! ## Settling -/

theorem isBlank_of_isSpace {c : Char} (h : isSpace c = true) : Text.isBlank c = true := by
  simp only [isSpace, Bool.or_eq_true, beq_iff_eq] at h
  rcases h with (((rfl | rfl) | rfl) | rfl) | rfl <;> rfl

theorem settle_of_nil {g : Growth} (h : g.pending = []) : g.settle = g := by simp [settle, h]

@[simp] theorem settle_pending (g : Growth) : g.settle.pending = [] := by
  unfold settle
  split
  · rename_i h; simpa using h
  · rfl

@[simp] theorem settle_enclosing (g : Growth) : g.settle.enclosing = g.enclosing := by
  unfold settle; split <;> rfl

@[simp] theorem settle_owed (g : Growth) : g.settle.owed = g.owed := by
  unfold settle; split <;> rfl

/-! ## Closing -/

@[simp] theorem leave_pending (g : Growth) : g.leave.pending = g.pending := by
  unfold leave; split <;> rfl

@[simp] theorem leave_owed (g : Growth) : g.leave.owed = g.owed := by
  unfold leave; split <;> rfl

/-- What closing one element leaves alone, closing many does. -/
theorem leaveThrough_of_leave {α : Type} {f : Growth → α} (hf : ∀ g : Growth, f g.leave = f g) (name : Text)
    (es : List OpenElement) (g : Growth) : f (leaveThrough name es g) = f g := by
  induction es generalizing g with
  | nil => rfl
  | cons e es ih =>
    rw [leaveThrough]
    split
    · exact hf g
    · exact (ih g.leave).trans (hf g)

theorem close_of_leave {α : Type} {f : Growth → α} (hf : ∀ g : Growth, f g.leave = f g) (name : Text) (g : Growth) :
    f (g.close name) = f g.settle := by
  simp only [close]
  split
  · exact leaveThrough_of_leave hf name _ _
  · rfl

@[simp] theorem close_pending (name : Text) (g : Growth) : (g.close name).pending = [] :=
  (close_of_leave leave_pending name g).trans (settle_pending g)

@[simp] theorem close_owed (name : Text) (g : Growth) : (g.close name).owed = g.owed :=
  (close_of_leave leave_owed name g).trans (settle_owed g)

/-- An element that is closed as it is opened is one more sibling. -/
theorem leave_enter (name : Text) (attrs : List Attr) (g : Growth) :
    (g.enter name attrs).leave = { g with siblings := g.siblings ++ [.element name attrs []] } := rfl

/-! ## Owed end tags -/

def OwesVoids (g : Growth) : Prop := ∀ name ∈ g.owed, voidElements.contains name = true

theorem owesVoids_congr {g g' : Growth} (ho : g'.owed = g.owed) (h : g.OwesVoids) : g'.OwesVoids := by
  intro name hname
  exact h name (ho ▸ hname)

/-- An end tag of an element that is not void is never one that is owed. -/
theorem step_endTag {g : Growth} {name : Text} (howed : g.OwesVoids) (hname : voidElements.contains name = false) :
    g.step (.endTag name) = g.close name := by
  have hnot : g.owed.contains name = false := by
    cases hc : g.owed.contains name with
    | false => rfl
    | true =>
      rw [howed name (List.contains_iff_mem.mp hc)] at hname
      cases hname
  rw [step, hnot]
  rfl

end MarkupJsx.Markup.Growth
