/-
  MarkupJsx.Proofs.Markup.TreeBuilder — a document built with a plain stack.

  The stack holds the open elements, innermost first, each with its own children. A node is
  added to the innermost open element, a void element is one without children, an end tag
  closes the nearest open element of its name and all that is open in it, or nothing, and
  the end of the document closes the rest. There is no pending text, no end tag is owed, and
  texts keep their blanks.

  `Tracks g b`: the growth `g`, once settled, and the builder `b` have the same elements
  open, with the same JSX in them. What opens, closes or adds on both sides keeps it
  (`Tracks.enter`, `Tracks.close`, `Tracks.text`), and documents that track each other are
  written alike (`Tracks.finish`).
-/

import MarkupJsx.Proofs.Jsx.Writing
import MarkupJsx.Proofs.Markup.Settling
import MarkupJsx.Proofs.Text.Trim

namespace MarkupJsx.Markup

open Text (isBlank)

structure OpenNode where
  name : Text
  attrs : List Attr
  children : Forest

structure TreeBuilder where
  stack : List OpenNode
  roots : Forest

namespace TreeBuilder

def start : TreeBuilder := ⟨[], []⟩

def add (n : Node) (b : TreeBuilder) : TreeBuilder :=
  match b.stack with
  | [] => { b with roots := b.roots ++ [n] }
  | e :: outer => { b with stack := { e with children := e.children ++ [n] } :: outer }

def enter (name : Text) (attrs : List Attr) (b : TreeBuilder) : TreeBuilder :=
  if voidElements.contains name then b.add (.element name attrs [])
  else { b with stack := ⟨name, attrs, []⟩ :: b.stack }

/-- The innermost open element becomes a node. -/
def pop (b : TreeBuilder) : TreeBuilder :=
  match b.stack with
  | [] => b
  | e :: outer => add (.element e.name e.attrs e.children) { b with stack := outer }

def popN : Nat → TreeBuilder → TreeBuilder
  | 0, b => b
  | n + 1, b => popN n b.pop

def names (b : TreeBuilder) : List Text := b.stack.map (·.name)

def close (name : Text) (b : TreeBuilder) : TreeBuilder :=
  match b.names.idxOf? name with
  | none => b
  | some i => popN (i + 1) b

def finish (b : TreeBuilder) : Forest := (popN b.stack.length b).roots

theorem names_add (n : Node) (b : TreeBuilder) : (b.add n).names = b.names := by
  obtain ⟨stack, roots⟩ := b
  cases stack <;> rfl

theorem names_pop (b : TreeBuilder) : b.pop.names = b.names.tail := by
  obtain ⟨stack, roots⟩ := b
  cases stack with
  | nil => rfl
  | cons e outer => exact names_add _ _

end TreeBuilder

/-! ## The same JSX -/

/-- A text that shrinks is one of blanks only, and stays one. -/
theorem trim_shrink (t : Text) : (Growth.shrink t).trim = t.trim := by
  unfold Growth.shrink
  split
  · rename_i hall
    have hblank : ∀ c ∈ t, isBlank c = true := fun c hc => Growth.isBlank_of_isSpace (List.all_eq_true.mp hall c hc)
    rw [Text.trim_of_all hblank]
    split <;> rfl
  · rfl

theorem node_congr {name : Text} {attrs : List Attr} {f f' : Forest} (hname : voidElements.contains name = false)
    (h : Jsx.forest f = Jsx.forest f') : Jsx.node (.element name attrs f) = Jsx.node (.element name attrs f') := by
  rw [Jsx.node_open hname, Jsx.node_open hname, h]

/-! ## Tracking -/

/-- The same elements are open, with the same JSX in each, and none of them is void. The
    growth keeps what stands before an element, the builder what stands in it. -/
inductive Matches : List OpenElement → Forest → List OpenNode → Forest → Prop
  | roots {inner roots : Forest} : Jsx.forest inner = Jsx.forest roots → Matches [] inner [] roots
  | inside {name : Text} {attrs : List Attr} {before inner children roots : Forest} {outer : List OpenElement}
      {stack : List OpenNode} : voidElements.contains name = false → Jsx.forest inner = Jsx.forest children →
      Matches outer before stack roots → Matches (⟨name, attrs, before⟩ :: outer) inner (⟨name, attrs, children⟩ :: stack) roots

def Tracks (g : Growth) (b : TreeBuilder) : Prop := Matches g.enclosing g.siblings b.stack b.roots

theorem tracks_start : Tracks .start .start := .roots rfl

namespace Tracks

variable {g : Growth} {b : TreeBuilder} {n : Node}

theorem names_eq (h : Tracks g b) : g.enclosing.map (·.name) = b.names := by
  obtain ⟨enclosing, siblings, pending, owed⟩ := g
  obtain ⟨stack, roots⟩ := b
  simp only [Tracks] at h
  induction h with
  | roots _ => rfl
  | inside _ _ _ ih => exact congrArg (_ :: ·) ih

/-- A node is added to the builder, and what is written alike to the growth. -/
theorem add (h : Tracks g b) {more : Forest} (hn : Jsx.forest more = Jsx.node n) :
    Tracks { g with siblings := g.siblings ++ more } (b.add n) := by
  obtain ⟨enclosing, siblings, pending, owed⟩ := g
  obtain ⟨stack, roots⟩ := b
  have alike : ∀ {f f' : Forest}, Jsx.forest f = Jsx.forest f' → Jsx.forest (f ++ more) = Jsx.forest (f' ++ [n]) := by
    intro f f' hf
    rw [Jsx.forest_append, Jsx.forest_append, Jsx.forest_singleton, hf, hn]
  cases h with
  | roots hr => exact .roots (alike hr)
  | inside hv hi ho => exact .inside hv (alike hi) ho

theorem enter (h : Tracks g b) {name : Text} {attrs : List Attr} (hv : voidElements.contains name = false) :
    Tracks (g.enter name attrs) (b.enter name attrs) := by
  unfold TreeBuilder.enter
  rw [hv]
  exact .inside hv rfl h

theorem enter_void (h : Tracks g b) {name : Text} {attrs : List Attr} (hv : voidElements.contains name = true) :
    Tracks { g with siblings := g.siblings ++ [.element name attrs []] } (b.enter name attrs) := by
  unfold TreeBuilder.enter
  rw [if_pos hv]
  exact h.add (Jsx.forest_singleton _)

theorem pop (h : Tracks g b) : Tracks g.leave b.pop := by
  obtain ⟨enclosing, siblings, pending, owed⟩ := g
  obtain ⟨stack, roots⟩ := b
  cases h with
  | roots hr => exact .roots hr
  | @inside name attrs before _ children _ outer stack hv hi ho =>
    have houter : Tracks ⟨outer, before, pending, owed⟩ ⟨stack, roots⟩ := ho
    exact houter.add ((Jsx.forest_singleton _).trans (node_congr hv hi))

theorem leaveThrough {name : Text} {i : Nat} (h : Tracks g b) (hi : (g.enclosing.map (·.name)).idxOf? name = some i) :
    Tracks (Growth.leaveThrough name g.enclosing g) (TreeBuilder.popN (i + 1) b) := by
  suffices ∀ (es : List OpenElement) (g : Growth) (b : TreeBuilder) (i : Nat), Tracks g b →
      (es.map (·.name)).idxOf? name = some i → Tracks (Growth.leaveThrough name es g) (TreeBuilder.popN (i + 1) b) from
    this _ g b i h hi
  intro es
  induction es with
  | nil => intro g b i _ hi; cases hi
  | cons e outer ih =>
    intro g b i h hi
    rw [Growth.leaveThrough]
    by_cases hname : e.name = name
    · rw [if_pos hname]
      simp only [List.map_cons, List.idxOf?_cons, hname, beq_self_eq_true, if_true, Option.some.injEq] at hi
      subst hi
      exact h.pop
    · rw [if_neg hname]
      simp only [List.map_cons, List.idxOf?_cons, beq_false_of_ne hname, Bool.false_eq_true, if_false,
        Option.map_eq_some_iff] at hi
      obtain ⟨j, hj, rfl⟩ := hi
      exact ih g.leave b.pop j h.pop hj

/-- An end tag closes the same elements on both sides. -/
theorem close {name : Text} (h : Tracks g.settle b) : Tracks (g.close name) (b.close name) := by
  unfold Growth.close TreeBuilder.close
  rw [← h.names_eq]
  cases hi : (g.settle.enclosing.map (·.name)).idxOf? name with
  | none =>
    have hopen : g.settle.isOpen name = false := by
      rw [List.idxOf?_eq_none_iff] at hi
      simpa [Growth.isOpen] using hi
    simpa [hopen] using h
  | some i =>
    have hopen : g.settle.isOpen name = true := by
      have hmem : name ∈ g.settle.enclosing.map (·.name) := by
        by_cases hmem : name ∈ g.settle.enclosing.map (·.name)
        · exact hmem
        · rw [List.idxOf?_eq_none_iff.mpr hmem] at hi; cases hi
      simpa [Growth.isOpen] using hmem
    simpa [hopen] using h.leaveThrough hi

/-- One text on both sides: trimmed they are the same, though the growth may shrink its own. -/
theorem text (h : Tracks g b) (hp : g.pending = []) (t : Text) : Tracks (g.write t).settle (b.add (.text t)) := by
  have kept : ∀ kept : Text, kept.trim = t.trim →
      Tracks { g with siblings := g.siblings ++ [.text kept] } (b.add (.text t)) := by
    intro kept hk
    refine h.add ?_
    rw [Jsx.forest_singleton, Jsx.node, Jsx.node, hk]
  obtain ⟨enclosing, siblings, pending, owed⟩ := g
  obtain rfl : pending = [] := hp
  unfold Growth.settle
  split
  · -- an empty text makes no node, and would not show
    rename_i hempty
    obtain rfl : t = [] := by simpa using hempty
    have hnone : Tracks ⟨enclosing, siblings ++ [], [], owed⟩ (b.add (.text [])) := h.add rfl
    rw [List.append_nil] at hnone
    exact hnone
  · split
    · exact kept _ rfl
    · exact kept _ (trim_shrink t)

theorem finish (h : Tracks g.settle b) : Jsx.forest g.finish = Jsx.forest b.finish := by
  suffices ∀ (es : List OpenElement) (g : Growth) (b : TreeBuilder), Tracks g b → g.enclosing = es →
      Jsx.forest (es.foldl (fun g _ => g.leave) g).siblings = Jsx.forest b.finish from this _ g.settle b h rfl
  intro es
  -- as long as an element is open on one side, one is on the other
  induction es with
  | nil =>
    intro g b h hes
    obtain ⟨enclosing, siblings, pending, owed⟩ := g
    obtain ⟨stack, roots⟩ := b
    obtain rfl : enclosing = [] := hes
    cases h with
    | roots hr => exact hr
  | cons e outer ih =>
    intro g b h hes
    have hleave : g.leave.enclosing = outer := by unfold Growth.leave; rw [hes]
    have hlength : b.stack.length = b.pop.stack.length + 1 := by
      have hnames := h.names_eq
      have hpop := b.names_pop
      rw [hes] at hnames
      rw [← hnames] at hpop
      have h1 := congrArg List.length hnames
      have h2 := congrArg List.length hpop
      simp only [TreeBuilder.names, List.length_map, List.map_cons, List.tail_cons, List.length_cons] at h1 h2
      omega
    rw [List.foldl_cons, ih g.leave b.pop h.pop hleave, TreeBuilder.finish, TreeBuilder.finish, hlength]
    rfl

end Tracks

end MarkupJsx.Markup
