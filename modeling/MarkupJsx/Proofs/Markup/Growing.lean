/-
  MarkupJsx.Proofs.Markup.Growing — what holds of every node while a document grows.

  A property of nodes holds of all nodes of a document, at any depth, once it holds of
  texts and of the elements that its start tags make (`every_of_parse`). An element that
  stays open may close around any nodes of the property; one that is closed as it is opened
  is only ever an element without children. `Keeps` is the invariant: the nodes so far have
  the property, and what is open may close.
-/

import MarkupJsx.Proofs.Markup.Reports
import MarkupJsx.Proofs.Markup.Settling

namespace MarkupJsx.Markup

/-! ## Nodes at any depth -/

mutual

/-- A node and the nodes within it. -/
def withInner : Node → List Node
  | .text t => [.text t]
  | .element name attrs children => .element name attrs children :: nodes children

/-- The nodes of a forest, at any depth. -/
def nodes : List Node → List Node
  | [] => []
  | n :: rest => withInner n ++ nodes rest

end

theorem nodes_append (f g : Forest) : nodes (f ++ g) = nodes f ++ nodes g := by
  induction f with
  | nil => rfl
  | cons n f ih => rw [List.cons_append, nodes, nodes, ih, List.append_assoc]

/-- A node of a forest is one of its nodes at any depth. -/
theorem mem_nodes_of_mem {n : Node} {f : Forest} (h : n ∈ f) : n ∈ nodes f := by
  obtain ⟨f1, f2, rfl⟩ := List.append_of_mem h
  rw [nodes_append, nodes]
  apply List.mem_append_right
  apply List.mem_append_left
  cases n with
  | text t => exact List.mem_cons_self
  | element name attrs children => exact List.mem_cons_self

def Every (P : Node → Prop) (f : Forest) : Prop := ∀ n ∈ nodes f, P n

variable {P : Node → Prop}

theorem every_nil : Every P [] := by
  intro n hn
  cases hn

theorem every_append {f g : Forest} (hf : Every P f) (hg : Every P g) : Every P (f ++ g) := by
  intro n hn
  rw [nodes_append] at hn
  rcases List.mem_append.mp hn with hn | hn
  · exact hf n hn
  · exact hg n hn

theorem every_text {t : Text} (h : P (.text t)) : Every P [.text t] := by
  intro n hn
  obtain rfl : n = .text t := by simpa [nodes, withInner] using hn
  exact h

theorem every_cons {n : Node} {f : Forest} : Every P (n :: f) ↔ Every P [n] ∧ Every P f := by
  simp only [Every, nodes, List.append_nil, List.mem_append]
  exact ⟨fun h => ⟨fun m hm => h m (Or.inl hm), fun m hm => h m (Or.inr hm)⟩, fun ⟨h1, h2⟩ m hm => hm.elim (h1 m) (h2 m)⟩

theorem every_element {name : Text} {attrs : List Attr} {children : Forest} :
    Every P [.element name attrs children] ↔ P (.element name attrs children) ∧ Every P children := by
  simp only [Every, nodes, withInner, List.append_nil, List.mem_cons]
  exact ⟨fun h => ⟨h _ (Or.inl rfl), fun m hm => h m (Or.inr hm)⟩, fun ⟨h1, h2⟩ m hm => hm.elim (fun e => e ▸ h1) (h2 m)⟩

def IsEmptyIfVoid : Node → Prop
  | .text _ => True
  | .element name _ children => voidElements.contains name = true → children = []

namespace Growth

/-! ## What is kept -/

/-- The elements that a start tag of this name makes are closed as they are opened. -/
def closesAtOnce (t : Tag) : Bool := t.selfClosing || voidElements.contains t.name

/-- A start tag makes elements of the property, whatever they close around. -/
def Makes (P : Node → Prop) (t : Tag) : Prop :=
  if closesAtOnce t then P (.element t.name (elementAttrs t) [])
  else ∀ children, Every P children → P (.element t.name (elementAttrs t) children)

structure Keeps (P : Node → Prop) (g : Growth) : Prop where
  siblings : Every P g.siblings
  before : ∀ e ∈ g.enclosing, Every P e.before
  closes : ∀ e ∈ g.enclosing, ∀ children, Every P children → P (.element e.name e.attrs children)

theorem keeps_start : Keeps P start :=
  ⟨every_nil, fun _ he => (by cases he), fun _ he => (by cases he)⟩

theorem keeps_settle (hText : ∀ t, P (.text t)) {g : Growth} (h : g.Keeps P) : g.settle.Keeps P := by
  unfold settle
  split
  · exact h
  · exact ⟨every_append h.siblings (every_text (hText _)), h.before, h.closes⟩

theorem keeps_leave {g : Growth} (h : g.Keeps P) : g.leave.Keeps P := by
  unfold leave
  split
  · exact h
  · rename_i e outer he
    have hmem : e ∈ g.enclosing := he ▸ List.mem_cons_self
    have houter : ∀ e' ∈ outer, e' ∈ g.enclosing := fun e' h' => he ▸ List.mem_cons_of_mem e h'
    refine ⟨?_, fun e' h' => h.before e' (houter e' h'), fun e' h' => h.closes e' (houter e' h')⟩
    exact every_append (h.before e hmem) (every_element.mpr ⟨h.closes e hmem _ h.siblings, h.siblings⟩)

theorem keeps_leaveThrough {name : Text} {es : List OpenElement} {g : Growth} (h : g.Keeps P) :
    (leaveThrough name es g).Keeps P := by
  induction es generalizing g with
  | nil => exact h
  | cons e outer ih =>
    rw [leaveThrough]
    split
    · exact keeps_leave h
    · exact ih (keeps_leave h)

theorem keeps_close (hText : ∀ t, P (.text t)) {name : Text} {g : Growth} (h : g.Keeps P) : (g.close name).Keeps P := by
  unfold close
  dsimp only
  split
  · exact keeps_leaveThrough (keeps_settle hText h)
  · exact keeps_settle hText h

theorem keeps_step (hText : ∀ t, P (.text t)) {g : Growth} (h : g.Keeps P) {e : Event}
    (hTag : ∀ t, e = .startTag t → Makes P t) : (g.step e).Keeps P := by
  cases e with
  | text t => exact ⟨h.siblings, h.before, h.closes⟩
  | hidden => exact keeps_settle hText h
  | endTag name =>
    rw [step]
    split
    · exact ⟨h.siblings, h.before, h.closes⟩
    · exact keeps_close hText h
  | startTag t =>
    have hm := hTag t rfl
    have hs := keeps_settle hText h
    have closed : P (.element t.name (elementAttrs t) []) →
        (g.settle.enter t.name (elementAttrs t)).leave.Keeps P := fun hp =>
      ⟨every_append hs.siblings (every_element.mpr ⟨hp, every_nil⟩), hs.before, hs.closes⟩
    unfold Makes closesAtOnce at hm
    simp only [step]
    by_cases hself : t.selfClosing = true
    · simp only [hself, Bool.true_or, if_true] at hm ⊢
      exact closed hm
    by_cases hvoid : voidElements.contains t.name = true
    · simp only [hself, hvoid, Bool.or_true, if_true] at hm ⊢
      exact ⟨(closed hm).siblings, (closed hm).before, (closed hm).closes⟩
    · simp only [hself, hvoid, Bool.or_self, Bool.false_eq_true, if_false] at hm ⊢
      refine ⟨every_nil, fun e he => ?_, fun e he => ?_⟩
      · rcases List.mem_cons.mp he with rfl | he
        · exact hs.siblings
        · exact hs.before e he
      · rcases List.mem_cons.mp he with rfl | he
        · exact hm
        · exact hs.closes e he

theorem keeps_foldl (hText : ∀ t, P (.text t)) {evs : List Event} {g : Growth} (h : g.Keeps P)
    (hTag : ∀ t, .startTag t ∈ evs → Makes P t) : (evs.foldl step g).Keeps P := by
  induction evs generalizing g with
  | nil => exact h
  | cons e evs ih =>
    exact ih (keeps_step hText h fun t he => hTag t (he ▸ List.mem_cons_self))
      fun t ht => hTag t (List.mem_cons_of_mem e ht)

theorem every_finish (hText : ∀ t, P (.text t)) {g : Growth} (h : g.Keeps P) : Every P g.finish := by
  have all : ∀ (es : List OpenElement) {g : Growth}, g.Keeps P → (es.foldl (fun g _ => g.leave) g).Keeps P := by
    intro es
    induction es with
    | nil => intro g h; exact h
    | cons e es ih => intro g h; exact ih (keeps_leave h)
  exact (all _ (keeps_settle hText h)).siblings

end Growth

/-- A property that texts have, and that the reported start tags make, holds of every node
    of a parsed document. -/
theorem every_of_parse {s : Text} {f : Forest} (hText : ∀ t, P (.text t))
    (hTag : ∀ t, Reports s (.startTag t) → Growth.Makes P t) (h : parse s = .ok f) : Every P f := by
  cases he : events s with
  | error e => rw [parse, he] at h; cases h
  | ok evs =>
    rw [parse, he] at h
    cases h
    exact Growth.every_finish hText
      (Growth.keeps_foldl hText Growth.keeps_start fun t ht => hTag t (reports_of_events he _ ht))

end MarkupJsx.Markup
