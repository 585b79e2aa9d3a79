/-
  MarkupJsx.Proofs.Jsx.Closing — where closing tags come from.

  In what is written for a forest, `</` stands only at the closing tag of an element of the
  forest that does not close itself (`closing_of_forest`): texts and values have their `<`
  escaped, and no name and no key holds a slash.
-/

import MarkupJsx.Proofs.Jsx.Escape
import MarkupJsx.Proofs.Jsx.Writing
import MarkupJsx.Proofs.Markup.Growing
import MarkupJsx.Proofs.Text.Runs

namespace MarkupJsx.Jsx

open Markup (Attr Node Forest Every nodes)

variable {S : Text → Prop} {a b : Text}

/-- Wherever `</` stands in the text, a name of `S` and a `>` follow. -/
def ClosesOnly (S : Text → Prop) (o : Text) : Prop :=
  ∀ p q, o = p ++ '<' :: '/' :: q → ∃ name, S name ∧ name ++ ['>'] <+: q

theorem ClosesOnly.mono {S' : Text → Prop} (h : ClosesOnly S a) (hS : ∀ name, S name → S' name) : ClosesOnly S' a := by
  intro p q hq
  obtain ⟨name, hn, hp⟩ := h p q hq
  exact ⟨name, hS name hn, hp⟩

theorem closesOnly_of_not_mem_lt (h : '<' ∉ a) : ClosesOnly S a := by
  intro p q hq
  exact absurd (by rw [hq]; simp) h

theorem closesOnly_of_not_mem_slash (h : '/' ∉ a) : ClosesOnly S a := by
  intro p q hq
  exact absurd (by rw [hq]; simp) h

/-- Two texts together, when `</` does not arise between them. -/
theorem ClosesOnly.append (ha : ClosesOnly S a) (hb : ClosesOnly S b) (hab : a.getLast? ≠ some '<' ∨ b.head? ≠ some '/') :
    ClosesOnly S (a ++ b) := by
  intro p q hq
  rcases List.append_eq_append_iff.mp hq with ⟨w, -, hw⟩ | ⟨w, hw, hrest⟩
  · exact hb w q hw
  · match w, hw, hrest with
    | [], _, hrest => exact hb [] q hrest.symm
    | [x], hw, hrest =>
      simp only [List.cons_append, List.nil_append, List.cons.injEq] at hrest
      obtain ⟨rfl, rfl⟩ := hrest
      rcases hab with h | h
      · exact absurd (by rw [hw]; simp) h
      · exact absurd rfl h
    | x :: y :: w, hw, hrest =>
      simp only [List.cons_append, List.cons.injEq] at hrest
      obtain ⟨rfl, rfl, rfl⟩ := hrest
      obtain ⟨name, hn, hpre⟩ := ha p w hw
      exact ⟨name, hn, hpre.trans (List.prefix_append w b)⟩

theorem closesOnly_closer {name : Text} (hS : S name) (hname : '/' ∉ name) : ClosesOnly S ('<' :: '/' :: name ++ ['>']) := by
  intro p q hq
  match p, hq with
  | [], hq =>
    simp only [List.cons_append, List.nil_append, List.cons.injEq, true_and] at hq
    exact ⟨name, hS, hq ▸ List.prefix_rfl⟩
  | [_], hq => simp at hq
  | x :: y :: p, hq =>
    have : name ++ ['>'] = p ++ '<' :: '/' :: q := (List.cons.inj (List.cons.inj hq).2).2
    have hmem : '/' ∈ name ++ ['>'] := by rw [this]; simp
    simp [hname] at hmem

/-! ## The writer -/

/-- No name and no key of the element holds a slash. -/
def SlashFree : Node → Prop
  | .text _ => True
  | .element name attrs _ => '/' ∉ name ∧ ∀ a ∈ attrs, '/' ∉ a.key

theorem slash_not_mem_attrName {key : Text} (h : '/' ∉ key) : '/' ∉ attrName key := by
  have hrenamed : ∀ r ∈ renames, '/' ∉ r.2 := by decide
  rcases attrName_cases key with ⟨r, hr, heq⟩ | heq
  · rw [heq]; exact hrenamed r hr
  · rwa [heq]

theorem closesOnly_attr {x : Attr} {o : Text} (hx : '/' ∉ x.key) (h : attr? x = some o) : ClosesOnly S (' ' :: o) := by
  obtain ⟨v, -, rfl⟩ := Option.map_eq_some_iff.mp h
  have hkey : ClosesOnly S (' ' :: attrName x.key ++ ['=', '"']) :=
    closesOnly_of_not_mem_slash (by simpa using slash_not_mem_attrName hx)
  have hvalue : ClosesOnly S (escape v ++ ['"']) := closesOnly_of_not_mem_lt (by simpa using (not_mem_escape v).1)
  have := hkey.append hvalue (Or.inl (by simp [List.getLast?_cons, List.getLast?_append]))
  simpa using this

theorem closesOnly_attrs {as : List Attr} (h : ∀ a ∈ as, '/' ∉ a.key) : ClosesOnly S (attrs as) := by
  induction as with
  | nil => exact closesOnly_of_not_mem_lt (by simp [attrs])
  | cons x as ih =>
    have hrest := ih fun a ha => h a (List.mem_cons_of_mem x ha)
    cases hx : attr? x with
    | none => simpa [attrs, hx] using hrest
    | some o =>
      have hhead : (attrs as).head? ≠ some '/' := by
        unfold attrs
        cases as.filterMap attr? <;> simp
      have := (closesOnly_attr (h x List.mem_cons_self) hx).append hrest (Or.inr hhead)
      simpa [attrs, hx] using this

/-- A tag up to its end holds no closing tag. -/
theorem closesOnly_opener {name tail : Text} {as : List Attr} (hn : '/' ∉ name) (has : ∀ a ∈ as, '/' ∉ a.key)
    (ht : ClosesOnly S tail) (hhead : tail.head? ≠ some '/') : ClosesOnly S ('<' :: name ++ attrs as ++ tail) := by
  have hname : ClosesOnly S ('<' :: name) := closesOnly_of_not_mem_slash (by simpa using hn)
  have hattrs : (attrs as ++ tail).head? ≠ some '/' := by
    unfold attrs
    cases as.filterMap attr? <;> simp [hhead]
  rw [List.append_assoc]
  exact hname.append ((closesOnly_attrs has).append ht (Or.inr hhead)) (Or.inr hattrs)

theorem getLast?_node (n : Node) : (node n).getLast? ≠ some '<' := by
  cases n with
  | text t =>
    intro h
    exact (not_mem_escape t.trim).1 (List.mem_of_getLast? (by simpa [node] using h))
  | element name attrs children =>
    simp only [node]
    split <;> simp [List.getLast?_cons, List.getLast?_append]

/-- The names of the elements that are closed by a tag of their own. -/
def Closed (f : Forest) (name : Text) : Prop :=
  ∃ attrs children, .element name attrs children ∈ nodes f ∧ (children.isEmpty && voidElements.contains name) = false

mutual

theorem closing_of_node : ∀ n : Node, Every SlashFree [n] → ClosesOnly (Closed [n]) (node n)
  | .text t, _ => closesOnly_of_not_mem_lt (by simpa [node] using (not_mem_escape t.trim).1)
  | .element name as children, h => by
    obtain ⟨hname, has⟩ := h (.element name as children) (by simp [nodes, Markup.withInner])
    have hchildren : Every SlashFree children := fun n hn => h n (by simp [nodes, Markup.withInner, hn])
    simp only [node]
    split
    · exact closesOnly_opener hname has (closesOnly_of_not_mem_lt (by simp)) (by simp)
    · rename_i hself
      have hself' : (children.isEmpty && voidElements.contains name) = false := by simpa using hself
      have hinner : ClosesOnly (Closed [.element name as children]) (forest children) :=
        (closing_of_forest children hchildren).mono fun m ⟨attrs, cs, hm, hv⟩ =>
          ⟨attrs, cs, by simp [nodes, Markup.withInner, hm], hv⟩
      have hcloser : ClosesOnly (Closed [.element name as children]) ('<' :: '/' :: name ++ ['>']) :=
        closesOnly_closer ⟨as, children, by simp [nodes, Markup.withInner], hself'⟩ hname
      have hinside := hinner.append hcloser (Or.inr (by simp))
      have hbehind : ClosesOnly (Closed [.element name as children])
          (['>'] ++ (forest children ++ ('<' :: '/' :: name ++ ['>']))) :=
        (closesOnly_of_not_mem_lt (by simp)).append hinside (Or.inl (by simp))
      simpa using closesOnly_opener hname has hbehind (by simp)

/-- In what is written, `</` opens only the closing tag of an element that has one. -/
theorem closing_of_forest : ∀ f : List Node, Every SlashFree f → ClosesOnly (Closed f) (forest f)
  | [], _ => closesOnly_of_not_mem_lt (by simp [forest])
  | n :: rest, h => by
    have hn : Every SlashFree [n] := fun m hm => h m (by simp [nodes] at hm ⊢; exact Or.inl hm)
    have hrest : Every SlashFree rest := fun m hm => h m (by simp [nodes, hm])
    have h1 : ClosesOnly (Closed (n :: rest)) (node n) :=
      (closing_of_node n hn).mono fun m ⟨attrs, cs, hm, hv⟩ =>
        ⟨attrs, cs, by simp [nodes] at hm ⊢; exact Or.inl hm, hv⟩
    have h2 : ClosesOnly (Closed (n :: rest)) (forest rest) :=
      (closing_of_forest rest hrest).mono fun m ⟨attrs, cs, hm, hv⟩ => ⟨attrs, cs, by simp [nodes, hm], hv⟩
    exact h1.append h2 (Or.inl (getLast?_node n))

end

/-- The closing tag of a name is written only for an element of that name. -/
theorem closed_of_infix {f : Forest} {name : Text} (hf : Every SlashFree f) (hgt : ∀ name, Closed f name → '>' ∉ name)
    (hname : '>' ∉ name) (h : '<' :: '/' :: name ++ ['>'] <:+: forest f) : Closed f name := by
  obtain ⟨p, r, hpr⟩ := h
  obtain ⟨n, hn, hpre⟩ := closing_of_forest f hf p (name ++ '>' :: r) (by rw [← hpr]; simp)
  obtain ⟨r', hr'⟩ := hpre
  have run : ∀ {w : Text} (more : Text), '>' ∉ w → (w ++ '>' :: more).takeWhile (· != '>') = w := fun _ hw =>
    Text.takeWhile_run (Text.ne_of_not_mem hw) (by simp)
  have h1 := run r hname
  have h2 := run r' (hgt n hn)
  rw [← hr', List.append_assoc] at h1
  rw [← h1]
  exact h2.symm ▸ hn

end MarkupJsx.Jsx
