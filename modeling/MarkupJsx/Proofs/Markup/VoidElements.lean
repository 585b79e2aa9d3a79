/-
  MarkupJsx.Proofs.Markup.VoidElements — void elements have no children, and are written
  without a closing tag.

  Whichever way a void element is written, it is closed as it is opened, so nothing comes to
  stand in it (`isEmptyIfVoid_of_parse`). End tags that are owed, paid or without an element
  change the elements around, and never open a void one again. The names and the keys of
  parsed elements hold neither a slash nor the end of a tag (`contained_of_parse`); so what
  is written for a document holds no closing tag of a void name (`void_elements_stay_empty`).
-/

import MarkupJsx.Proofs.Jsx.Closing
import MarkupJsx.Proofs.Markup.WellFormed

namespace MarkupJsx.Markup

/-! ## No children -/

theorem makes_isEmptyIfVoid (t : Tag) : Growth.Makes IsEmptyIfVoid t := by
  unfold Growth.Makes
  split
  · exact fun _ => rfl
  · rename_i h
    intro children _ hvoid
    simp only [Growth.closesAtOnce, Bool.or_eq_true, not_or] at h
    exact absurd hvoid h.2

theorem isEmptyIfVoid_of_parse {s : Text} {f : Forest} (h : parse s = .ok f) : Every IsEmptyIfVoid f :=
  every_of_parse (fun _ => trivial) (fun t _ => makes_isEmptyIfVoid t) h

/-! ## Names and keys -/

/-- What neither names nor keys may hold: the characters that end a tag. -/
def IsContained : Node → Prop
  | .text _ => True
  | .element name attrs _ => '/' ∉ name ∧ '>' ∉ name ∧ ∀ a ∈ attrs, '/' ∉ a.key ∧ '>' ∉ a.key

theorem contained_of_parse {s : Text} {f : Forest} (h : parse s = .ok f) : Every IsContained f := by
  intro n hn
  have hform := wellFormed_of_parse h n hn
  cases n with
  | text t => trivial
  | element name attrs children =>
    obtain ⟨hname, hattrs, -⟩ := hform
    exact ⟨hname.2 '/' (by decide), hname.2 '>' (by decide), fun a ha => not_mem_of_isKey (hattrs a ha).1⟩

/-! ## No closing tags -/

theorem gt_not_mem_jsxVoid : ∀ name ∈ Jsx.voidElements, '>' ∉ name := by decide

theorem slashFree_of_contained {f : Forest} (h : Every IsContained f) : Every Jsx.SlashFree f := by
  intro n hn
  cases n with
  | text t => trivial
  | element name attrs children =>
    obtain ⟨hname, -, hattrs⟩ := h _ hn
    exact ⟨hname, fun a ha => (hattrs a ha).1⟩

/-- In a parsed document no void element, at any depth, has children; and what is written
    for the document closes none of the names that are written as one tag. -/
theorem void_elements_stay_empty {s : Text} {f : Forest} (h : parse s = .ok f) :
    (∀ name attrs children, .element name attrs children ∈ nodes f → voidElements.contains name = true → children = []) ∧
      ∃ jsx, convert s = .ok jsx ∧ ∀ name ∈ Jsx.voidElements, ¬ '<' :: '/' :: name ++ ['>'] <:+: jsx := by
  have hempty := isEmptyIfVoid_of_parse h
  have hcontained := contained_of_parse h
  refine ⟨fun name attrs children hn => hempty _ hn, Jsx.forest f, by rw [convert, h]; rfl, fun name hname hin => ?_⟩
  have hgt : ∀ name, Jsx.Closed f name → '>' ∉ name := by
    rintro name ⟨_, _, hn, _⟩
    exact (hcontained _ hn).2.1
  obtain ⟨attrs, children, hn, hclosed⟩ :=
    Jsx.closed_of_infix (slashFree_of_contained hcontained) hgt (gt_not_mem_jsxVoid name hname) hin
  have hnil : children = [] := hempty _ hn (Jsx.void_of_jsxVoid name hname)
  simp [hnil, hname] at hclosed

/-- `<br>a<br/>b</br>c</br>`: the first end tag is owed, and the second one closes nothing. -/
def brokenLines : Text :=
  ['<', 'b', 'r', '>', 'a', '<', 'b', 'r', '/', '>', 'b', '<', '/', 'b', 'r', '>', 'c', '<', '/', 'b', 'r', '>']

theorem void_elements_stay_empty_brokenLines :
    parse brokenLines = .ok [.element ['b', 'r'] [] [], .text ['a'], .element ['b', 'r'] [] [], .text ['b', 'c']] ∧
      ∃ jsx, convert brokenLines = .ok jsx ∧ ∀ name ∈ Jsx.voidElements, ¬ '<' :: '/' :: name ++ ['>'] <:+: jsx := by
  have h : parse brokenLines =
      .ok [.element ['b', 'r'] [] [], .text ['a'], .element ['b', 'r'] [] [], .text ['b', 'c']] := by
    with_unfolding_all rfl
  exact ⟨h, (void_elements_stay_empty h).2⟩

end MarkupJsx.Markup
