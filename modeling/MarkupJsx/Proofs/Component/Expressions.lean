/-
  MarkupJsx.Proofs.Component.Expressions — what the module of a component returns, as JSX.

  Rule. What stands behind `return` has to be one JSX expression: an element or a fragment,
  from its opening tag to the closing tag of that tag. Siblings are no expression, and a text
  is JSX only where it stands inside a tag.

  A parsed document is lexical, so its one root is told from what is written for it
  (`isExpression_element`), and so are several roots in their fragment
  (`isExpression_fragment`). A root that is a text is returned as it is, and that is no
  expression (`lone_text_returned_bare`). It is the only case:
  `module_returns_expression_iff`.
-/

import MarkupJsx.Proofs.Component.Module
import MarkupJsx.Proofs.Jsx.Reader
import MarkupJsx.Proofs.Markup.WellFormed

namespace MarkupJsx.Component

open Jsx (Token Pair Balanced Row Lexical lex? tokens)
open Markup (Attr Node Forest Every)

/-! ## Expressions -/

/-- The tokens of one element or of one fragment. What stands between the two tags is
    balanced, so the last tag is the one that closes the first. -/
inductive IsOne : List Token → Prop
  | single {name : Text} (ps : List Pair) : name ≠ [] → IsOne [.single name ps]
  | element {name : Text} {inner : List Token} (ps : List Pair) :
      name ≠ [] → Balanced inner → IsOne (.opener name ps :: inner ++ [.closer name])
  | fragment {inner : List Token} : Balanced inner → IsOne (.opener [] [] :: inner ++ [.closer []])

def IsExpression (jsx : Text) : Prop := ∃ ts, lex? jsx = some ts ∧ IsOne ts

theorem head?_of_isExpression {jsx : Text} (h : IsExpression jsx) : jsx.head? = some '<' := by
  obtain ⟨ts, hlex, hone⟩ := h
  obtain ⟨-, rfl⟩ := Jsx.lex?_eq_some_iff.mp hlex
  cases hone with
  | single ps _ => simp [Token.written]
  | element ps _ _ => simp [Token.written]
  | fragment _ => simp [Token.written]

theorem not_isExpression_text (t : Text) : ¬ IsExpression (Jsx.node (.text t)) := by
  intro h
  exact not_mem_node_text t (List.mem_of_head? (head?_of_isExpression h))

theorem isExpression_element {name : Text} {attrs : List Attr} {children : Forest}
    (h : Every Lexical [.element name attrs children]) : IsExpression (Jsx.node (.element name attrs children)) := by
  have hname : name ≠ [] := (Markup.every_element.mp h).1.1
  refine ⟨tokens [.element name attrs children], ?_, ?_⟩
  · rw [← Jsx.forest_singleton]
    exact Jsx.lex?_forest h
  · show IsOne (Jsx.nodeTokens (.element name attrs children) [])
    rw [Jsx.nodeTokens]
    split
    · exact .single _ hname
    · exact .element _ hname (Jsx.describes_tokens children).balanced

theorem isExpression_fragment {roots : Forest} (h : Every Lexical roots) : IsExpression (fragment (Jsx.forest roots)) := by
  refine ⟨.opener [] [] :: tokens roots ++ [.closer []], ?_, .fragment (Jsx.describes_tokens roots).balanced⟩
  apply Jsx.lex?_eq_some_iff.mpr
  constructor
  · -- the tags of a fragment have no name and no attributes, so nothing can end them early
    have hcloser : Row [.closer []] := .cons List.not_mem_nil (fun hf => (by cases hf)) .nil
    have hinner := (Jsx.row_tokens roots h).append hcloser (Jsx.beginsWithTag_cons rfl)
    exact .cons ⟨fun _ hc => (by cases hc), fun _ hp => (by cases hp)⟩ (fun hf => (by cases hf)) hinner
  · rw [List.cons_append, List.flatMap_cons, List.flatMap_append, Jsx.written_tokens]
    rfl

/-! ## Bodies -/

theorem every_writtenRoots {P : Node → Prop} {roots : Forest} (h : Every P roots) : Every P (writtenRoots roots) := by
  induction roots with
  | nil => exact h
  | cons n rest ih =>
    obtain ⟨hn, hrest⟩ := Markup.every_cons.mp h
    rw [writtenRoots_cons]
    by_cases hnil : Jsx.node n = []
    · rw [if_pos hnil]
      exact ih hrest
    · rw [if_neg hnil]
      exact Markup.every_cons.mpr ⟨hn, ih hrest⟩

/-- With one root that shows, the body is what is written for it, which is something. -/
theorem body_of_one {roots : Forest} {n : Node} (h : writtenRoots roots = [n]) :
    body roots = Jsx.node n ∧ Jsx.node n ≠ [] := by
  have hlength : (writtenRoots roots).length ≤ 1 := by rw [h]; exact Nat.le_refl 1
  constructor
  · rw [body_of_length_le hlength, ← forest_writtenRoots, h, Jsx.forest_singleton]
  · have hmem : n ∈ writtenRoots roots := by rw [h]; exact List.mem_cons_self
    simpa using (List.mem_filter.mp hmem).2

theorem body_isExpression_iff {roots : Forest} (h : Every Lexical roots) :
    (body roots = [] ∨ IsExpression (body roots)) ↔ ∀ t, writtenRoots roots ≠ [.text t] := by
  rcases hroots : writtenRoots roots with _ | ⟨n, _ | ⟨m, rest⟩⟩
  · -- nothing shows
    have hbody : body roots = [] := by
      rw [body_of_length_le (by rw [hroots]; exact Nat.zero_le 1), writtenRoots_eq_nil_iff.mp hroots]
    refine iff_of_true (Or.inl hbody) fun t ht => ?_
    cases ht
  · obtain ⟨hbody, hne⟩ := body_of_one hroots
    rw [hbody]
    cases n with
    | text t =>
      apply iff_of_false
      · rintro (hnil | hexpr)
        · exact hne hnil
        · exact not_isExpression_text t hexpr
      · intro hnone
        exact hnone t rfl
    | element name attrs children =>
      have hn := every_writtenRoots h
      rw [hroots] at hn
      refine iff_of_true (Or.inr (isExpression_element hn)) fun t ht => ?_
      cases ht
  · have hseveral : 1 < (writtenRoots roots).length := by
      rw [hroots, List.length_cons, List.length_cons]
      omega
    refine iff_of_true (Or.inr ?_) fun t ht => ?_
    · rw [body_of_several hseveral]
      exact isExpression_fragment h
    · cases ht

/-! ## Modules -/

/-- The module of the name returns null, or one expression. -/
def ReturnsExpression (name text : Text) : Prop :=
  text = heading name ++ returnNull ++ ending ∨
    ∃ jsx, IsExpression jsx ∧ text = heading name ++ returnOf jsx ++ ending

theorem returnsExpression_moduleText {name body : Text} :
    ReturnsExpression name (moduleText name body) ↔ body = [] ∨ IsExpression body := by
  have hof : ∀ {jsx : Text}, IsExpression jsx → moduleText name jsx = heading name ++ returnOf jsx ++ ending := by
    intro jsx hjsx
    apply moduleText_of_ne_nil
    rintro rfl
    cases head?_of_isExpression hjsx
  constructor
  · rintro (hnull | ⟨jsx, hjsx, heq⟩)
    · rw [← moduleText_nil, moduleText_inj] at hnull
      exact Or.inl hnull
    · rw [← hof hjsx, moduleText_inj] at heq
      rw [heq]
      exact Or.inr hjsx
  · rintro (rfl | hexpr)
    · exact Or.inl (moduleText_nil name)
    · exact Or.inr ⟨body, hexpr, hof hexpr⟩

/-- Every document has a module under an accepted name, and the module returns null or one
    expression but for one case: when a text is all that shows of the document, the module
    returns that text, trimmed and escaped, with no tag around it. -/
theorem module_returns_expression_iff {name markup : Text} {roots : Forest} (hname : acceptsName name = true)
    (h : Markup.parse markup = .ok roots) :
    ∃ text, render name roots = .ok text ∧
      (ReturnsExpression name text ↔ ∀ t, writtenRoots roots ≠ [.text t]) ∧
      ∀ t, writtenRoots roots = [.text t] → text = heading name ++ returnOf (Jsx.escape t.trim) ++ ending := by
  have hlexical := Markup.lexical_of_wellFormed (Markup.wellFormed_of_parse h)
  refine ⟨moduleText name (body roots), render_of_acceptsName hname roots, ?_, fun t ht => ?_⟩
  · rw [returnsExpression_moduleText]
    exact body_isExpression_iff hlexical
  · obtain ⟨hbody, hne⟩ := body_of_one ht
    rw [hbody, moduleText_of_ne_nil name hne, Jsx.node]

/-- A blank text, a void element with a text behind it: two roots show. -/
theorem module_returns_expression_fragment :
    acceptsName ['P'] = true ∧ Markup.parse " <br>x".toList = .ok [.text [' '], .element ['b', 'r'] [] [], .text ['x']] ∧
      ∃ text, render ['P'] [.text [' '], .element ['b', 'r'] [] [], .text ['x']] = .ok text ∧
        ReturnsExpression ['P'] text := by
  have hname : acceptsName ['P'] = true := by decide
  have h : Markup.parse " <br>x".toList = .ok [.text [' '], .element ['b', 'r'] [] [], .text ['x']] := by
    with_unfolding_all rfl
  obtain ⟨text, hrender, hiff, -⟩ := module_returns_expression_iff hname h
  refine ⟨hname, h, text, hrender, hiff.mpr fun t ht => ?_⟩
  cases ht

/-- A document of one text, by contrast, is returned without a tag: to the reader of the
    module `hi` is a variable. -/
theorem lone_text_returned_bare :
    acceptsName "Hello".toList = true ∧ Markup.parse "hi".toList = .ok [.text "hi".toList] ∧
      ∃ text, render "Hello".toList [.text "hi".toList] = .ok text ∧
        text = "export default function Hello() \x7b\n  return (\n    hi\n  );\n\x7d\n".toList ∧
        ¬ ReturnsExpression "Hello".toList text := by
  have hname : acceptsName "Hello".toList = true := by decide
  have h : Markup.parse "hi".toList = .ok [.text "hi".toList] := by with_unfolding_all rfl
  have hroots : writtenRoots [.text "hi".toList] = [.text "hi".toList] := by with_unfolding_all rfl
  have hlexical := Markup.lexical_of_wellFormed (Markup.wellFormed_of_parse h)
  refine ⟨hname, h, _, render_of_acceptsName hname _, by decide +kernel, ?_⟩
  rw [returnsExpression_moduleText, body_isExpression_iff hlexical]
  intro hnone
  exact hnone _ hroots

end MarkupJsx.Component
