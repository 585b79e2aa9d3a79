/-
  MarkupJsx.Proofs.Component.Module — the module of a component and the JSX that it carries.

  Rule. What a module returns depends on its roots only by what is written for them. Roots
  that leave nothing behind do not count: with none left the module returns null, with one
  left it returns that root as it is written, and with several it returns all that is written
  in a fragment (`body_eq`). Nothing in a body is looked at again, whatever it may look like.

  `module_carries_jsx`: the text of a module, case by case, and that the module of a name
  determines the JSX in it: a root with a name of its own is not written like a fragment
  (`not_isFragment_node`), so neither is a body that is not one (`forest_of_body`).
-/

import MarkupJsx.Conversion
import MarkupJsx.Proofs.Jsx.Escape
import MarkupJsx.Proofs.Jsx.Writing
import MarkupJsx.Proofs.Markup.Growing

namespace MarkupJsx.Component

open Markup (Node Forest Every)

/-! ## Roots that show -/

/-- The roots for which something is written. -/
def writtenRoots (roots : Forest) : Forest := roots.filter fun n => Jsx.node n ≠ []

theorem writtenRoots_cons (n : Node) (rest : Forest) :
    writtenRoots (n :: rest) = if Jsx.node n = [] then writtenRoots rest else n :: writtenRoots rest := by
  by_cases hn : Jsx.node n = []
  · simp [writtenRoots, hn]
  · simp [writtenRoots, hn]

/-- The other roots are not missed. -/
theorem forest_writtenRoots (roots : Forest) : Jsx.forest (writtenRoots roots) = Jsx.forest roots := by
  induction roots with
  | nil => rfl
  | cons n rest ih =>
    rw [writtenRoots_cons, Jsx.forest]
    by_cases hn : Jsx.node n = []
    · rw [if_pos hn, hn, ih, List.nil_append]
    · rw [if_neg hn, Jsx.forest, ih]

theorem writtenRoots_eq_nil_iff {roots : Forest} : writtenRoots roots = [] ↔ Jsx.forest roots = [] := by
  induction roots with
  | nil => exact iff_of_true rfl rfl
  | cons n rest ih =>
    rw [writtenRoots_cons, Jsx.forest, List.append_eq_nil_iff, ← ih]
    by_cases hn : Jsx.node n = []
    · simp [hn]
    · simp [hn]

theorem map_node_writtenRoots (roots : Forest) : (roots.map Jsx.node).filter (· ≠ []) = (writtenRoots roots).map Jsx.node := by
  rw [List.filter_map]
  rfl

theorem flatten_map_node (roots : Forest) : (roots.map Jsx.node).flatten = Jsx.forest roots := by
  induction roots with
  | nil => rfl
  | cons n rest ih => rw [List.map_cons, List.flatten_cons, ih, Jsx.forest]

def fragment (jsx : Text) : Text := ['<', '>'] ++ jsx ++ ['<', '/', '>']

theorem fragment_ne_nil (jsx : Text) : fragment jsx ≠ [] := List.cons_ne_nil _ _

/-- The body is all that is written for the roots, in a fragment when several of them show. -/
theorem body_eq (roots : Forest) :
    body roots = if 1 < (writtenRoots roots).length then fragment (Jsx.forest roots) else Jsx.forest roots := by
  unfold body
  dsimp only
  rw [map_node_writtenRoots, List.length_map, flatten_map_node, forest_writtenRoots]
  rfl

theorem body_of_length_le {roots : Forest} (h : (writtenRoots roots).length ≤ 1) : body roots = Jsx.forest roots := by
  rw [body_eq, if_neg (by omega)]

theorem body_of_several {roots : Forest} (h : 1 < (writtenRoots roots).length) :
    body roots = fragment (Jsx.forest roots) := by
  rw [body_eq, if_pos h]

/-! ## The text of a module -/

def heading (name : Text) : Text := "export default function ".toList ++ name ++ "() \x7b\n".toList

def returnNull : Text := "  return null;\n".toList

def returnOf (jsx : Text) : Text := "  return (\n    ".toList ++ jsx ++ "\n  );\n".toList

def ending : Text := "\x7d\n".toList

theorem moduleText_nil (name : Text) : moduleText name [] = heading name ++ returnNull ++ ending := by
  unfold moduleText heading returnNull ending
  rw [List.isEmpty_nil, if_pos rfl]

theorem moduleText_of_ne_nil (name : Text) {jsx : Text} (h : jsx ≠ []) :
    moduleText name jsx = heading name ++ returnOf jsx ++ ending := by
  have hempty : jsx.isEmpty = false := List.isEmpty_eq_false_iff.mpr h
  unfold moduleText heading returnOf ending
  rw [hempty, if_neg Bool.false_ne_true]

theorem getElem?_of_front {a b c : Text} {i : Nat} {x : Char} (h : a[i]? = some x) : (a ++ b ++ c)[i]? = some x := by
  obtain ⟨hlength, -⟩ := List.getElem?_eq_some_iff.mp h
  rw [List.append_assoc, List.getElem?_append_left hlength, h]

/-- A return of null is not a return of anything else. -/
theorem returnNull_ne (jsx : Text) : returnNull ≠ returnOf jsx := by
  intro h
  -- they part behind `return`
  have hnull : returnNull[9]? = some 'n' := by decide +kernel
  have hopen : "  return (\n    ".toList[9]? = some '(' := by decide +kernel
  have hof : (returnOf jsx)[9]? = some '(' := getElem?_of_front hopen
  rw [h, hof] at hnull
  cases hnull

/-- A module shows its body. -/
theorem moduleText_inj {name body body' : Text} : moduleText name body = moduleText name body' ↔ body = body' := by
  constructor
  · intro h
    have cancel : ∀ {r r' : Text}, heading name ++ r ++ ending = heading name ++ r' ++ ending → r = r' := fun h =>
      List.append_cancel_left (List.append_cancel_right h)
    by_cases hbody : body = []
    · by_cases hbody' : body' = []
      · rw [hbody, hbody']
      · rw [hbody, moduleText_nil, moduleText_of_ne_nil name hbody'] at h
        exact absurd (cancel h) (returnNull_ne body')
    · by_cases hbody' : body' = []
      · rw [hbody', moduleText_nil, moduleText_of_ne_nil name hbody] at h
        exact absurd (cancel h).symm (returnNull_ne body)
      · rw [moduleText_of_ne_nil name hbody, moduleText_of_ne_nil name hbody'] at h
        exact List.append_cancel_left (List.append_cancel_right (cancel h))
  · rintro rfl
    rfl

theorem render_of_acceptsName {name : Text} (h : acceptsName name = true) (roots : Forest) :
    render name roots = .ok (moduleText name (body roots)) := by
  unfold render checkName
  rw [if_pos h]
  rfl

/-! ## The JSX in a module -/

/-- The name of an element is not empty, and nothing in it ends it. -/
def HasTagName : Node → Prop
  | .text _ => True
  | .element name _ _ => name ≠ [] ∧ ∀ c ∈ name, c ≠ ' ' ∧ c ≠ '/' ∧ c ≠ '>'

theorem not_mem_node_text (t : Text) : '<' ∉ Jsx.node (.text t) := by
  rw [Jsx.node]
  exact (Jsx.not_mem_escape t.trim).1

/-- No node with a name is written like a fragment. -/
theorem not_isFragment_node {n : Node} (h : HasTagName n) (jsx : Text) : Jsx.node n ≠ fragment jsx := by
  cases n with
  | text t =>
    intro hnode
    apply not_mem_node_text t
    rw [hnode]
    exact List.mem_cons_self
  | element name attrs children =>
    obtain ⟨hne, hchars⟩ := h
    obtain ⟨c, tail, rfl⟩ := List.exists_cons_of_ne_nil hne
    intro hnode
    have hsecond := congrArg (·[1]?) hnode
    have hc : c = '>' := by
      rw [Jsx.node] at hsecond
      split at hsecond
      · simpa [fragment] using hsecond
      · simpa [fragment] using hsecond
    exact (hchars c List.mem_cons_self).2.2 hc

theorem not_isFragment_of_length_le {roots : Forest} (h : Every HasTagName roots) (hlength : (writtenRoots roots).length ≤ 1)
    (jsx : Text) : Jsx.forest roots ≠ fragment jsx := by
  rw [← forest_writtenRoots]
  rcases hroots : writtenRoots roots with _ | ⟨n, rest⟩
  · intro hnil
    cases hnil
  · rw [hroots, List.length_cons] at hlength
    have hrest : rest = [] := List.eq_nil_of_length_eq_zero (by omega)
    have hmem : n ∈ roots := by
      have hn : n ∈ writtenRoots roots := by rw [hroots]; exact List.mem_cons_self
      exact (List.mem_filter.mp hn).1
    rw [hrest, Jsx.forest_singleton]
    exact not_isFragment_node (h n (Markup.mem_nodes_of_mem hmem)) jsx

/-- The body determines the JSX. -/
theorem forest_of_body {roots roots' : Forest} (h : Every HasTagName roots) (h' : Every HasTagName roots')
    (hbody : body roots' = body roots) : Jsx.forest roots' = Jsx.forest roots := by
  by_cases hone : (writtenRoots roots).length ≤ 1
  · rw [body_of_length_le hone] at hbody
    by_cases hone' : (writtenRoots roots').length ≤ 1
    · rwa [body_of_length_le hone'] at hbody
    · rw [body_of_several (Nat.not_le.mp hone')] at hbody
      exact absurd hbody.symm (not_isFragment_of_length_le h hone _)
  · rw [body_of_several (Nat.not_le.mp hone)] at hbody
    by_cases hone' : (writtenRoots roots').length ≤ 1
    · rw [body_of_length_le hone'] at hbody
      exact absurd hbody (not_isFragment_of_length_le h' hone' _)
    · rw [body_of_several (Nat.not_le.mp hone')] at hbody
      exact List.append_cancel_left (List.append_cancel_right hbody)

/-- Two or more of the roots that a markup text describes show. -/
def ShowsSeveral (markup : Text) : Prop := ∃ roots, Markup.parse markup = .ok roots ∧ 1 < (writtenRoots roots).length

/-- A markup text makes a module by no more than its JSX and whether several roots show. -/
theorem output_of_convert {markup markup' : Text} (name : Text) (hconvert : convert markup' = convert markup)
    (hseveral : ShowsSeveral markup' ↔ ShowsSeveral markup) : output markup' (some name) = output markup (some name) := by
  unfold ShowsSeveral at hseveral
  unfold convert at hconvert
  unfold output
  cases hparse : Markup.parse markup with
  | error e =>
    cases hparse' : Markup.parse markup' with
    | error e' =>
      rw [hparse, hparse'] at hconvert
      cases hconvert
      rfl
    | ok roots' => rw [hparse, hparse'] at hconvert; cases hconvert
  | ok roots =>
    cases hparse' : Markup.parse markup' with
    | error e' => rw [hparse, hparse'] at hconvert; cases hconvert
    | ok roots' =>
      rw [hparse, hparse'] at hconvert hseveral
      have hforest : Jsx.forest roots' = Jsx.forest roots := Except.ok.inj hconvert
      have hcount : 1 < (writtenRoots roots').length ↔ 1 < (writtenRoots roots).length := by simpa using hseveral
      have hbody : body roots' = body roots := by simp only [body_eq, hforest, hcount]
      show (render name roots').mapError _ = (render name roots).mapError _
      rw [render, render, hbody]

/-- A module of an accepted name has the JSX of its roots in it: nothing when there is none,
    and otherwise all of it as it is, in a fragment when several roots show. So the modules of
    one name are told apart by their JSX, and a markup text makes its module by its JSX and
    the number of its roots that show. -/
theorem module_carries_jsx {name : Text} (hname : acceptsName name = true) (roots : Forest) :
    (render name roots = .ok (heading name ++ returnNull ++ ending) ↔ Jsx.forest roots = []) ∧
      ((writtenRoots roots).length = 1 →
        render name roots = .ok (heading name ++ returnOf (Jsx.forest roots) ++ ending)) ∧
      (2 ≤ (writtenRoots roots).length →
        render name roots = .ok (heading name ++ returnOf (fragment (Jsx.forest roots)) ++ ending)) ∧
      ((writtenRoots roots).length = 0 ↔ Jsx.forest roots = []) ∧
      (∀ roots', Every HasTagName roots → Every HasTagName roots' → render name roots' = render name roots →
        Jsx.forest roots' = Jsx.forest roots) ∧
      ∀ markup markup', convert markup' = convert markup → (ShowsSeveral markup' ↔ ShowsSeveral markup) →
        output markup' (some name) = output markup (some name) := by
  have hcount : (writtenRoots roots).length = 0 ↔ Jsx.forest roots = [] := by
    rw [List.length_eq_zero_iff, writtenRoots_eq_nil_iff]
  have hrender := render_of_acceptsName hname
  refine ⟨?_, fun hone => ?_, fun htwo => ?_, hcount, fun roots' h h' heq => ?_, fun _ _ => output_of_convert name⟩
  · rw [hrender, ← moduleText_nil, Except.ok.injEq, moduleText_inj]
    constructor
    · intro hbody
      by_cases hle : (writtenRoots roots).length ≤ 1
      · rwa [body_of_length_le hle] at hbody
      · rw [body_of_several (Nat.not_le.mp hle)] at hbody
        exact absurd hbody (fragment_ne_nil _)
    · intro hnil
      have hle : (writtenRoots roots).length ≤ 1 := by rw [hcount.mpr hnil]; omega
      rw [body_of_length_le hle, hnil]
  · have hne : Jsx.forest roots ≠ [] := by
      intro hnil
      have := hcount.mpr hnil
      omega
    rw [hrender, body_of_length_le (Nat.le_of_eq hone), moduleText_of_ne_nil name hne]
  · rw [hrender, body_of_several htwo, moduleText_of_ne_nil name (fragment_ne_nil _)]
  · rw [hrender, hrender, Except.ok.injEq, moduleText_inj] at heq
    exact forest_of_body h h' heq

/-- A text that looks like part of a template, one of blanks only, and an element. -/
def templateRoots : Forest :=
  [.text "\x7b\x7b body \x7d\x7d\n\x7b% else %\x7d".toList, .text [' ', '\n'], .element ['h', 'r'] [] []]

/-- The name comes with a line feed behind it. -/
theorem module_carries_template : acceptsName ['A', '\n'] = true ∧ 2 ≤ (writtenRoots templateRoots).length ∧
    render ['A', '\n'] templateRoots = .ok
      ("export default function A\n() \x7b\n  return (\n    " ++
        "<>\x7b\x7b body \x7d\x7d\n\x7b% else %\x7d<hr /></>\n  );\n\x7d\n").toList := by
  have hname : acceptsName ['A', '\n'] = true := by decide
  have htext : (heading ['A', '\n'] ++ returnOf (fragment (Jsx.forest templateRoots)) ++ ending) =
      ("export default function A\n() \x7b\n  return (\n    " ++
        "<>\x7b\x7b body \x7d\x7d\n\x7b% else %\x7d<hr /></>\n  );\n\x7d\n").toList := by decide +kernel
  have htwo : 2 ≤ (writtenRoots templateRoots).length := by decide
  exact ⟨hname, htwo, ((module_carries_jsx hname templateRoots).2.2.1 htwo).trans (congrArg Except.ok htext)⟩

end MarkupJsx.Component
