/-
  MarkupJsx.Proofs.Jsx.Normal — the normal form of a forest, which is all that its JSX shows.

  In normal form keys have their JSX names and every attribute has a value. Texts are
  trimmed, none is empty and no two are next to each other. A forest whose void elements are
  empty is written like its normal form (`forest_norm`).
-/

import MarkupJsx.Proofs.Jsx.Escape
import MarkupJsx.Proofs.Jsx.Writing
import MarkupJsx.Proofs.Markup.Growing
import MarkupJsx.Proofs.Text.Trim

namespace MarkupJsx.Jsx

open Markup (Attr Node Forest Every IsEmptyIfVoid nodes)
open Text (Trimmed)

def normAttrs (as : List Attr) : List Attr :=
  as.filterMap fun a => a.value.map fun v => ⟨attrName a.key, some v⟩

/-- A text in front of a forest: an empty one is dropped, and one that meets a text merges
    with it. -/
def pushText (t : Text) : Forest → Forest
  | .text t' :: rest => .text (t ++ t') :: rest
  | f => if t = [] then f else .text t :: f

mutual

/-- A node in front of a forest that is in normal form. -/
def normNode : Node → Forest → Forest
  | .text t, f => pushText t.trim f
  | .element name as children, f => .element name (normAttrs as) (norm children) :: f

def norm : List Node → List Node
  | [] => []
  | n :: rest => normNode n (norm rest)

end

/-! ## Pushing texts -/

@[simp] theorem pushText_nil (f : Forest) : pushText [] f = f := by
  unfold pushText
  split <;> simp

theorem pushText_pushText (t t' : Text) (f : Forest) : pushText t (pushText t' f) = pushText (t ++ t') f := by
  cases f with
  | nil => by_cases h : t' = [] <;> simp [pushText, h]
  | cons n rest =>
    cases n with
    | text u => simp [pushText]
    | element name as children => by_cases h : t' = [] <;> simp [pushText, h]

theorem pushText_element (t : Text) (name : Text) (as : List Attr) (children rest : Forest) :
    pushText t (.element name as children :: rest) = pushText t [] ++ .element name as children :: rest := by
  by_cases h : t = [] <;> simp [pushText, h]

/-! ## The same JSX -/

theorem attrName_attrName (key : Text) : attrName (attrName key) = attrName key := by
  have hrenamed : ∀ r ∈ renames, attrName r.2 = r.2 := by decide
  rcases attrName_cases key with ⟨r, hr, heq⟩ | heq
  · rw [heq]; exact hrenamed r hr
  · rw [heq, heq]

theorem attrs_normAttrs (as : List Attr) : attrs (normAttrs as) = attrs as := by
  suffices (normAttrs as).filterMap attr? = as.filterMap attr? by rw [attrs, attrs, this]
  induction as with
  | nil => rfl
  | cons a as ih =>
    obtain ⟨key, value⟩ := a
    unfold normAttrs at ih
    cases value with
    | none => simpa [normAttrs, attr?] using ih
    | some v => simpa [normAttrs, attr?, attrName_attrName] using ih

/-- A text at the head of the forest is trimmed. -/
def HeadTrimmed (f : Forest) : Prop := ∀ t, f.head? = some (.text t) → Trimmed t

theorem headTrimmed_pushText {t : Text} {f : Forest} (ht : Trimmed t) (hf : HeadTrimmed f) :
    HeadTrimmed (pushText t f) := by
  intro u hu
  unfold pushText at hu
  split at hu
  · cases hu
    exact ht.append (hf _ rfl)
  · split at hu
    · exact hf u hu
    · cases hu
      exact ht

theorem headTrimmed_norm (f : Forest) : HeadTrimmed (norm f) := by
  induction f with
  | nil => intro t h; cases h
  | cons n rest ih =>
    cases n with
    | text t => exact headTrimmed_pushText (Text.trimmed_trim t) ih
    | element name as children => intro t h; cases h

theorem forest_pushText {t : Text} {f : Forest} (ht : Trimmed t) (hf : HeadTrimmed f) :
    forest (pushText t f) = escape t ++ forest f := by
  unfold pushText
  split
  · rename_i t' rest
    have ht' : Trimmed t' := hf t' rfl
    simp only [forest, node, (ht.append ht').trim_eq, ht'.trim_eq, escape_append, List.append_assoc]
  · split
    · rename_i hnil
      rw [hnil]
      rfl
    · simp only [forest, node, ht.trim_eq]

mutual

theorem forest_normNode : ∀ (n : Node) {f : Forest}, Every IsEmptyIfVoid [n] → HeadTrimmed f →
    forest (normNode n f) = node n ++ forest f
  | .text t, f, _, hf => forest_pushText (Text.trimmed_trim t) hf
  | .element name as children, f, h, _ => by
    obtain ⟨hempty, hchildren⟩ := Markup.every_element.mp h
    have hnode : node (.element name (normAttrs as) (norm children)) = node (.element name as children) := by
      cases hv : Markup.voidElements.contains name with
      | true =>
        obtain rfl : children = [] := hempty hv
        simp only [norm, node, attrs_normAttrs]
      | false => rw [node_open hv, node_open hv, attrs_normAttrs, forest_norm children hchildren]
    rw [normNode, forest, hnode]

/-- A forest is written like its normal form. -/
theorem forest_norm : ∀ f : List Node, Every IsEmptyIfVoid f → forest (norm f) = forest f
  | [], _ => rfl
  | n :: rest, h => by
    obtain ⟨hn, hrest⟩ := Markup.every_cons.mp h
    rw [norm, forest_normNode n hn (headTrimmed_norm rest), forest_norm rest hrest, forest]

end

end MarkupJsx.Jsx
