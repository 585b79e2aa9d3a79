/-
  MarkupJsx.Proofs.Component.Identifiers — which names a component can have.

  Rule. A name is asked about in three places: where a command is given it, where a module is
  rendered, and where a manifest lists it. A manifest takes the identifiers only
  (`ofValue_jobEntries`). The two others look past one line feed at the end
  (`acceptsName_iff`), so they take an identifier with a line feed behind it as well, and
  nothing else.

  `name_gates_agree_iff`: the three agree on every text but these. A module has its heading on
  one line, with an identifier in it, if and only if its name is an identifier. With a line
  feed behind the name (`name_with_lineFeed`) the heading is broken in two.
-/

import Mathlib.Data.List.Basic
import MarkupJsx.Command.Run
import MarkupJsx.Proofs.Component.Module
import MarkupJsx.Proofs.Manifest.Names
import MarkupJsx.Proofs.Text.Runs

namespace MarkupJsx

namespace Component

variable {s name : Text}

/-! ## Identifiers -/

/-- A capital, and behind it any number of ASCII letters, digits and bars. -/
def IsPlainName (s : Text) : Prop :=
  ∃ c rest, s = c :: rest ∧ ('A' ≤ c ∧ c ≤ 'Z') ∧
    ∀ x ∈ rest, ('A' ≤ x ∧ x ≤ 'Z') ∨ ('a' ≤ x ∧ x ≤ 'z') ∨ ('0' ≤ x ∧ x ≤ '9') ∨ x = '_'

theorem isWordChar_iff (c : Char) :
    isWordChar c = true ↔ ('A' ≤ c ∧ c ≤ 'Z') ∨ ('a' ≤ c ∧ c ≤ 'z') ∨ ('0' ≤ c ∧ c ≤ '9') ∨ c = '_' := by
  simp only [isWordChar, Text.isAlphanumeric, Text.isLetter, Text.isDigit, Bool.or_eq_true, Bool.and_eq_true,
    decide_eq_true_eq, beq_iff_eq]
  rw [or_comm (a := 'a' ≤ c ∧ c ≤ 'z')]
  simp only [or_assoc]

theorem isIdentifier_iff : isIdentifier s = true ↔ IsPlainName s := by
  cases s with
  | nil => exact iff_of_false nofun fun ⟨_, _, h, _⟩ => nomatch h
  | cons c rest =>
    simp only [isIdentifier, isCapital, Bool.and_eq_true, decide_eq_true_eq, List.all_eq_true, isWordChar_iff]
    constructor
    · rintro ⟨hc, hrest⟩
      exact ⟨c, rest, rfl, hc, hrest⟩
    · rintro ⟨_, _, heq, hc, hrest⟩
      obtain ⟨rfl, rfl⟩ := List.cons.inj heq
      exact ⟨hc, hrest⟩

instance : DecidablePred IsPlainName := fun _ => decidable_of_iff _ isIdentifier_iff

theorem IsPlainName.wordChars (h : IsPlainName s) : ∀ c ∈ s, isWordChar c = true :=
  isWordChar_of_isIdentifier (isIdentifier_iff.mpr h)

/-- A name from outside is an identifier, perhaps with a line feed behind it. -/
theorem acceptsName_iff : acceptsName s = true ↔ IsPlainName s ∨ ∃ name, IsPlainName name ∧ s = name ++ ['\n'] := by
  unfold acceptsName dropFinalLineFeed
  split
  · rename_i hlast
    have hs : s = s.dropLast ++ ['\n'] := (List.dropLast_append_getLast? '\n' hlast).symm
    rw [isIdentifier_iff]
    constructor
    · exact fun h => .inr ⟨s.dropLast, h, hs⟩
    · rintro (h | ⟨name, h, heq⟩)
      · exact absurd (h.wordChars '\n' (List.mem_of_getLast? hlast)) (by decide)
      · rwa [heq, List.dropLast_concat]
  · rename_i hlast
    rw [isIdentifier_iff]
    refine ⟨.inl, ?_⟩
    rintro (h | ⟨name, -, rfl⟩)
    · exact h
    · simp at hlast

theorem not_isPlainName_lineFeed (name : Text) : ¬IsPlainName (name ++ ['\n']) := fun h =>
  absurd (h.wordChars '\n' (by simp)) (by decide)

/-! ## The gates -/

theorem render_eq_ok_iff {roots : Markup.Forest} : (∃ t, render s roots = .ok t) ↔ acceptsName s = true := by
  unfold render checkName
  split
  · rename_i h
    exact iff_of_true ⟨_, rfl⟩ h
  · rename_i h
    exact iff_of_false (fun ⟨_, ht⟩ => nomatch ht) h

end Component

theorem Command.componentName_eq_self_iff {s : Text} (hs : s ≠ []) (source : Text) :
    componentName (some s) source = .ok (some s) ↔ Component.acceptsName s = true := by
  have hne : s.isEmpty = false := List.isEmpty_eq_false_iff.mpr hs
  simp only [componentName, hne, Component.checkName, Bool.false_eq_true, if_false]
  split
  · rename_i h
    exact iff_of_true rfl h
  · rename_i h
    refine iff_of_false (fun hok => ?_) h
    cases hok

namespace Manifest

open Yaml (Atom Value)

/-- A mapping with the three fields of a job. -/
def jobEntries (input output component : WideText) : List (Atom × Value) :=
  [(.text (.ofText inputKey), .atom (.text input)), (.text (.ofText outputKey), .atom (.text output)),
    (.text (.ofText componentKey), .atom (.text component))]

theorem ofValue_jobEntries (place : List Step) (input output : WideText) (s : Text) :
    Job.ofValue place (.map (jobEntries input output (.ofText s))) =
      if Component.isIdentifier s then .ok ⟨Path.ofWide input, Path.ofWide output, some s⟩
      else .error [⟨place ++ [.key componentKey], .notIdentifier⟩] := by
  have hinput : fieldOf inputKey (jobEntries input output (.ofText s)) = some (.atom (.text input)) := rfl
  have houtput : fieldOf outputKey (jobEntries input output (.ofText s)) = some (.atom (.text output)) := rfl
  have hcomponent : fieldOf componentKey (jobEntries input output (.ofText s)) = some (.atom (.text (.ofText s))) := rfl
  have hbroken : hasBrokenKey (jobEntries input output (.ofText s)) = false := rfl
  have hothers : otherKeys [inputKey, outputKey, componentKey] place (jobEntries input output (.ofText s)) = [] := rfl
  cases hs : Component.isIdentifier s with
  | true =>
    simp only [Job.ofValue, hbroken, Job.ofEntries, pathField, componentField, hinput, houtput, hcomponent, hothers,
      WideText.toText?_ofText, checkIdentifier, hs, Bool.false_eq_true, if_false, if_true]
  | false =>
    simp only [Job.ofValue, hbroken, Job.ofEntries, pathField, componentField, hinput, houtput, hcomponent, hothers,
      WideText.toText?_ofText, checkIdentifier, hs, Bool.false_eq_true, if_false, issuesOf, List.nil_append,
      List.append_nil]

theorem ofValue_jobEntries_iff (place : List Step) (input output : WideText) (s : Text) :
    (∃ j, Job.ofValue place (.map (jobEntries input output (.ofText s))) = .ok j) ↔ Component.IsPlainName s := by
  rw [ofValue_jobEntries, ← Component.isIdentifier_iff]
  split
  · rename_i h
    exact iff_of_true ⟨_, rfl⟩ h
  · rename_i h
    exact iff_of_false (fun ⟨_, hj⟩ => nomatch hj) h

end Manifest

namespace Component

open Manifest (Job Step jobEntries)

variable {s t : Text}

/-! ## Headings -/

/-- The text begins with the heading of a module, on one line and with an identifier in it. -/
def HasHeading (t : Text) : Prop := ∃ name after, IsPlainName name ∧ t = heading name ++ after

theorem exists_moduleText_eq (name body : Text) : ∃ after, moduleText name body = heading name ++ after := by
  by_cases hbody : body = []
  · subst hbody
    exact ⟨returnNull ++ ending, by rw [moduleText_nil, List.append_assoc]⟩
  · exact ⟨returnOf body ++ ending, by rw [moduleText_of_ne_nil name hbody, List.append_assoc]⟩

/-- With a line feed behind the name the heading has two lines. -/
theorem not_hasHeading_lineFeed {name : Text} (h : IsPlainName name) (after : Text) :
    ¬HasHeading (heading (name ++ ['\n']) ++ after) := by
  rintro ⟨name', after', h', heq⟩
  unfold heading at heq
  simp only [List.append_assoc] at heq
  have heq := List.append_cancel_left heq
  have hends : Text.Ends isWordChar (['\n'] ++ ("() \x7b\n".toList ++ after)) := Text.ends_cons.mpr (by decide)
  have hends' : Text.Ends isWordChar ("() \x7b\n".toList ++ after') := Text.ends_cons.mpr (by decide)
  obtain ⟨-, htail⟩ := Text.append_inj_of_ends h.wordChars h'.wordChars hends hends' heq
  exact absurd (List.cons.inj htail).1 (by decide)

theorem hasHeading_iff {roots : Markup.Forest} (h : render s roots = .ok t) : HasHeading t ↔ IsPlainName s := by
  have haccepts := render_eq_ok_iff.mp ⟨t, h⟩
  rw [render_of_acceptsName haccepts] at h
  obtain rfl := Except.ok.inj h
  obtain ⟨after, hafter⟩ := exists_moduleText_eq s (body roots)
  rw [hafter]
  rcases acceptsName_iff.mp haccepts with hplain | ⟨name, hname, rfl⟩
  · exact iff_of_true ⟨s, after, hplain, rfl⟩ hplain
  · exact iff_of_false (not_hasHeading_lineFeed hname after) (not_isPlainName_lineFeed name)

theorem render_of_output {markup : Text} (h : output markup (some s) = .ok t) : ∃ roots, render s roots = .ok t := by
  unfold output at h
  split at h
  · cases h
  · rename_i roots _
    refine ⟨roots, ?_⟩
    change (render s roots).mapError ConversionError.componentName = .ok t at h
    cases hr : render s roots with
    | error e => rw [hr] at h; cases h
    | ok t' => rw [hr] at h; cases h; rfl

/-- Where a name is given and where it is rendered, an identifier will do, and one with a line
    feed behind it; a manifest takes the identifiers only. So all three agree, and take the
    identifiers, unless the text is an identifier with a line feed behind it. A module has its
    heading on one line exactly when its name is an identifier, so for every job that a
    manifest lists. -/
theorem name_gates_agree_iff (s : Text) :
    let broken := ∃ name, IsPlainName name ∧ s = name ++ ['\n']
    (∀ source, s ≠ [] ∧ Command.componentName (some s) source = .ok (some s) ↔ IsPlainName s ∨ broken) ∧
    (∀ roots, (∃ t, render s roots = .ok t) ↔ IsPlainName s ∨ broken) ∧
    (∀ place input output,
      (∃ j, Job.ofValue place (.map (jobEntries input output (.ofText s))) = .ok j) ↔ IsPlainName s) ∧
    ((∀ source roots place input output,
      (s ≠ [] ∧ Command.componentName (some s) source = .ok (some s) ↔ IsPlainName s) ∧
      ((∃ t, render s roots = .ok t) ↔ IsPlainName s) ∧
      ((∃ j, Job.ofValue place (.map (jobEntries input output (.ofText s))) = .ok j) ↔ IsPlainName s)) ↔ ¬broken) ∧
    (∀ roots t, render s roots = .ok t → (HasHeading t ↔ IsPlainName s)) ∧
    ∀ place v j markup t, Job.ofValue place v = .ok j → j.component = some s → output markup (some s) = .ok t →
      HasHeading t := by
  intro broken
  have hgiven : ∀ source, s ≠ [] ∧ Command.componentName (some s) source = .ok (some s) ↔ IsPlainName s ∨ broken := by
    intro source
    rw [← acceptsName_iff]
    constructor
    · rintro ⟨hs, h⟩
      exact (Command.componentName_eq_self_iff hs source).mp h
    · intro h
      have hs : s ≠ [] := by
        rintro rfl
        exact absurd h (by decide)
      exact ⟨hs, (Command.componentName_eq_self_iff hs source).mpr h⟩
  have hrendered : ∀ roots, (∃ t, render s roots = .ok t) ↔ IsPlainName s ∨ broken := fun _ =>
    render_eq_ok_iff.trans acceptsName_iff
  have hlisted := fun place input output => Manifest.ofValue_jobEntries_iff place input output s
  refine ⟨hgiven, hrendered, hlisted, ⟨fun hagree hbroken => ?_, fun hsound source roots place input output => ?_⟩,
    fun _ _ => hasHeading_iff, fun place v j markup t hj hname ht => ?_⟩
  · have hplain : IsPlainName s := (hagree [] [] [] [] []).2.1.mp ((hrendered []).mpr (.inr hbroken))
    obtain ⟨name, -, rfl⟩ := hbroken
    exact not_isPlainName_lineFeed name hplain
  · rw [hgiven, hrendered, or_iff_left hsound]
    exact ⟨Iff.rfl, Iff.rfl, hlisted place input output⟩
  · obtain ⟨roots, hr⟩ := render_of_output ht
    have hid := Manifest.isNamed_of_isListed (Manifest.isListed_of_ofValue hj) s hname
    exact (hasHeading_iff hr).mpr (isIdentifier_iff.mp hid)

/-- An identifier with a bar and a digit. -/
def barName : Text := "A_9".toList

theorem name_gates_agree_bar :
    barName ≠ [] ∧ Command.componentName (some barName) ['-'] = .ok (some barName) ∧
      (∃ j, Job.ofValue [] (.map (jobEntries [] [] (.ofText barName))) = .ok j) ∧
      ∃ t, render barName [] = .ok t ∧ HasHeading t := by
  have hplain : IsPlainName barName := by decide
  have hsound : ¬∃ name, IsPlainName name ∧ barName = name ++ ['\n'] := by
    rintro ⟨name, -, heq⟩
    have hlast := congrArg List.getLast? heq
    rw [List.getLast?_concat] at hlast
    exact absurd hlast (by decide)
  obtain ⟨-, -, -, hagree, hheading, -⟩ := name_gates_agree_iff barName
  obtain ⟨hgiven, hrendered, hlisted⟩ := hagree.mpr hsound ['-'] [] [] [] []
  obtain ⟨t, ht⟩ := hrendered.mpr hplain
  exact ⟨(hgiven.mpr hplain).1, (hgiven.mpr hplain).2, hlisted.mpr hplain, t, ht, (hheading [] t ht).mpr hplain⟩

/-- A name with a line feed behind it is taken from a command and written with it, where no
    manifest can list it. -/
theorem name_with_lineFeed :
    ¬IsPlainName ['A', '\n'] ∧ Command.componentName (some ['A', '\n']) ['-'] = .ok (some ['A', '\n']) ∧
      render ['A', '\n'] [] = .ok "export default function A\n() \x7b\n  return null;\n\x7d\n".toList ∧
      Job.ofValue [] (.map (jobEntries [] [] (.ofText ['A', '\n']))) =
        .error [⟨[.key Manifest.componentKey], .notIdentifier⟩] :=
  ⟨by decide, rfl, by rfl, by rfl⟩

end Component

end MarkupJsx
