/-
  MarkupJsx.Proofs.Manifest.Description — which values are manifests, and of which jobs.

  Rule. A manifest is null, an empty mapping, or a mapping with the one key `jobs` and a list;
  each item of the list is a mapping with an input, an output and perhaps the name of a
  component, and no other key (`Describes`). What the schema takes is this and a little more:
  any document that counts as nothing, an empty set for the list, and the bytes of a name for
  the name. That is all it takes (`jobsOfValue_eq_ok_iff`), and what it answers does not
  depend on anything deeper than a field of a job (`jobsOfValue_eq_of_agreesTo`).
-/

import MarkupJsx.Proofs.Component.Identifiers
import MarkupJsx.Proofs.Text.Utf8
import MarkupJsx.Proofs.Yaml.Depth

namespace MarkupJsx

theorem WideText.toText?_eq_some_iff {w : WideText} {t : Text} : w.toText? = some t ↔ w = .ofText t := by
  refine ⟨fun h => ?_, fun h => h ▸ toText?_ofText t⟩
  induction w generalizing t with
  | nil => cases h; rfl
  | cons c w ih =>
    cases c with
    | half _ => cases h
    | char c =>
      obtain ⟨t', ht', rfl⟩ := Option.map_eq_some_iff.mp (show (toText? w).map (c :: ·) = some t from h)
      rw [ih ht']
      rfl

namespace Manifest

open Yaml (Atom Value)
open Component (IsPlainName)

variable {lax : Bool} {place : List Step} {entries : List (Atom × Value)} {name : Text} {v : Value} {j : Job}
  {jobs : List Job}

/-! ## Descriptions -/

/-- All keys are among the known ones. -/
def HasKeys (known : List Text) (entries : List (Atom × Value)) : Prop :=
  ∀ e ∈ entries, ∃ k ∈ known, e.1 = .text (.ofText k)

instance (known : List Text) (entries : List (Atom × Value)) : Decidable (HasKeys known entries) :=
  inferInstanceAs (Decidable (∀ e ∈ entries, ∃ k ∈ known, e.1 = .text (.ofText k)))

/-- The value names this component, or none. -/
inductive NamesComponent (lax : Bool) : Value → Option Text → Prop
  | null : NamesComponent lax (.atom .null) none
  | text {name : Text} : IsPlainName name → NamesComponent lax (.atom (.text (.ofText name))) (some name)
  | bytes {name : Text} : lax = true → IsPlainName name →
      NamesComponent lax (.atom (.bytes (Text.Utf8.encode name))) (some name)

structure DescribesJob (lax : Bool) (entries : List (Atom × Value)) (j : Job) : Prop where
  keys : HasKeys [inputKey, outputKey, componentKey] entries
  input : ∃ t, fieldOf inputKey entries = some (.atom (.text t)) ∧ j.input = Path.ofWide t
  output : ∃ t, fieldOf outputKey entries = some (.atom (.text t)) ∧ j.output = Path.ofWide t
  component : (fieldOf componentKey entries = none ∧ j.component = none) ∨
    ∃ v, fieldOf componentKey entries = some v ∧ NamesComponent lax v j.component

/-- The value is a mapping that describes the job. -/
def DescribesItem (lax : Bool) (v : Value) (j : Job) : Prop := ∃ fields, v = .map fields ∧ DescribesJob lax fields j

/-- The document is a manifest of these jobs; `lax` is for what need not be taken. -/
inductive Describes (lax : Bool) : Value → List Job → Prop
  | null : Describes lax (.atom .null) []
  | empty : Describes lax (.map []) []
  | list {entries : List (Atom × Value)} {items : List Value} {jobs : List Job} :
      HasKeys [jobsKey] entries → fieldOf jobsKey entries = some (.list items) →
      List.Forall₂ (DescribesItem lax) items jobs →
      Describes lax (.map entries) jobs
  | nothing {v : Value} : lax = true → v.isNothing = true → Describes lax v []
  | emptySet {entries : List (Atom × Value)} : lax = true → HasKeys [jobsKey] entries →
      fieldOf jobsKey entries = some (.set []) → Describes lax (.map entries) []

theorem NamesComponent.toLax {c : Option Text} (h : NamesComponent lax v c) : NamesComponent true v c := by
  cases h with
  | null => exact .null
  | text hname => exact .text hname
  | bytes _ hname => exact .bytes rfl hname

theorem DescribesJob.toLax (h : DescribesJob lax entries j) : DescribesJob true entries j where
  keys := h.keys
  input := h.input
  output := h.output
  component := h.component.imp_right fun ⟨v, hv, hname⟩ => ⟨v, hv, hname.toLax⟩

theorem Describes.toLax (h : Describes lax v jobs) : Describes true v jobs := by
  cases h with
  | null => exact .null
  | empty => exact .empty
  | list hkeys hfield hjobs => exact .list hkeys hfield (hjobs.imp fun _ _ ⟨fields, hv, hj⟩ => ⟨fields, hv, hj.toLax⟩)
  | nothing _ hv => exact .nothing rfl hv
  | emptySet _ hkeys hfield => exact .emptySet rfl hkeys hfield

/-! ## Fields -/

theorem otherKeys_eq_nil_iff {known : List Text} : otherKeys known place entries = [] ↔ HasKeys known entries := by
  simp only [otherKeys, List.filterMap_eq_nil_iff, HasKeys]
  refine forall₂_congr fun e _ => ?_
  obtain ⟨a, _⟩ := e
  cases a with
  | text t => simp
  | _ => simp

theorem hasBrokenKey_of_hasKeys {known : List Text} (h : HasKeys known entries) : hasBrokenKey entries = false := by
  rw [hasBrokenKey, List.any_eq_false]
  intro e he
  obtain ⟨k, -, hk⟩ := h e he
  obtain ⟨_, _⟩ := e
  subst hk
  simp [WideText.toText?_ofText]

theorem pathField_eq_ok_iff {p : Path} :
    pathField name place entries = .ok p ↔ ∃ t, fieldOf name entries = some (.atom (.text t)) ∧ p = Path.ofWide t := by
  unfold pathField
  split
  · rename_i hfield
    simp [hfield]
  · rename_i t hfield
    constructor
    · intro h
      exact ⟨t, hfield, (Except.ok.inj h).symm⟩
    · rintro ⟨t', h, rfl⟩
      cases hfield.symm.trans h
      rfl
  · rename_i hother hfield
    refine iff_of_false (by simp) ?_
    rintro ⟨t, h, -⟩
    exact hother t (Option.some.inj (hfield.symm.trans h))

theorem checkIdentifier_eq_ok_iff {t : Text} {c : Option Text} :
    checkIdentifier place t = .ok c ↔ IsPlainName t ∧ c = some t := by
  rw [← Component.isIdentifier_iff, checkIdentifier]
  split
  · rename_i h
    simp [h, eq_comm]
  · rename_i h
    simp [h]

theorem namesComponent_text_iff {w : WideText} {c : Option Text} :
    NamesComponent lax (.atom (.text w)) c ↔ ∃ t, w.toText? = some t ∧ IsPlainName t ∧ c = some t := by
  constructor
  · intro h
    cases h with
    | text hname => exact ⟨_, WideText.toText?_ofText _, hname, rfl⟩
  · rintro ⟨t, ht, hname, rfl⟩
    rw [WideText.toText?_eq_some_iff.mp ht]
    exact .text hname

theorem namesComponent_bytes_iff {b : Bytes} {c : Option Text} :
    NamesComponent lax (.atom (.bytes b)) c ↔
      lax = true ∧ ∃ t, Text.Utf8.decode b = .ok t ∧ IsPlainName t ∧ c = some t := by
  constructor
  · intro h
    cases h with
    | bytes hlax hname => exact ⟨hlax, _, Text.Utf8.decode_eq_ok_iff.mpr rfl, hname, rfl⟩
  · rintro ⟨hlax, t, ht, hname, rfl⟩
    rw [Text.Utf8.decode_eq_ok_iff.mp ht]
    exact .bytes hlax hname

theorem componentField_eq_ok_iff {c : Option Text} :
    componentField place entries = .ok c ↔ (fieldOf componentKey entries = none ∧ c = none) ∨
      ∃ v, fieldOf componentKey entries = some v ∧ NamesComponent true v c := by
  unfold componentField
  cases hfield : fieldOf componentKey entries with
  | none => simp [eq_comm]
  | some v =>
    suffices h : _ = Except.ok c ↔ NamesComponent true v c by simpa using h
    split
    · contradiction
    · rename_i heq
      cases heq
      exact ⟨fun h => Except.ok.inj h ▸ .null, fun h => by cases h; rfl⟩
    · rename_i w heq
      cases heq
      rw [namesComponent_text_iff]
      cases w.toText? with
      | some t => simp [checkIdentifier_eq_ok_iff]
      | none => simp
    · rename_i b heq
      cases heq
      rw [namesComponent_bytes_iff]
      cases Text.Utf8.decode b with
      | ok t => simp [checkIdentifier_eq_ok_iff]
      | error e => simp
    · rename_i hnull htext hbytes heq
      cases heq
      refine iff_of_false (by simp) fun h => ?_
      cases h with
      | null => exact hnull rfl
      | text => exact htext _ rfl
      | bytes => exact hbytes _ rfl

/-! ## Jobs -/

theorem ofEntries_eq_ok_iff : Job.ofEntries place entries = .ok j ↔ DescribesJob true entries j := by
  simp only [Job.ofEntries]
  constructor
  · intro h
    split at h
    · rename_i hinput houtput hcomponent hothers
      cases h
      exact ⟨otherKeys_eq_nil_iff.mp hothers, pathField_eq_ok_iff.mp hinput, pathField_eq_ok_iff.mp houtput,
        componentField_eq_ok_iff.mp hcomponent⟩
    · cases h
  · rintro ⟨hkeys, hinput, houtput, hcomponent⟩
    simp only [pathField_eq_ok_iff.mpr hinput, pathField_eq_ok_iff.mpr houtput, componentField_eq_ok_iff.mpr hcomponent,
      otherKeys_eq_nil_iff.mpr hkeys]

theorem ofValue_eq_ok_iff : Job.ofValue place v = .ok j ↔ DescribesItem true v j := by
  constructor
  · intro h
    unfold Job.ofValue at h
    split at h
    · rename_i fields
      split at h
      · cases h
      · exact ⟨fields, rfl, ofEntries_eq_ok_iff.mp h⟩
    · cases h
  · rintro ⟨fields, rfl, hj⟩
    simp only [Job.ofValue, hasBrokenKey_of_hasKeys hj.keys, Bool.false_eq_true, if_false]
    exact ofEntries_eq_ok_iff.mpr hj

/-- A list is taken if and only if each of its items is. -/
theorem collect_eq_ok_iff {α : Type} {rs : List (Except (List Issue) α)} {as : List α} :
    collect rs = .ok as ↔ List.Forall₂ (fun r a => r = .ok a) rs as := by
  induction rs generalizing as with
  | nil => simp [collect, eq_comm]
  | cons r rest ih =>
    rw [List.forall₂_cons_left_iff]
    simp only [← ih, collect]
    cases r with
    | error is => cases collect rest <;> simp
    | ok a => cases collect rest <;> simp [eq_comm]

theorem jobList_eq_ok_iff {items : List Value} :
    jobList items = .ok jobs ↔ List.Forall₂ (DescribesItem true) items jobs := by
  rw [jobList, collect_eq_ok_iff, List.forall₂_map_left_iff]
  simp only [ofValue_eq_ok_iff]
  conv_rhs => rw [← List.zipIdx_map_fst 0 items, List.forall₂_map_left_iff]

/-! ## Manifests -/

theorem jobsField_eq_ok_iff : jobsField entries = .ok jobs ↔
    (fieldOf jobsKey entries = none ∧ jobs = []) ∨ (fieldOf jobsKey entries = some (.set []) ∧ jobs = []) ∨
      ∃ items, fieldOf jobsKey entries = some (.list items) ∧
        List.Forall₂ (DescribesItem true) items jobs := by
  unfold jobsField
  cases hfield : fieldOf jobsKey entries with
  | none => simp [eq_comm]
  | some v =>
    cases v with
    | list items => simp [jobList_eq_ok_iff]
    | set keys =>
      cases keys with
      | nil => simp [jobList_eq_ok_iff]
      | cons a keys =>
        refine iff_of_false (fun h => ?_) (by simp)
        cases jobList_eq_ok_iff.mp h with
        | cons hatom _ =>
          obtain ⟨_, hatom, -⟩ := hatom
          cases hatom
    | _ => simp

theorem jobsOfEntries_eq_ok_iff :
    jobsOfEntries entries = .ok jobs ↔ jobsField entries = .ok jobs ∧ HasKeys [jobsKey] entries := by
  have hnone : otherKeys [jobsKey] [] entries = [] ↔ HasKeys [jobsKey] entries := otherKeys_eq_nil_iff
  rw [← hnone, jobsOfEntries]
  constructor
  · intro h
    split at h
    · rename_i hjobs hothers
      exact ⟨hjobs.trans h, hothers⟩
    · cases h
    · cases h
  · rintro ⟨hjobs, hothers⟩
    rw [hjobs, hothers]

theorem fieldOf_ne_none (hne : entries ≠ []) (h : HasKeys [name] entries) : fieldOf name entries ≠ none := by
  cases entries with
  | nil => exact absurd rfl hne
  | cons e rest =>
    obtain ⟨k, hk, he⟩ := h e (List.mem_cons_self ..)
    rw [List.mem_singleton.mp hk] at he
    obtain ⟨_, v⟩ := e
    subst he
    simp [fieldOf]

theorem jobsOfValue_of_isNothing (h : v.isNothing = true) : jobsOfValue v = .ok [] := if_pos h

/-- The schema takes the manifests, as the jobs they describe, and what need not be taken. -/
theorem jobsOfValue_eq_ok_iff : jobsOfValue v = .ok jobs ↔ Describes true v jobs := by
  constructor
  · intro h
    cases hv : v.isNothing with
    | true =>
      rw [jobsOfValue_of_isNothing hv] at h
      cases h
      exact .nothing rfl hv
    | false =>
      simp only [jobsOfValue, hv, Bool.false_eq_true, if_false] at h
      split at h
      · rename_i entries
        split at h
        · cases h
        · obtain ⟨hjobs, hkeys⟩ := jobsOfEntries_eq_ok_iff.mp h
          have hne : entries ≠ [] := by
            rintro rfl
            cases hv
          rcases jobsField_eq_ok_iff.mp hjobs with ⟨hnone, -⟩ | ⟨hset, rfl⟩ | ⟨items, hitems, hall⟩
          · exact absurd hnone (fieldOf_ne_none hne hkeys)
          · exact .emptySet rfl hkeys hset
          · exact .list hkeys hitems hall
      · cases h
  · have hmap {entries : List (Atom × Value)} {jobs : List Job} (hkeys : HasKeys [jobsKey] entries)
        (hjobs : jobsField entries = .ok jobs) (hv : (Value.map entries).isNothing = false) :
        jobsOfValue (.map entries) = .ok jobs := by
      simp only [jobsOfValue, hv, hasBrokenKey_of_hasKeys hkeys, Bool.false_eq_true, if_false]
      exact jobsOfEntries_eq_ok_iff.mpr ⟨hjobs, hkeys⟩
    intro h
    cases h with
    | null => rfl
    | empty => rfl
    | nothing _ hv => exact jobsOfValue_of_isNothing hv
    | @list entries items _ hkeys hfield hall =>
      refine hmap hkeys (jobsField_eq_ok_iff.mpr (.inr (.inr ⟨items, hfield, hall⟩))) ?_
      cases entries with
      | nil => cases hfield
      | cons _ _ => rfl
    | @emptySet entries _ hkeys hfield =>
      refine hmap hkeys (jobsField_eq_ok_iff.mpr (.inr (.inl ⟨hfield, rfl⟩))) ?_
      cases entries with
      | nil => cases hfield
      | cons _ _ => rfl

/-! ## As deep as the schema looks -/

section Depth

open Yaml.Value (AgreesTo)

variable {k : Nat} {entries' : List (Atom × Value)} {v' : Value}

/-- The same keys in the same order, with values that agree. -/
def EntriesAgree (k : Nat) : List (Atom × Value) → List (Atom × Value) → Prop :=
  List.Forall₂ fun e e' => e.1 = e'.1 ∧ AgreesTo k e.2 e'.2

theorem EntriesAgree.hasBrokenKey (h : EntriesAgree k entries entries') :
    hasBrokenKey entries = hasBrokenKey entries' := by
  unfold Manifest.hasBrokenKey
  induction h with
  | nil => rfl
  | @cons e e' rest rest' he _ ih =>
    obtain ⟨a, x⟩ := e
    obtain ⟨a', x'⟩ := e'
    obtain ⟨rfl, -⟩ := he
    simp only [List.any_cons, ih]

theorem EntriesAgree.otherKeys (h : EntriesAgree k entries entries') (known : List Text) :
    otherKeys known place entries = otherKeys known place entries' := by
  unfold Manifest.otherKeys
  induction h with
  | nil => rfl
  | @cons e e' rest rest' he _ ih =>
    obtain ⟨a, x⟩ := e
    obtain ⟨a', x'⟩ := e'
    obtain ⟨rfl, -⟩ := he
    simp only [List.filterMap_cons, ih]

theorem EntriesAgree.fieldOf (h : EntriesAgree k entries entries') (name : Text) :
    (fieldOf name entries = none ∧ fieldOf name entries' = none) ∨
      ∃ x x', fieldOf name entries = some x ∧ fieldOf name entries' = some x' ∧ x.AgreesTo k x' := by
  unfold Manifest.fieldOf
  induction h with
  | nil => exact .inl ⟨rfl, rfl⟩
  | @cons e e' rest rest' he _ ih =>
    obtain ⟨a, x⟩ := e
    obtain ⟨a', x'⟩ := e'
    obtain ⟨rfl, hx⟩ := he
    simp only [List.lookup_cons]
    split
    · exact .inr ⟨x, x', rfl, rfl, hx⟩
    · exact ih

theorem EntriesAgree.pathField (h : EntriesAgree 1 entries entries') :
    pathField name place entries = pathField name place entries' := by
  unfold Manifest.pathField
  rcases h.fieldOf name with ⟨hx, hx'⟩ | ⟨x, x', hx, hx', hagree⟩ <;> rw [hx, hx']
  rcases hagree.kinds with rfl | ⟨_, _, rfl, rfl, _⟩ | ⟨_, _, _, _, rfl, rfl⟩ | ⟨_, _, rfl, rfl, _⟩ <;> rfl

theorem EntriesAgree.componentField (h : EntriesAgree 1 entries entries') :
    componentField place entries = componentField place entries' := by
  unfold Manifest.componentField
  rcases h.fieldOf componentKey with ⟨hx, hx'⟩ | ⟨x, x', hx, hx', hagree⟩ <;> rw [hx, hx']
  rcases hagree.kinds with rfl | ⟨_, _, rfl, rfl, _⟩ | ⟨_, _, _, _, rfl, rfl⟩ | ⟨_, _, rfl, rfl, _⟩ <;> rfl

theorem ofValue_eq_of_agreesTo (h : v.AgreesTo 2 v') : Job.ofValue place v = Job.ofValue place v' := by
  rcases h.kinds with rfl | ⟨_, _, rfl, rfl, _⟩ | ⟨_, _, _, _, rfl, rfl⟩ | ⟨fields, fields', rfl, rfl, hfields⟩
  · rfl
  · rfl
  · rfl
  · have hfields : EntriesAgree 1 fields fields' := hfields
    simp only [Job.ofValue, Job.ofEntries, hfields.hasBrokenKey, hfields.pathField, hfields.componentField,
      hfields.otherKeys]

theorem jobList_eq_of_agreesTo {items items' : List Value} (h : List.Forall₂ (AgreesTo 2) items items') :
    jobList items = jobList items' := by
  suffices hmap : ∀ n, (items.zipIdx n).map (fun p => Job.ofValue [.key jobsKey, .index p.2] p.1) =
      (items'.zipIdx n).map fun p => Job.ofValue [.key jobsKey, .index p.2] p.1 from congrArg collect (hmap 0)
  induction h with
  | nil => exact fun _ => rfl
  | cons hv _ ih =>
    intro n
    simp only [List.zipIdx_cons, List.map_cons, ofValue_eq_of_agreesTo hv, ih (n + 1)]

theorem EntriesAgree.jobsField (h : EntriesAgree 3 entries entries') : jobsField entries = jobsField entries' := by
  unfold Manifest.jobsField
  rcases h.fieldOf jobsKey with ⟨hx, hx'⟩ | ⟨x, x', hx, hx', hagree⟩ <;> rw [hx, hx']
  rcases hagree.kinds with rfl | ⟨_, _, rfl, rfl, hitems⟩ | ⟨_, _, _, _, rfl, rfl⟩ | ⟨_, _, rfl, rfl, _⟩
  · rfl
  · exact jobList_eq_of_agreesTo hitems
  · rfl
  · rfl

/-- What lies deeper than a field of a job makes no difference, not even to what is reported. -/
theorem jobsOfValue_eq_of_agreesTo (h : v.AgreesTo depth v') : jobsOfValue v = jobsOfValue v' := by
  rcases h.kinds with rfl | ⟨_, _, rfl, rfl, hitems⟩ | ⟨_, _, _, _, rfl, rfl⟩ | ⟨entries, entries', rfl, rfl, hentries⟩
  · rfl
  · cases hitems <;> rfl
  · rfl
  · have hentries : EntriesAgree 3 entries entries' := hentries
    have hnothing : (Value.map entries).isNothing = (Value.map entries').isNothing := by cases hentries <;> rfl
    simp only [jobsOfValue, jobsOfEntries, hnothing, hentries.hasBrokenKey, hentries.jobsField, hentries.otherKeys]

end Depth

end Manifest

end MarkupJsx
