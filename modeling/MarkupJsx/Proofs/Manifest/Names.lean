/-
  MarkupJsx.Proofs.Manifest.Names — what is known of the names and paths of loaded jobs.

  Rule. A list is taken only when each of its items is (`mem_of_collect`), and resolving paths
  keeps the names, so a loaded job is one that some mapping lists, with its paths resolved
  (`exists_of_jobsIn`).

  The schema asks for an identifier where the component is rendered: an identifier has no
  line feed, and without one both ask for the same (`acceptsName_of_isIdentifier`). So the
  jobs that are loaded have names that can be rendered (`named_of_jobsIn`), and their output
  is refused for their markup only (`output_ne_componentName`). Their paths are normal when
  the homes of the users are (`normal_of_jobsIn`).
-/

import MarkupJsx.Conversion
import MarkupJsx.Proofs.Paths

namespace MarkupJsx

/-! ## Identifiers -/

namespace Component

theorem isWordChar_of_isCapital {c : Char} (h : isCapital c = true) : isWordChar c = true := by
  simp only [isCapital, Bool.and_eq_true, decide_eq_true_eq] at h
  simp [isWordChar, Text.isAlphanumeric, Text.isLetter, h]

theorem isWordChar_of_isIdentifier {s : Text} (h : isIdentifier s = true) : ∀ c ∈ s, isWordChar c = true := by
  cases s with
  | nil => cases h
  | cons c rest =>
    simp only [isIdentifier, Bool.and_eq_true, List.all_eq_true] at h
    exact List.forall_mem_cons.mpr ⟨isWordChar_of_isCapital h.1, h.2⟩

theorem acceptsName_of_isIdentifier {s : Text} (h : isIdentifier s = true) : acceptsName s = true := by
  have hlast : s.getLast? ≠ some '\n' := fun hl =>
    absurd (isWordChar_of_isIdentifier h '\n' (List.mem_of_getLast? hl)) (by decide)
  rw [acceptsName, dropFinalLineFeed, if_neg hlast, h]

end Component

/-! ## Jobs -/

namespace Manifest

/-- The name of the component, if there is one, is an identifier. -/
def Job.IsNamed (j : Job) : Prop := ∀ name, j.component = some name → Component.isIdentifier name = true

theorem output_ne_componentName {j : Job} (h : j.IsNamed) (markup : Text) (e : Component.InvalidName) :
    output markup j.component ≠ .error (.componentName e) := by
  unfold output
  cases Markup.parse markup with
  | error _ => simp
  | ok roots =>
    cases hc : j.component with
    | none => simp
    | some name =>
      have hname := Component.acceptsName_of_isIdentifier (h name hc)
      simp only [Component.render, Component.checkName, hname, if_true]
      intro hne
      cases hne

theorem mem_of_collect {α : Type} {rs : List (Except (List Issue) α)} {as : List α} (h : collect rs = .ok as) :
    ∀ a ∈ as, .ok a ∈ rs := by
  induction rs generalizing as with
  | nil =>
    cases h
    simp
  | cons r rest ih =>
    simp only [collect] at h
    cases r with
    | error is => cases hc : collect rest <;> rw [hc] at h <;> cases h
    | ok b =>
      cases hc : collect rest with
      | error js => rw [hc] at h; cases h
      | ok bs =>
        rw [hc] at h
        cases h
        intro a ha
        rcases List.mem_cons.mp ha with rfl | ha
        · exact List.mem_cons_self ..
        · exact List.mem_cons_of_mem _ (ih hc a ha)

theorem isIdentifier_of_checkIdentifier {place : List Step} {t : Text} {name : Text}
    (h : checkIdentifier place t = .ok (some name)) : Component.isIdentifier name = true := by
  unfold checkIdentifier at h
  split at h
  · rename_i ht
    cases h
    exact ht
  · cases h

theorem isIdentifier_of_componentField {place : List Step} {entries : List (Yaml.Atom × Yaml.Value)} {name : Text}
    (h : componentField place entries = .ok (some name)) : Component.isIdentifier name = true := by
  unfold componentField at h
  split at h
  · cases h
  · cases h
  · split at h
    · exact isIdentifier_of_checkIdentifier h
    · cases h
  · split at h
    · exact isIdentifier_of_checkIdentifier h
    · cases h
  · cases h

/-- The job is what the entries of a mapping say. -/
def Job.IsListed (j : Job) : Prop := ∃ place entries, Job.ofEntries place entries = .ok j

theorem fields_of_isListed {j : Job} (h : j.IsListed) :
    ∃ place entries, pathField inputKey place entries = .ok j.input ∧ pathField outputKey place entries = .ok j.output ∧
      componentField place entries = .ok j.component := by
  obtain ⟨place, entries, h⟩ := h
  simp only [Job.ofEntries] at h
  split at h
  · rename_i hi ho hc _
    cases h
    exact ⟨place, entries, hi, ho, hc⟩
  · cases h

theorem isListed_of_ofValue {place : List Step} {v : Yaml.Value} {j : Job} (h : Job.ofValue place v = .ok j) :
    j.IsListed := by
  unfold Job.ofValue at h
  split at h
  · split at h
    · cases h
    · exact ⟨_, _, h⟩
  · cases h

theorem isListed_of_jobList {items : List Yaml.Value} {jobs : List Job} (h : jobList items = .ok jobs) :
    ∀ j ∈ jobs, j.IsListed := by
  intro j hj
  obtain ⟨⟨v, n⟩, -, hv⟩ := List.mem_map.mp (mem_of_collect h j hj)
  exact isListed_of_ofValue hv

theorem isListed_of_jobsOfValue {v : Yaml.Value} {jobs : List Job} (h : jobsOfValue v = .ok jobs) :
    ∀ j ∈ jobs, j.IsListed := by
  unfold jobsOfValue at h
  split at h
  · cases h
    simp
  · split at h
    · split at h
      · cases h
      · rename_i entries _
        unfold jobsOfEntries at h
        split at h
        · rename_i hjobs _
          cases h
          unfold jobsField at hjobs
          split at hjobs
          · cases hjobs
            simp
          · exact isListed_of_jobList hjobs
          · exact isListed_of_jobList hjobs
          · cases hjobs
        · cases h
        · cases h
    · cases h

theorem isNamed_of_isListed {j : Job} (h : j.IsListed) : j.IsNamed := by
  obtain ⟨place, entries, -, -, hc⟩ := fields_of_isListed h
  intro name hname
  rw [hname] at hc
  exact isIdentifier_of_componentField hc

theorem isNormal_of_pathField {name : Text} {place : List Step} {entries : List (Yaml.Atom × Yaml.Value)} {p : Path}
    (h : pathField name place entries = .ok p) : p.IsNormal := by
  unfold pathField at h
  split at h
  · cases h
  · cases h
    exact Path.isNormal_ofWide _
  · cases h

/-! ## Loaded jobs -/

theorem fields_of_resolve {homes : Homes} {base : Path} {j j' : Job} (h : j.resolve homes base = .ok j') :
    resolvePath homes base j.input = .ok j'.input ∧ resolvePath homes base j.output = .ok j'.output ∧
      j'.component = j.component := by
  unfold Job.resolve at h
  cases hi : resolvePath homes base j.input with
  | error e => rw [hi] at h; cases h
  | ok input =>
    cases ho : resolvePath homes base j.output with
    | error e => rw [hi, ho] at h; cases h
    | ok output =>
      rw [hi, ho] at h
      cases h
      exact ⟨rfl, rfl, rfl⟩

theorem exists_of_mem_mapM {ε α β : Type} {f : α → Except ε β} {as : List α} {bs : List β} (h : as.mapM f = .ok bs) :
    ∀ b ∈ bs, ∃ a ∈ as, f a = .ok b := by
  induction as generalizing bs with
  | nil =>
    cases h
    simp
  | cons a rest ih =>
    rw [List.mapM_cons] at h
    cases hf : f a with
    | error e => rw [hf] at h; cases h
    | ok b =>
      cases hm : rest.mapM f with
      | error e => rw [hf, hm] at h; cases h
      | ok bs' =>
        rw [hf, hm] at h
        cases h
        refine List.forall_mem_cons.mpr ⟨⟨a, List.mem_cons_self .., hf⟩, fun b' hb' => ?_⟩
        obtain ⟨a', ha', hf'⟩ := ih hm b' hb'
        exact ⟨a', List.mem_cons_of_mem a ha', hf'⟩

/-- What is loaded is what is listed, with its paths resolved. -/
theorem exists_of_jobsIn {homes : Homes} {base : Path} {s : Text} {jobs : List Job}
    (h : jobsIn homes base s = .ok jobs) : ∀ j ∈ jobs, ∃ j' : Job, j'.IsListed ∧ j'.resolve homes base = .ok j := by
  unfold jobsIn jobsOfText at h
  cases hv : Yaml.load depth s with
  | error e => rw [hv] at h; cases h
  | ok v =>
    rw [hv] at h
    change ((jobsOfValue v).mapError .schema >>= fun jobs' => jobs'.mapM (Job.resolve homes base)) = .ok jobs at h
    cases hj : jobsOfValue v with
    | error is => rw [hj] at h; cases h
    | ok jobs' =>
      rw [hj] at h
      intro j hmem
      obtain ⟨j', hmem', hr⟩ := exists_of_mem_mapM h j hmem
      exact ⟨j', isListed_of_jobsOfValue hj j' hmem', hr⟩

theorem named_of_jobsIn {homes : Homes} {base : Path} {s : Text} {jobs : List Job}
    (h : jobsIn homes base s = .ok jobs) : ∀ j ∈ jobs, j.IsNamed := by
  intro j hj name hname
  obtain ⟨j', hlisted, hr⟩ := exists_of_jobsIn h j hj
  exact isNamed_of_isListed hlisted name ((fields_of_resolve hr).2.2 ▸ hname)

theorem normal_of_jobsIn {homes : Homes} {base : Path} {s : Text} {jobs : List Job}
    (hhomes : ∀ user home, homes user = some home → home.IsNormal) (hbase : base.IsNormal)
    (h : jobsIn homes base s = .ok jobs) : ∀ j ∈ jobs, j.input.IsNormal ∧ j.output.IsNormal := by
  intro j hj
  obtain ⟨j', hlisted, hr⟩ := exists_of_jobsIn h j hj
  obtain ⟨place, entries, hinput, houtput, -⟩ := fields_of_isListed hlisted
  obtain ⟨hi, ho, -⟩ := fields_of_resolve hr
  exact ⟨isNormal_resolvePath hhomes hbase (isNormal_of_pathField hinput) hi,
    isNormal_resolvePath hhomes hbase (isNormal_of_pathField houtput) ho⟩

end Manifest

end MarkupJsx
