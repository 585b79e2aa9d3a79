/-
  MarkupJsx.Proofs.Command.Files — what a conversion that fails does to the files.

  Rule. Whatever can go wrong goes wrong before a file is opened: the input is read and
  rendered, the target is looked at and its directory is created, and only then is one file
  written. So a conversion that succeeds leaves the rendered text where its target leads, and
  every other file as it was; one that does not succeed leaves all files as they were, if not
  all directories (`files_of_convertFile`, `files_of_runConvert`). A job that is reported as a
  fault changes nothing at all (`world_of_fault`), in whatever world the jobs before it left
  (`failed_conversion_keeps_files`).
-/

import MarkupJsx.Proofs.Command.Batch

namespace MarkupJsx.Command

open Manifest (Job)

variable {w w' : World} {force : Bool}

/-- The text that a source is rendered as. -/
def Renders (w : World) (source : Source) (component : Option Text) (t : Text) : Prop :=
  ∃ markup, w.markup source = .ok markup ∧ MarkupJsx.output markup component = .ok t

/-! ## File to file -/

theorem files_of_convertFile {input output : Path} {component : Option Text} {r : Except Failure Unit}
    (h : (convertFile input output component : StateM World _).run w = (r, w')) :
    (r = .ok () → ∃ t, Renders w (.ofPath input) component t ∧ w.tree.Receives output (Text.Utf8.encode t) w'.tree) ∧
      (r ≠ .ok () → w.tree.SameFiles w'.tree) := by
  rw [run_convertFile] at h
  rcases hm : w.markup (.ofPath input) with e | markup
  · rw [hm] at h
    cases h
    exact ⟨nofun, fun _ => .refl _⟩
  rcases ho : MarkupJsx.output markup component with e | t
  · simp only [hm, ho] at h
    cases h
    exact ⟨nofun, fun _ => .refl _⟩
  rcases hw : (Storage.writeText output t : StateM World _).run w with ⟨r', v⟩
  simp only [hm, ho, hw] at h
  obtain ⟨rfl, rfl⟩ := Prod.mk.inj h
  obtain ⟨hwritten, hkept⟩ := World.files_of_writeText hw
  cases r' with
  | ok u => exact ⟨fun _ => ⟨t, ⟨markup, hm, ho⟩, hwritten rfl⟩, fun hne => absurd rfl hne⟩
  | error e => exact ⟨nofun, fun _ => hkept nofun⟩

/-! ## The command -/

theorem run_runConvert (o : ConvertOptions) (w : World) :
    (runConvert o : StateM World _).run w =
      match w.markup (.ofText o.input) with
      | .error (.notFound p) => (.refused (.inputNotFound p), w)
      | .error (.undecodable e) => (.refused (.undecodable o.input e), w)
      | .error (.file e) => (.failed (.read (.file e)), w)
      | .ok markup =>
        match componentName o.component o.input with
        | .error e => (.refused (.componentName e), w)
        | .ok component =>
          match MarkupJsx.output markup component with
          | .error e => (.failed (.conversion e), w)
          | .ok t => (deliver o.output o.force t : StateM World _).run w := by
  simp only [runConvert, World.run_bind, World.run_readMarkup]
  rcases w.markup (.ofText o.input) with (_ | _ | _) | markup
  · rfl
  · rfl
  · rfl
  · rcases componentName o.component o.input with e | component
    · rfl
    · rcases ho : MarkupJsx.output markup component with e | t
      · simp only [ho]; rfl
      · simp only [ho]

/-- What it takes for a text to be delivered to a file. -/
theorem run_deliver_file (target : Text) (force : Bool) (t : Text) (w : World) :
    (deliver (some (some target)) force t : StateM World _).run w =
      match w.tree.isThere (Path.ofText target) with
      | .error e => (.failed (.file e), w)
      | .ok there =>
        if there && !force then (.refused (.outputExists (Path.ofText target)), w)
        else
          match (Storage.writeText (Path.ofText target) t : StateM World _).run w with
          | (.error e, w') => (.failed (.file e), w')
          | (.ok (), w') => (.printed ("Wrote ".toList ++ (Path.ofText target).toText ++ ['\n']), w') := by
  simp only [deliver, World.run_bind, World.run_isThere]
  rcases w.tree.isThere (Path.ofText target) with e | there
  · rfl
  · simp only
    split
    · rfl
    · rw [World.run_bind]
      rcases (Storage.writeText (Path.ofText target) t : StateM World _).run w with ⟨_ | _, w'⟩ <;> rfl

theorem files_of_deliver {target t : Text} {r : Outcome}
    (h : (deliver (some (some target)) force t : StateM World _).run w = (r, w')) :
    (r.ending = .done → w.tree.Receives (Path.ofText target) (Text.Utf8.encode t) w'.tree) ∧
      (r.ending ≠ .done → w.tree.SameFiles w'.tree) := by
  rw [run_deliver_file] at h
  rcases hthere : w.tree.isThere (Path.ofText target) with e | there
  · rw [hthere] at h
    cases h
    exact ⟨nofun, fun _ => .refl _⟩
  simp only [hthere] at h
  split at h
  · cases h
    exact ⟨nofun, fun _ => .refl _⟩
  · rcases hw : (Storage.writeText (Path.ofText target) t : StateM World _).run w with ⟨_ | _, v⟩
    · rw [hw] at h
      cases h
      exact ⟨nofun, fun _ => (World.files_of_writeText hw).2 nofun⟩
    · rw [hw] at h
      cases h
      exact ⟨fun _ => (World.files_of_writeText hw).1 rfl, fun hne => absurd rfl hne⟩

theorem files_of_runConvert {o : ConvertOptions} {target : Text} (ho : o.output = some (some target)) {r : Outcome}
    (h : (runConvert o : StateM World _).run w = (r, w')) :
    (r.ending = .done → ∃ component t, componentName o.component o.input = .ok component ∧
        Renders w (.ofText o.input) component t ∧
        w.tree.Receives (Path.ofText target) (Text.Utf8.encode t) w'.tree) ∧
      (r.ending ≠ .done → w.tree.SameFiles w'.tree) := by
  rw [run_runConvert, ho] at h
  rcases hm : w.markup (.ofText o.input) with (_ | _ | _) | markup
  · rw [hm] at h
    cases h
    exact ⟨nofun, fun _ => .refl _⟩
  · rw [hm] at h
    cases h
    exact ⟨nofun, fun _ => .refl _⟩
  · rw [hm] at h
    cases h
    exact ⟨nofun, fun _ => .refl _⟩
  rcases hc : componentName o.component o.input with e | component
  · simp only [hm, hc] at h
    cases h
    exact ⟨nofun, fun _ => .refl _⟩
  rcases hr : MarkupJsx.output markup component with e | t
  · simp only [hm, hc, hr] at h
    cases h
    exact ⟨nofun, fun _ => .refl _⟩
  simp only [hm, hc, hr] at h
  obtain ⟨hwritten, hkept⟩ := files_of_deliver h
  exact ⟨fun hdone => ⟨component, t, rfl, ⟨markup, hm, hr⟩, hwritten hdone⟩, hkept⟩

/-! ## Jobs -/

/-- A job with a fault has not even created a directory. -/
theorem world_of_fault {j : Job} {x : JobFault} (h : JobRun force j w (.ok (some x)) w') : w' = w := by
  cases h <;> rfl

theorem worldAfter_of_fault {jobs : List Job} {numbers : List (Nat × JobFault)} {n : Nat} {x : JobFault}
    (h : (runJobs force 1 jobs : StateM World _).run w = (.ok numbers, w')) (hx : (n + 1, x) ∈ numbers) :
    worldAfter force w jobs (n + 1) = worldAfter force w jobs n := by
  obtain ⟨faults, hattempts, rfl⟩ := attempts_of_run h
  rw [Nat.add_comm] at hx
  have hfault := mem_numbered.mp hx
  have hn : n < jobs.length := hattempts.length ▸ (List.getElem?_eq_some_iff.mp hfault).1
  obtain ⟨fault, hfault', hrun⟩ := hattempts.at (List.getElem?_eq_getElem hn)
  rw [hfault] at hfault'
  cases hfault'
  exact world_of_fault hrun

/-! ## All of them -/

/-- A conversion, of a file or as a command, writes the rendered text to the file that its
    target leads to and to no other, or it fails and no file changes; and no file changes by a
    job of a batch that is reported as a fault. -/
theorem failed_conversion_keeps_files (w : World) :
    (∀ (input output : Path) (component : Option Text),
      let run := (convertFile input output component : StateM World _).run w
      (run.1 = .ok () →
        ∃ t, Renders w (.ofPath input) component t ∧ w.tree.Receives output (Text.Utf8.encode t) run.2.tree) ∧
      (run.1 ≠ .ok () → w.tree.SameFiles run.2.tree)) ∧
    (∀ (o : ConvertOptions) (target : Text), o.output = some (some target) →
      let run := (runConvert o : StateM World _).run w
      (run.1.ending = .done →
        ∃ component t, componentName o.component o.input = .ok component ∧ Renders w (.ofText o.input) component t ∧
          w.tree.Receives (Path.ofText target) (Text.Utf8.encode t) run.2.tree) ∧
      (run.1.ending ≠ .done → w.tree.SameFiles run.2.tree)) ∧
    ∀ (force : Bool) (jobs : List Job) (faults : List (Nat × JobFault)) (w' : World),
      (runJobs force 1 jobs : StateM World _).run w = (.ok faults, w') →
      ∀ n x, (n + 1, x) ∈ faults →
        (worldAfter force w jobs n).tree.SameFiles (worldAfter force w jobs (n + 1)).tree := by
  refine ⟨fun _ _ _ => files_of_convertFile rfl, fun _ _ ho => files_of_runConvert ho rfl, ?_⟩
  intro force jobs faults w' hrun n x hx
  rw [worldAfter_of_fault hrun hx]
  exact .refl _

/-- A target behind a file, for which a directory is created in vain; a target that is there;
    and a job without input. -/
theorem failed_conversion_keeps_files_behindFile :
    let w := missingInput
    let page := Path.ofText "page".toList
    let behind := Path.ofText "new/../page/a".toList
    let old : ConvertOptions := ⟨"page".toList, some (some "m".toList), none, false⟩
    let jobs := [plainJob "x" "a", plainJob "page" "b"]
    let missing := JobFault.inputNotFound (Path.ofText "x".toList)
    (((convertFile page behind none : StateM World _).run w).1 = .error (.file (.alreadyExists behind.parent)) ∧
      ((convertFile page behind none : StateM World _).run w).2.tree.entry? [utf8 "new"] = some .directory ∧
      w.tree.SameFiles ((convertFile page behind none : StateM World _).run w).2.tree) ∧
    (((runConvert old : StateM World _).run w).1.ending = .refused (.outputExists (Path.ofText "m".toList)) ∧
      w.tree.SameFiles ((runConvert old : StateM World _).run w).2.tree) ∧
    ((runJobs false 1 jobs : StateM World _).run w).1 = .ok [(1, missing)] ∧
      (worldAfter false w jobs 0).tree.SameFiles (worldAfter false w jobs 1).tree := by
  intro w page behind old jobs missing
  obtain ⟨hfile, hcommand, hjob⟩ := failed_conversion_keeps_files w
  have hbehind : ((convertFile page behind none : StateM World _).run w).1 = .error (.file (.alreadyExists behind.parent)) := by
    decide +kernel
  have hnew : ((convertFile page behind none : StateM World _).run w).2.tree.entry? [utf8 "new"] = some .directory := by
    decide +kernel
  have hold : ((runConvert old : StateM World _).run w).1.ending = .refused (.outputExists (Path.ofText "m".toList)) := by
    decide +kernel
  have hjobs : ((runJobs false 1 jobs : StateM World _).run w).1 = .ok [(1, missing)] := by decide +kernel
  refine ⟨⟨hbehind, hnew, (hfile page behind none).2 ?_⟩, ⟨hold, (hcommand old _ rfl).2 ?_⟩, hjobs, ?_⟩
  · rw [hbehind]; exact nofun
  · rw [hold]; exact nofun
  · exact hjob false jobs _ _ (Prod.ext hjobs rfl) 0 missing (List.mem_singleton.mpr rfl)

end MarkupJsx.Command
