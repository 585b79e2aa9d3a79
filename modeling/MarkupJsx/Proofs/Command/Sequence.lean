/-
  MarkupJsx.Proofs.Command.Sequence — a batch is the sequence of its conversions.

  Rule. A job and the command that asks for the same conversion go the same way in every
  world. They look at things in a different order, the job at its output before the markup is
  read and the command after, but all that is done before the file is written changes nothing,
  so both leave the same world, and the command is done exactly when the job has no fault
  (`conversion_of_jobRun`). By induction along the jobs this holds of all of them, each in the
  world that the one before left (`conversions_of_attempts`).

  `batch_is_its_conversions`: a batch that no job stops leaves the files that its conversions
  leave, reports those that are not done, and each file that is written holds what the
  conversion would have printed. Files never vanish on the way, so without force the first job
  to write a file keeps the others from it (`output_written_once`).

  A command is asked for in text, so these are the jobs whose paths can be spelled; such a
  manifest has a command for every job (`exists_orders`).
-/

import MarkupJsx.Proofs.Command.Files
import MarkupJsx.Proofs.Command.Overwriting
import Mathlib.Data.List.Forall2

namespace MarkupJsx

variable {t : Tree} {p : Path}

theorem Tree.lookup_of_isThere (h : t.isThere p = .ok true) : ∃ e, t.lookup p = .ok e := by
  unfold Tree.isThere at h
  split at h
  · rename_i e he
    exact ⟨e, he⟩
  · split at h <;> cases h

namespace Command

open Manifest (Homes Job)

variable {w w' : World} {force : Bool}

/-! ## One job -/

/-- The command asks for the conversion that the job is. -/
structure Orders (force : Bool) (j : Job) (c : ConvertOptions) : Prop where
  input : Path.ofText c.input = j.input
  output : ∃ target, c.output = some (some target) ∧ Path.ofText target = j.output
  component : c.component = j.component
  force : c.force = force

theorem componentName_of_isNamed {j : Job} (h : j.IsNamed) (source : Text) :
    componentName j.component source = .ok j.component := by
  cases hc : j.component with
  | none => rfl
  | some name =>
    have hname := h name hc
    have hne : name.isEmpty = false := by
      cases name with
      | nil => cases hname
      | cons _ _ => rfl
    simp [componentName, hne, Component.checkName, Component.acceptsName_of_isIdentifier hname, Except.map]

theorem Orders.source {j : Job} {c : ConvertOptions} (h : Orders force j c) (hj : j.input ≠ Path.ofText Source.marker) :
    Source.ofText c.input = .ofPath j.input := by
  have hne : c.input ≠ Source.marker := fun he => hj (by rw [← h.input, he])
  rw [Source.ofPath_of_ne hj, Source.ofText, if_neg hne, h.input]

/-- The command as it is run for a job. -/
theorem run_runConvert_of_orders {j : Job} {c : ConvertOptions} (h : Orders force j c)
    (hj : j.input ≠ Path.ofText Source.marker) (hnamed : j.IsNamed) (target : Option (Option Text)) (w : World) :
    (runConvert { c with output := target } : StateM World _).run w =
      match w.markup (.ofPath j.input) with
      | .error (.notFound p) => (.refused (.inputNotFound p), w)
      | .error (.undecodable e) => (.refused (.undecodable c.input e), w)
      | .error (.file e) => (.failed (.read (.file e)), w)
      | .ok markup =>
        match MarkupJsx.output markup j.component with
        | .error e => (.failed (.conversion e), w)
        | .ok t => (deliver target force t : StateM World _).run w := by
  have hrun := run_runConvert { c with output := target } w
  simp only [h.source hj, h.component, h.force, componentName_of_isNamed hnamed] at hrun ⊢
  exact hrun

@[simp] theorem Outcome.refused_ending (r : Refusal) : (Outcome.refused r).ending = .refused r := rfl

@[simp] theorem Outcome.failed_ending (f : Failure) : (Outcome.failed f).ending = .failed f := rfl

/-- The command is done exactly when the job has no fault, and leaves the same world. -/
theorem conversion_of_jobRun {j : Job} {c : ConvertOptions} {fault : Option JobFault} (h : Orders force j c)
    (hj : j.input ≠ Path.ofText Source.marker) (hnamed : j.IsNamed) (hrun : JobRun force j w (.ok fault) w') :
    ∃ r, (runConvert c : StateM World _).run w = (r, w') ∧ (r.ending = .done ↔ fault = none) := by
  obtain ⟨target, hto, htarget⟩ := h.output
  have hc := run_runConvert_of_orders h hj hnamed c.output w
  rw [hto] at hc
  simp only [← hto] at hc
  rw [hc]
  cases hrun with
  | inputNotFound hin =>
    rw [Source.ofPath_of_ne hj]
    simp only [World.markup, hin]
    exact ⟨_, rfl, by simp⟩
  | outputExists hin hout hforce =>
    -- the command finds the output only after it has read and rendered the input
    subst hforce
    rcases w.markup (.ofPath j.input) with (_ | _ | _) | markup
    · exact ⟨_, rfl, by simp⟩
    · exact ⟨_, rfl, by simp⟩
    · exact ⟨_, rfl, by simp⟩
    rcases hr : output markup j.component with e | t
    · simp only [hr]
      exact ⟨_, rfl, by simp⟩
    · simp only [hr, hto, run_deliver_file, htarget, hout]
      exact ⟨_, rfl, by simp⟩
  | undecodable hready hm =>
    simp only [hm]
    exact ⟨_, rfl, by simp⟩
  | rejected hready hm hp he =>
    simp only [hm, output, hp]
    exact ⟨_, rfl, by simp⟩
  | written hready hm hr hw =>
    obtain ⟨there, hout, hclear⟩ := hready.output
    simp only [hm, hr, hto, run_deliver_file, htarget, hout, hclear, hw]
    exact ⟨_, rfl, fun _ => trivial, fun _ => rfl⟩

/-- A job without a fault has written what its input is rendered as. -/
theorem written_of_jobRun {j : Job} (h : JobRun force j w (.ok none) w') :
    IsReady force j w ∧ ∃ markup t, w.markup (.ofPath j.input) = .ok markup ∧ output markup j.component = .ok t ∧
      w'.tree.read j.output = .ok (Text.Utf8.encode t) := by
  cases h with
  | written hready hm hr hw => exact ⟨hready, _, _, hm, hr, ((World.files_of_writeText hw).1 rfl).read⟩

/-- And that is what the command prints when it is given no file. -/
theorem printed_of_jobRun {j : Job} {c : ConvertOptions} (h : Orders force j c)
    (hj : j.input ≠ Path.ofText Source.marker) (hnamed : j.IsNamed) (hrun : JobRun force j w (.ok none) w') :
    ∃ t, (runConvert { c with output := none } : StateM World _).run w = (.printed t, w) ∧
      w'.tree.read j.output = .ok (Text.Utf8.encode t) := by
  obtain ⟨-, markup, t, hm, hr, hread⟩ := written_of_jobRun hrun
  refine ⟨t, ?_, hread⟩
  rw [run_runConvert_of_orders h hj hnamed none w]
  simp only [hm, hr]
  rfl

/-! ## Jobs in order -/

theorem run_mapM_cons {α β : Type} (f : α → StateM World β) (a : α) (rest : List α) (w : World) :
    ((a :: rest).mapM f : StateM World _).run w =
      (((f a).run w).1 :: ((rest.mapM f).run ((f a).run w).2).1, ((rest.mapM f).run ((f a).run w).2).2) := by
  rw [List.mapM_cons]
  rfl

theorem conversions_of_attempts {jobs : List Job} {cs : List ConvertOptions} {faults : List (Option JobFault)}
    (h : Attempts force w jobs faults w') (hcs : List.Forall₂ (Orders force) jobs cs)
    (hjobs : ∀ j ∈ jobs, j.input ≠ Path.ofText Source.marker ∧ j.IsNamed) :
    ∃ outcomes, (cs.mapM runConvert : StateM World _).run w = (outcomes, w') ∧
      List.Forall₂ (fun (r : Outcome) fault => r.ending = .done ↔ fault = none) outcomes faults := by
  induction h generalizing cs with
  | nil =>
    cases hcs
    exact ⟨[], rfl, .nil⟩
  | cons hj _ ih =>
    cases hcs with
    | cons hc hcs =>
      obtain ⟨⟨hinput, hnamed⟩, hrest⟩ := List.forall_mem_cons.mp hjobs
      obtain ⟨r, hr, hdone⟩ := conversion_of_jobRun hc hinput hnamed hj
      obtain ⟨outcomes, hw, houtcomes⟩ := ih hcs hrest
      refine ⟨r :: outcomes, ?_, .cons hdone houtcomes⟩
      rw [run_mapM_cons, hr, hw]

/-- The first jobs, and the world between them and the others. -/
theorem Attempts.take {jobs : List Job} {faults : List (Option JobFault)} (h : Attempts force w jobs faults w') (n : Nat) :
    Attempts force w (jobs.take n) (faults.take n) (worldAfter force w jobs n) := by
  induction h generalizing n with
  | nil =>
    simp only [List.take_nil, worldAfter]
    exact .nil
  | cons hj _ ih =>
    cases n with
    | zero => exact .nil
    | succ n =>
      rw [worldAfter_cons hj]
      exact .cons hj (ih n)

theorem keepsKinds_of_runJob {j : Job} {r : Except Failure (Option JobFault)} (h : JobRun force j w r w') :
    w.tree.KeepsKinds w'.tree := by
  rcases runJob_world (run_of_jobRun h) with rfl | hw
  · exact .refl _
  · exact keepsKinds_of_writes hw

theorem keepsKinds_worldAfter {jobs : List Job} {faults : List (Option JobFault)} (h : Attempts force w jobs faults w')
    {i k : Nat} (hik : i ≤ k) (hk : k ≤ jobs.length) :
    (worldAfter force w jobs i).tree.KeepsKinds (worldAfter force w jobs k).tree := by
  induction hik with
  | refl => exact .refl _
  | @step k _ ih =>
    obtain ⟨fault, -, hrun⟩ := h.at (List.getElem?_eq_getElem hk)
    exact (ih (Nat.le_of_succ_le hk)).trans (keepsKinds_of_runJob hrun)

/-- Something is at the output of a job that has written it, or that reports it. -/
theorem lookup_of_jobRun {j : Job} {fault : Option JobFault} (h : JobRun force j w (.ok fault) w')
    (hfault : fault = none ∨ fault = some (.outputExists j.output)) : ∃ e, w'.tree.lookup j.output = .ok e := by
  rcases hfault with rfl | rfl
  · obtain ⟨-, markup, t, -, -, hread⟩ := written_of_jobRun h
    exact Tree.lookup_of_read hread
  · cases h with
    | outputExists _ hout _ => exact Tree.lookup_of_isThere hout

/-- Without force a file is written by the first job that can run and has it for its output: a
    job before that has the same output has another fault than that it is there. -/
theorem output_written_once {jobs : List Job} {faults : List (Option JobFault)} (h : Attempts false w jobs faults w')
    {i k : Nat} {j j' : Job} (hik : i < k) (hi : jobs[i]? = some j) (hk : jobs[k]? = some j')
    (hsame : j.output = j'.output) (hwritten : faults[k]? = some none) :
    ∃ x, faults[i]? = some (some x) ∧ x ≠ .outputExists j.output := by
  obtain ⟨fault, hfault, hrun⟩ := h.at hi
  obtain ⟨_, hnone, hrun'⟩ := h.at hk
  rw [hwritten] at hnone
  cases hnone
  obtain ⟨⟨-, there, hout, hclear⟩, -⟩ := written_of_jobRun hrun'
  have hlast : ¬∃ e, (worldAfter false w jobs k).tree.lookup j.output = .ok e := by
    rintro ⟨e, he⟩
    rw [← hsame, Tree.isThere_of_lookup he] at hout
    cases hout
    cases hclear
  have hlookup : ¬(fault = none ∨ fault = some (.outputExists j.output)) := by
    intro hx
    obtain ⟨e, he⟩ := lookup_of_jobRun hrun hx
    have hlength := (List.getElem?_eq_some_iff.mp hk).1
    exact hlast (Tree.exists_lookup_mono (keepsKinds_worldAfter h hik (Nat.le_of_lt hlength)) he)
  cases fault with
  | none => exact absurd (.inl rfl) hlookup
  | some x => exact ⟨x, hfault, fun hx => hlookup (.inr (by rw [hx]))⟩

/-! ## Reports -/

theorem report_of_none {p : Path} {jobs : List Job} {n : Nat} {faults : List (Option JobFault)} (h : ∀ x, some x ∉ faults) :
    report p jobs (.ok (numbered n faults)) =
      .printed ("Converted ".toList ++ Text.ofNat jobs.length ++ " file(s) from ".toList ++ p.name.shown ++ ".\n".toList) := by
  rw [(numbered_eq_nil_iff n faults).mpr h]
  rfl

theorem report_of_some {p : Path} {jobs : List Job} {n : Nat} {faults : List (Option JobFault)} (h : ∃ x, some x ∈ faults) :
    report p jobs (.ok (numbered n faults)) =
      ⟨[], (numbered n faults).flatMap fun (n, x) => reportLine p n x, .status 1⟩ := by
  have hne : numbered n faults ≠ [] := fun hnil =>
    h.elim fun x hx => (numbered_eq_nil_iff n faults).mp hnil x hx
  obtain ⟨y, ys, hy⟩ := List.exists_cons_of_ne_nil hne
  rw [hy]
  rfl

/-! ## Whole batches -/

/-- The jobs of a manifest are conversions that can be asked for, when their paths can be
    spelled. -/
theorem exists_orders {homes : Homes} {t : Tree} {p : Path} {jobs : List Job} (force : Bool)
    (hhomes : ∀ user home, homes user = some home → home.IsNormal) (hp : p.IsNormal) (h : jobsAt homes t p = .ok jobs)
    (hspelled : ∀ j ∈ jobs, (∃ s, j.input.toWide = .ofText s) ∧ ∃ s, j.output.toWide = .ofText s) :
    ∃ cs, List.Forall₂ (Orders force) jobs cs := by
  unfold jobsAt at h
  cases ht : t.text p with
  | error e => rw [ht] at h; cases h
  | ok s =>
    rw [ht] at h
    have hnormal := Manifest.normal_of_jobsIn hhomes hp.parent h
    clear h
    induction jobs with
    | nil => exact ⟨[], .nil⟩
    | cons j rest ih =>
      obtain ⟨⟨hi, ho⟩, hrest⟩ := List.forall_mem_cons.mp hnormal
      obtain ⟨⟨⟨input, hinput⟩, target, htarget⟩, hspelled⟩ := List.forall_mem_cons.mp hspelled
      obtain ⟨cs, hcs⟩ := ih hspelled hrest
      refine ⟨⟨input, some (some target), j.component, force⟩ :: cs, .cons ⟨?_, ⟨target, rfl, ?_⟩, rfl, rfl⟩ hcs⟩
      · rw [Path.ofText, ← hinput, Path.ofWide_toWide hi]
      · rw [Path.ofText, ← htarget, Path.ofWide_toWide ho]

theorem attempts_of_run_batch {homes : Homes} {args : List Text} {o : BatchOptions} {source : Text} {jobs : List Job}
    (hargs : Order.ofTexts args = .ok (.batch o)) (ho : o.manifest = some source)
    (hjobs : jobsAt homes w.tree (Path.ofText source) = .ok jobs)
    (hends : ∀ f, ((run homes args : StateM World Outcome).run w).1.ending ≠ .failed f) :
    ∃ faults w', Attempts o.force w jobs faults w' ∧
      (run homes args : StateM World Outcome).run w =
        (report (Path.ofText source) jobs (.ok (numbered 1 faults)), w') := by
  have hrun : (run homes args : StateM World Outcome).run w = (runBatch homes o : StateM World _).run w := by
    simp only [run, hargs]
  rw [hrun, run_runBatch ho hjobs] at hends ⊢
  rcases run_runJobs o.force 1 jobs w with ⟨faults, w', ha, hw⟩ | ⟨f, w', -, hw⟩
  · exact ⟨faults, w', ha, by rw [hw]⟩
  · rw [hw] at hends
    exact absurd rfl (hends f)

/-- A batch that no job stops, whose inputs are not written like the marker. There are the
    faults of the jobs, and the world that is left at the end:
    it prints how many files were converted when there is no fault, and otherwise reports each
    one, in the order of the jobs, and ends with status one;
    the commands for the same conversions, run in order, leave the same world, after each of
    them and at the end; a command is not done exactly when its job has a fault; and a file
    that a job has written holds what the command would have printed;
    and without force a job writes its output only when no job before it that has the same
    output could run. -/
theorem batch_is_its_conversions (homes : Homes) (args : List Text) (w : World) (o : BatchOptions) (source : Text)
    (jobs : List Job) (hargs : Order.ofTexts args = .ok (.batch o)) (ho : o.manifest = some source)
    (hjobs : jobsAt homes w.tree (Path.ofText source) = .ok jobs)
    (hinputs : ∀ j ∈ jobs, j.input ≠ Path.ofText Source.marker)
    (hends : ∀ f, ((run homes args : StateM World Outcome).run w).1.ending ≠ .failed f) :
    ∃ (faults : List (Option JobFault)) (r : Outcome) (w' : World),
      (run homes args : StateM World Outcome).run w = (r, w') ∧ faults.length = jobs.length ∧
      ((∀ x, some x ∉ faults) →
        r = .printed ("Converted ".toList ++ Text.ofNat jobs.length ++ " file(s) from ".toList ++
          (Path.ofText source).name.shown ++ ".\n".toList)) ∧
      ((∃ x, some x ∈ faults) →
        r = ⟨[], (numbered 1 faults).flatMap fun (n, x) => reportLine (Path.ofText source) n x, .status 1⟩) ∧
      (∀ cs, List.Forall₂ (Orders o.force) jobs cs →
        (∃ outcomes, (cs.mapM runConvert : StateM World _).run w = (outcomes, w') ∧
          List.Forall₂ (fun (r : Outcome) fault => r.ending = .done ↔ fault = none) outcomes faults) ∧
        ∀ (k : Nat) (j : Job) (c : ConvertOptions), jobs[k]? = some j → cs[k]? = some c →
          (((cs.take k).mapM runConvert : StateM World _).run w).2 = worldAfter o.force w jobs k ∧
          (faults[k]? = some none →
            ∃ t, (runConvert { c with output := none } : StateM World _).run (worldAfter o.force w jobs k) =
                (.printed t, worldAfter o.force w jobs k) ∧
              (worldAfter o.force w jobs (k + 1)).tree.read j.output = .ok (Text.Utf8.encode t))) ∧
      (o.force = false → ∀ (i k : Nat) (j j' : Job), i < k → jobs[i]? = some j → jobs[k]? = some j' → j.output = j'.output →
        faults[k]? = some none → ∃ x, faults[i]? = some (some x) ∧ x ≠ .outputExists j.output) := by
  obtain ⟨faults, w', hattempts, hrun⟩ := attempts_of_run_batch hargs ho hjobs hends
  have hsound : ∀ j ∈ jobs, j.input ≠ Path.ofText Source.marker ∧ j.IsNamed := fun j hj =>
    ⟨hinputs j hj, named_of_jobsAt hjobs j hj⟩
  refine ⟨faults, _, w', hrun, hattempts.length, report_of_none, report_of_some, fun cs hcs => ⟨?_, ?_⟩, ?_⟩
  · exact conversions_of_attempts hattempts hcs hsound
  · intro k j c hj hc
    have hbefore := conversions_of_attempts (hattempts.take k) (List.forall₂_take k hcs) fun j hj =>
      hsound j (List.mem_of_mem_take hj)
    obtain ⟨outcomes, hw, -⟩ := hbefore
    refine ⟨by rw [hw], fun hnone => ?_⟩
    obtain ⟨fault, hfault, hjob⟩ := hattempts.at hj
    rw [hnone] at hfault
    cases hfault
    obtain ⟨hinput, hnamed⟩ := hsound j (List.mem_of_getElem? hj)
    obtain ⟨hk, rfl⟩ := List.getElem?_eq_some_iff.mp hj
    obtain ⟨hk', rfl⟩ := List.getElem?_eq_some_iff.mp hc
    exact printed_of_jobRun (hcs.get hk hk') hinput hnamed hjob
  · intro hforce i k j j' hik hi hk hsame hwritten
    rw [hforce] at hattempts
    exact output_written_once hattempts hik hi hk hsame hwritten

/-- A job that reads what the one before it wrote, and one that has the same output. -/
def chain : List Job :=
  [plainJob "page" "b", { plainJob "b" "c" with component := some "Page".toList }, plainJob "page" "c"]

def chainWorld : World :=
  pagesWorld "jobs: [{input: page, output: b}, {input: b, output: c, component: Page}, {input: page, output: c}]"

def chainCommands : List ConvertOptions :=
  [⟨"page".toList, some (some "b".toList), none, false⟩, ⟨"b".toList, some (some "c".toList), some "Page".toList, false⟩,
    ⟨"page".toList, some (some "c".toList), none, false⟩]

theorem chain_orders : List.Forall₂ (Orders false) chain chainCommands :=
  .cons ⟨by decide, ⟨_, rfl, by decide⟩, rfl, rfl⟩ <| .cons ⟨by decide, ⟨_, rfl, by decide⟩, rfl, rfl⟩ <|
    .cons ⟨by decide, ⟨_, rfl, by decide⟩, rfl, rfl⟩ .nil

/-- The commands leave what the batch leaves, and the last one is refused what the last job is. -/
theorem batch_is_its_conversions_chain :
    Order.ofTexts batchArgs = .ok (.batch batchOptions) ∧ batchOptions.manifest = some "m".toList ∧
      jobsAt (fun _ => none) chainWorld.tree (Path.ofText "m".toList) = .ok chain ∧
      (∀ j ∈ chain, j.input ≠ Path.ofText Source.marker) ∧ List.Forall₂ (Orders batchOptions.force) chain chainCommands ∧
      ∃ outcomes w',
        (run (fun _ => none) batchArgs : StateM World Outcome).run chainWorld =
          (⟨[], "m job 3: output already exists: c. Use --force to overwrite.\n".toList, .status 1⟩, w') ∧
        (chainCommands.mapM runConvert : StateM World _).run chainWorld = (outcomes, w') ∧
        w'.tree.entry? [utf8 "c"] =
          some (.file (utf8 "export default function Page() \x7b\n  return (\n    <p>x</p>\n  );\n\x7d\n")) := by
  have hargs : Order.ofTexts batchArgs = .ok (.batch batchOptions) := by decide +kernel
  have ho : batchOptions.manifest = some "m".toList := rfl
  have hjobs : jobsAt (fun _ => none) chainWorld.tree (Path.ofText "m".toList) = .ok chain := by decide +kernel
  have hinputs : ∀ j ∈ chain, j.input ≠ Path.ofText Source.marker := by decide +kernel
  have hrun : ((run (fun _ => none) batchArgs : StateM World Outcome).run chainWorld).1 =
        ⟨[], "m job 3: output already exists: c. Use --force to overwrite.\n".toList, .status 1⟩ ∧
      ((run (fun _ => none) batchArgs : StateM World Outcome).run chainWorld).2.tree.entry? [utf8 "c"] =
        some (.file (utf8 "export default function Page() \x7b\n  return (\n    <p>x</p>\n  );\n\x7d\n")) := by
    simp only [run, hargs, run_runBatch ho hjobs]
    decide +kernel
  refine ⟨hargs, ho, hjobs, hinputs, chain_orders, ?_⟩
  obtain ⟨faults, r, w', hw, -, -, -, hcommands, -⟩ :=
    batch_is_its_conversions (fun _ => none) batchArgs chainWorld batchOptions _ chain hargs ho hjobs hinputs
      fun f hf => by rw [hrun.1] at hf; cases hf
  obtain ⟨⟨outcomes, hsingle, -⟩, -⟩ := hcommands chainCommands chain_orders
  rw [hw] at hrun
  obtain ⟨rfl, hentry⟩ := hrun
  exact ⟨outcomes, w', hw, hsingle, hentry⟩

end Command

end MarkupJsx
