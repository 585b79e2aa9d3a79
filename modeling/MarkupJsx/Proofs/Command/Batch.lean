/-
  MarkupJsx.Proofs.Command.Batch — how far a batch goes.

  Rule. Jobs are attempted in order, each in the world that the one before left. As long as
  each ends with a fault or none, all are attempted, and every fault is reported with the
  number of its job (`Attempts`). A job that ends otherwise ends the batch: those behind it are
  not attempted, and what was to be reported is lost. The names of components are those of a
  manifest, so what is left are errors of the files and numbers with too many digits (`Stops`,
  `batch_reports_or_stops`). A directory in the place of an input is such an error
  (`batch_stopped_by_directory`).
-/

import MarkupJsx.Proofs.Command.Runs
import MarkupJsx.Proofs.Manifest.Names

namespace MarkupJsx.Command

open Manifest (Homes Job)

variable {w w' : World} {force : Bool}

/-! ## Jobs in order -/

/-- All the jobs, each in the world that the one before left, and the fault of each if it has
    one. -/
inductive Attempts (force : Bool) : World → List Job → List (Option JobFault) → World → Prop
  | nil {w : World} : Attempts force w [] [] w
  | cons {w w' w'' : World} {j : Job} {rest : List Job} {fault : Option JobFault} {faults : List (Option JobFault)} :
      JobRun force j w (.ok fault) w' → Attempts force w' rest faults w'' →
      Attempts force w (j :: rest) (fault :: faults) w''

/-- The faults there are, each with the number of its job. -/
def numbered : Nat → List (Option JobFault) → List (Nat × JobFault)
  | _, [] => []
  | n, none :: rest => numbered (n + 1) rest
  | n, some x :: rest => (n, x) :: numbered (n + 1) rest

/-- A job fails in the world that those before it left, and those behind it are not attempted. -/
inductive Stopped (force : Bool) : World → List Job → Failure → World → Prop
  | now {w w' : World} {j : Job} {rest : List Job} {f : Failure} :
      JobRun force j w (.error f) w' → Stopped force w (j :: rest) f w'
  | later {w w' w'' : World} {j : Job} {rest : List Job} {fault : Option JobFault} {f : Failure} :
      JobRun force j w (.ok fault) w' → Stopped force w' rest f w'' → Stopped force w (j :: rest) f w''

theorem run_runJobs (force : Bool) (n : Nat) (jobs : List Job) (w : World) :
    (∃ faults w', Attempts force w jobs faults w' ∧
      (runJobs force n jobs : StateM World _).run w = (.ok (numbered n faults), w')) ∨
    ∃ f w', Stopped force w jobs f w' ∧ (runJobs force n jobs : StateM World _).run w = (.error f, w') := by
  induction jobs generalizing n w with
  | nil => exact .inl ⟨[], w, .nil, rfl⟩
  | cons j rest ih =>
    rw [run_runJobs_cons]
    rcases hrun : (runJob force j : StateM World _).run w with ⟨f | fault, w'⟩
    · exact .inr ⟨f, w', .now (jobRun_iff.mpr hrun), rfl⟩
    · have hj := jobRun_iff.mpr hrun
      rcases ih (n + 1) w' with ⟨faults, w'', hrest, hw⟩ | ⟨f, w'', hrest, hw⟩
      · refine .inl ⟨fault :: faults, w'', .cons hj hrest, ?_⟩
        simp only [hw]
        cases fault <;> rfl
      · refine .inr ⟨f, w'', .later hj hrest, ?_⟩
        simp only [hw]
        rfl

/-! ## Between two jobs -/

/-- Where the numbers begin makes no difference to the world. -/
theorem runJobs_world (force : Bool) (n m : Nat) (jobs : List Job) (w : World) :
    ((runJobs force n jobs : StateM World _).run w).2 = ((runJobs force m jobs : StateM World _).run w).2 := by
  induction jobs generalizing n m w with
  | nil => rfl
  | cons j rest ih =>
    rw [run_runJobs_cons, run_runJobs_cons]
    rcases (runJob force j : StateM World _).run w with ⟨_ | _, w'⟩
    · rfl
    · exact ih (n + 1) (m + 1) w'

theorem attempts_of_run {n : Nat} {jobs : List Job} {numbers : List (Nat × JobFault)}
    (h : (runJobs force n jobs : StateM World _).run w = (.ok numbers, w')) :
    ∃ faults, Attempts force w jobs faults w' ∧ numbers = numbered n faults := by
  rcases run_runJobs force n jobs w with ⟨faults, v, ha, hv⟩ | ⟨f, v, -, hv⟩ <;> rw [h] at hv <;> cases hv
  exact ⟨faults, ha, rfl⟩

/-- The world that the first jobs leave. -/
def worldAfter (force : Bool) (w : World) (jobs : List Job) (n : Nat) : World :=
  ((runJobs force 1 (jobs.take n) : StateM World _).run w).2

theorem worldAfter_cons {j : Job} {fault : Option JobFault} (h : JobRun force j w (.ok fault) w') (rest : List Job) (n : Nat) :
    worldAfter force w (j :: rest) (n + 1) = worldAfter force w' rest n := by
  simp only [worldAfter, List.take_succ_cons, run_runJobs_cons, run_of_jobRun h]
  exact runJobs_world force 2 1 _ w'

/-- Each job runs in the world that those before it left, and leaves it to the next one. -/
theorem Attempts.at {jobs : List Job} {faults : List (Option JobFault)} {n : Nat} {j : Job}
    (h : Attempts force w jobs faults w') (hj : jobs[n]? = some j) :
    ∃ fault, faults[n]? = some fault ∧
      JobRun force j (worldAfter force w jobs n) (.ok fault) (worldAfter force w jobs (n + 1)) := by
  induction h generalizing n with
  | nil => cases hj
  | @cons v v' _ i rest fault _ hi _ ih =>
    cases n with
    | zero =>
      obtain rfl : i = j := Option.some.inj hj
      exact ⟨fault, rfl, by rw [worldAfter_cons hi]; exact hi⟩
    | succ n =>
      obtain ⟨fault', hfault, hrun⟩ := ih hj
      refine ⟨fault', hfault, ?_⟩
      rw [worldAfter_cons hi, worldAfter_cons hi]
      exact hrun

theorem Attempts.length {jobs : List Job} {faults : List (Option JobFault)} (h : Attempts force w jobs faults w') :
    faults.length = jobs.length := by
  induction h with
  | nil => rfl
  | cons _ _ ih => simp [ih]

/-- A fault has the number of its job. -/
theorem mem_numbered {n k : Nat} {x : JobFault} {faults : List (Option JobFault)} :
    (n + k, x) ∈ numbered n faults ↔ faults[k]? = some (some x) := by
  suffices h : ∀ m, (m, x) ∈ numbered n faults ↔ ∃ k, m = n + k ∧ faults[k]? = some (some x) by
    rw [h]
    exact ⟨fun ⟨k', hk, hx⟩ => by rwa [show k = k' by omega], fun hx => ⟨k, rfl, hx⟩⟩
  intro m
  induction faults generalizing n with
  | nil => simp [numbered]
  | cons fault rest ih =>
    have hlater : (m, x) ∈ numbered (n + 1) rest ↔ ∃ k, m = n + (k + 1) ∧ rest[k]? = some (some x) := by
      rw [ih]
      exact exists_congr fun k => and_congr_left' ⟨fun h => by omega, fun h => by omega⟩
    have hsplit : (∃ k, m = n + k ∧ (fault :: rest)[k]? = some (some x)) ↔
        (m = n ∧ fault = some x) ∨ ∃ k, m = n + (k + 1) ∧ rest[k]? = some (some x) := by
      constructor
      · rintro ⟨_ | k, hm, hx⟩
        · exact .inl ⟨hm, Option.some.inj hx⟩
        · exact .inr ⟨k, hm, hx⟩
      · rintro (⟨hm, rfl⟩ | ⟨k, hm, hx⟩)
        · exact ⟨0, hm, rfl⟩
        · exact ⟨k + 1, hm, hx⟩
    rw [hsplit, ← hlater]
    cases fault with
    | none => simp [numbered]
    | some y =>
      simp only [numbered, List.mem_cons, Prod.mk.injEq, Option.some.injEq]
      rw [@eq_comm _ x y]

/-! ## Reasons to stop -/

/-- The failures that end a batch: the files refuse an answer, an input is there and cannot be
    read, or a number in it has too many digits. -/
def Failure.Stops : Failure → Prop
  | .file _ | .read (.file _) | .conversion (.markup (.tooManyDigits _)) => True
  | _ => False

theorem stops_of_jobRun {j : Job} {f : Failure} (hj : j.IsNamed) (h : JobRun force j w (.error f) w') : f.Stops := by
  cases h with
  | badName _ _ hr => exact absurd hr (Manifest.output_ne_componentName hj _ _)
  | _ => trivial

theorem stops_of_stopped {jobs : List Job} {f : Failure} (hjobs : ∀ j ∈ jobs, j.IsNamed)
    (h : Stopped force w jobs f w') : f.Stops := by
  induction h with
  | now hj => exact stops_of_jobRun (hjobs _ (List.mem_cons_self ..)) hj
  | later _ _ ih => exact ih fun j hj => hjobs j (List.mem_cons_of_mem _ hj)

theorem named_of_jobsAt {homes : Homes} {t : Tree} {p : Path} {jobs : List Job} (h : jobsAt homes t p = .ok jobs) :
    ∀ j ∈ jobs, j.IsNamed := by
  unfold jobsAt at h
  cases ht : t.text p with
  | error e => rw [ht] at h; cases h
  | ok s => rw [ht] at h; exact Manifest.named_of_jobsIn h

/-! ## Whole batches -/

theorem numbered_eq_nil_iff (n : Nat) (faults : List (Option JobFault)) :
    numbered n faults = [] ↔ ∀ x, some x ∉ faults := by
  induction faults generalizing n with
  | nil => simp [numbered]
  | cons fault rest ih =>
    cases fault with
    | none => simp [numbered, ih]
    | some x => exact ⟨nofun, fun h => absurd (List.mem_cons_self ..) (h x)⟩

theorem ending_report_iff {p : Path} {jobs : List Job} {n : Nat} {faults : List (Option JobFault)} :
    (report p jobs (.ok (numbered n faults))).ending = .status 1 ↔ ∃ x, some x ∈ faults := by
  have hnil := numbered_eq_nil_iff n faults
  cases hf : numbered n faults with
  | nil => simpa [hf, report, Outcome.printed] using hnil
  | cons x rest => simpa [hf, report] using hnil

theorem report_ne_refused {p : Path} {jobs : List Job} {r : Except Failure (List (Nat × JobFault))} (cause : Refusal) :
    (report p jobs r).ending ≠ .refused cause := by
  rcases r with _ | _ | _ <;> exact nofun

theorem stops_of_report {p : Path} {jobs : List Job} {n : Nat} {f : Failure} (hjobs : ∀ j ∈ jobs, j.IsNamed)
    (h : (report p jobs ((runJobs force n jobs : StateM World _).run w).1).ending = .failed f) : f.Stops := by
  rcases run_runJobs force n jobs w with ⟨faults, w', -, hw⟩ | ⟨f', w', hs, hw⟩ <;> rw [hw] at h
  · cases hf : numbered n faults <;> rw [hf] at h <;> cases h
  · cases h
    exact stops_of_stopped hjobs hs

/-- A batch whose manifest loads attempts all its jobs, and reports the faults with status one
    if there are any; or one of three failures of a job stops it. -/
theorem batch_reports_or_stops (homes : Homes) (args : List Text) (w : World) (o : BatchOptions) (source : Text)
    (jobs : List Job) (hargs : Order.ofTexts args = .ok (.batch o)) (ho : o.manifest = some source)
    (hjobs : jobsAt homes w.tree (Path.ofText source) = .ok jobs) :
    (∃ faults w', Attempts o.force w jobs faults w' ∧
      (run homes args : StateM World Outcome).run w =
        (report (Path.ofText source) jobs (.ok (numbered 1 faults)), w') ∧
      (((run homes args : StateM World Outcome).run w).1.ending = .status 1 ↔ ∃ x, some x ∈ faults)) ∨
    ∃ f w', Stopped o.force w jobs f w' ∧ f.Stops ∧
      (run homes args : StateM World Outcome).run w = (.failed f, w') := by
  simp only [run, hargs, run_runBatch ho hjobs]
  rcases run_runJobs o.force 1 jobs w with ⟨faults, w', ha, hw⟩ | ⟨f, w', hs, hw⟩
  · rw [hw]
    exact .inl ⟨faults, w', ha, rfl, ending_report_iff⟩
  · rw [hw]
    exact .inr ⟨f, w', hs, stops_of_stopped (named_of_jobsAt hjobs) hs, rfl⟩

/-- A page, a directory, and a manifest. -/
def pagesWorld (manifest : String) : World :=
  ⟨⟨[], [([utf8 "page"], .file (utf8 "<p>x</p>")), ([utf8 "dir"], .directory), ([utf8 "m"], .file (utf8 manifest))]⟩, []⟩

def batchArgs : List Text := ["batch", "--manifest", "m"].map String.toList

def batchOptions : BatchOptions := ⟨some "m".toList, false⟩

/-- The job from a file to a file. -/
def plainJob (input output : String) : Job := ⟨Path.ofText input.toList, Path.ofText output.toList, none⟩

def missingInput : World := pagesWorld "jobs: [{input: x, output: a}, {input: page, output: b}]"

/-- The first job has no input, and the second one is attempted nevertheless. -/
theorem batch_reports_missingInput :
    Order.ofTexts batchArgs = .ok (.batch batchOptions) ∧ batchOptions.manifest = some "m".toList ∧
      jobsAt (fun _ => none) missingInput.tree (Path.ofText "m".toList) = .ok [plainJob "x" "a", plainJob "page" "b"] ∧
      ∃ faults w', Attempts false missingInput [plainJob "x" "a", plainJob "page" "b"] faults w' ∧
        (run (fun _ => none) batchArgs : StateM World Outcome).run missingInput =
          (⟨[], "m job 1: input not found: x\n".toList, .status 1⟩, w') ∧
        w'.tree.entry? [utf8 "b"] = some (.file (utf8 "<p>x</p>\n")) := by
  have hargs : Order.ofTexts batchArgs = .ok (.batch batchOptions) := by decide +kernel
  have ho : batchOptions.manifest = some "m".toList := rfl
  have hjobs : jobsAt (fun _ => none) missingInput.tree (Path.ofText "m".toList) =
      .ok [plainJob "x" "a", plainJob "page" "b"] := by decide +kernel
  have hrun : ((run (fun _ => none) batchArgs : StateM World Outcome).run missingInput).1 =
        ⟨[], "m job 1: input not found: x\n".toList, .status 1⟩ ∧
      ((run (fun _ => none) batchArgs : StateM World Outcome).run missingInput).2.tree.entry? [utf8 "b"] =
        some (.file (utf8 "<p>x</p>\n")) := by
    simp only [run, hargs, run_runBatch ho hjobs]
    decide +kernel
  refine ⟨hargs, ho, hjobs, ?_⟩
  rcases batch_reports_or_stops (fun _ => none) batchArgs missingInput batchOptions _ _ hargs ho hjobs
    with ⟨faults, w', ha, hw, -⟩ | ⟨f, w', -, -, hw⟩ <;> rw [hw] at hrun
  · exact ⟨faults, w', ha, by rw [hw, ← hrun.1], hrun.2⟩
  · cases hrun.1

def directoryInput : World := pagesWorld "jobs: [{input: x, output: a}, {input: dir, output: a}, {input: page, output: b}]"

/-- The second job has a directory for its input: nothing is reported of the first one, and the
    third one is not attempted. -/
theorem batch_stopped_by_directory :
    jobsAt (fun _ => none) directoryInput.tree (Path.ofText "m".toList) =
        .ok [plainJob "x" "a", plainJob "dir" "a", plainJob "page" "b"] ∧
      ((run (fun _ => none) batchArgs : StateM World Outcome).run directoryInput).1 =
        .failed (.read (.file (.isDirectory (Path.ofText "dir".toList)))) ∧
      ((run (fun _ => none) batchArgs : StateM World Outcome).run directoryInput).2.tree.entry? [utf8 "b"] = none := by
  have hargs : Order.ofTexts batchArgs = .ok (.batch batchOptions) := by decide +kernel
  have ho : batchOptions.manifest = some "m".toList := rfl
  have hjobs : jobsAt (fun _ => none) directoryInput.tree (Path.ofText "m".toList) =
      .ok [plainJob "x" "a", plainJob "dir" "a", plainJob "page" "b"] := by decide +kernel
  refine ⟨hjobs, ?_⟩
  simp only [run, hargs, run_runBatch ho hjobs]
  decide +kernel

end MarkupJsx.Command
