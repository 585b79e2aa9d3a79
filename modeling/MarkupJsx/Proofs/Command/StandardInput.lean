/-
  MarkupJsx.Proofs.Command.StandardInput — what a batch makes of the standard input.

  Rule. Nothing is ever put into the standard input, and only a source that is the standard
  input is read from it. So an action that has no such source does the same whatever is in it
  (`World.IgnoresInput`). The sources of a batch are paths, but the path that is written like
  the marker is taken for the marker: a job with that path reads the standard input once its
  input and its output have been looked at (`ReadsInput`), and no other job does.

  `batch_ignores_standardInput`: the standard input makes no difference to a batch, to its
  files, its outcome and its messages, unless such a job is reached. That takes a manifest in
  the current directory, or in a directory whose name is the marker.

  There it does make a difference: a job for a file with that name looks whether the file is
  there, and then renders what the standard input holds (`batch_reads_standardInput`).
-/

import MarkupJsx.Proofs.Command.Batch

namespace MarkupJsx

variable {α β : Type}

namespace World

/-- The same files, and this in the standard input. -/
def withInput (w : World) (input : Bytes) : World := { w with input := input }

@[simp] theorem withInput_tree (w : World) (input : Bytes) : (w.withInput input).tree = w.tree := rfl

/-- The action answers the same and does the same to the files, whatever is in the standard
    input, and leaves that there. -/
def IgnoresInput (x : StateM World α) : Prop :=
  ∀ w input, x.run (w.withInput input) = ((x.run w).1, (x.run w).2.withInput input)

theorem ignoresInput_pure (a : α) : IgnoresInput (pure a) := fun _ _ => rfl

theorem IgnoresInput.bind {x : StateM World α} {f : α → StateM World β} (hx : IgnoresInput x)
    (hf : ∀ a, IgnoresInput (f a)) : IgnoresInput (x >>= f) := by
  intro w input
  rw [run_bind, run_bind, hx w input, hf]

theorem ignoresInput_order (f : Tree → Except FileError Tree) : IgnoresInput (order f) := by
  intro w input
  rw [run_order, run_order, withInput_tree]
  cases f w.tree <;> rfl

theorem ignoresInput_isDirectory (p : Path) : IgnoresInput (Storage.isDirectory p) := by
  refine IgnoresInput.bind (x := Storage.kind p) (fun _ _ => rfl) fun r => ?_
  split <;> exact ignoresInput_pure _

theorem ignoresInput_ensureDirectory (p : Path) : IgnoresInput (Storage.ensureDirectory p) := by
  refine (ignoresInput_order (·.makeDirectory p)).bind fun r => ?_
  split
  · exact ignoresInput_pure _
  · exact ignoresInput_pure _
  · exact (ignoresInput_isDirectory p).bind fun _ => ignoresInput_pure _

theorem ignoresInput_makeDirectories (p : Path) : IgnoresInput (Storage.makeDirectories p) := by
  induction hn : p.parts.length using Nat.strongRecOn generalizing p with
  | ind n ih =>
    rw [Storage.makeDirectories]
    refine (ignoresInput_ensureDirectory p).bind fun r => ?_
    split
    · split
      · exact ignoresInput_pure _
      · rename_i hparts
        have hless : p.parent.parts.length < n := by
          have hpos := List.length_pos_iff.mpr hparts
          simp only [Path.parent, List.length_dropLast]
          omega
        refine (ih _ hless p.parent rfl).bind fun r => ?_
        split
        · exact ignoresInput_pure _
        · exact ignoresInput_ensureDirectory p
    · exact ignoresInput_pure _

theorem ignoresInput_prepare (p : Path) : IgnoresInput (prepare p) := by
  unfold prepare
  split
  · exact ignoresInput_pure _
  · exact ignoresInput_makeDirectories p.parent

theorem ignoresInput_writeText (p : Path) (content : Text) : IgnoresInput (Storage.writeText p content) := by
  intro w input
  rw [run_writeText, run_writeText, ignoresInput_prepare p w input]
  rcases (prepare p).run w with ⟨_ | _, v⟩
  · rfl
  · exact ignoresInput_order (·.write p (Text.Utf8.encode content)) v input

/-- A path that is not written like the marker is read from its file. -/
theorem markup_ofPath {w : World} {p : Path} (hp : p ≠ Path.ofText Source.marker) (h : w.tree.isThere p = .ok true) :
    w.markup (.ofPath p) = w.tree.text p := by
  rw [Source.ofPath_of_ne hp]
  simp only [markup, h]

end World

namespace Command

open Manifest (Homes Job)

variable {w w' : World} {force : Bool}

/-! ## Jobs -/

/-- Some job is reached that reads the standard input: its input is written like the marker,
    and something is there, and its output can be written as far as can be seen. -/
inductive ReadsInput (force : Bool) : World → List Job → Prop
  | now {w : World} {j : Job} {rest : List Job} :
      j.input = Path.ofText Source.marker → IsReady force j w → ReadsInput force w (j :: rest)
  | later {w w' : World} {j : Job} {rest : List Job} {fault : Option JobFault} :
      JobRun force j w (.ok fault) w' → ReadsInput force w' rest → ReadsInput force w (j :: rest)

theorem not_readsInput {jobs : List Job} (h : ∀ j ∈ jobs, j.input ≠ Path.ofText Source.marker) :
    ¬ReadsInput force w jobs := by
  intro hr
  induction hr with
  | now hm _ => exact h _ (List.mem_cons_self ..) hm
  | later _ _ ih => exact ih fun j hj => h j (List.mem_cons_of_mem _ hj)

theorem jobRun_withInput {j : Job} {r : Except Failure (Option JobFault)} (h : JobRun force j w r w')
    (hj : j.input = Path.ofText Source.marker → ¬IsReady force j w) (input : Bytes) :
    JobRun force j (w.withInput input) r (w'.withInput input) := by
  -- once the job is ready, its input is not the marker, and the text it reads is that of a file
  have hready (hr : IsReady force j w) : IsReady force j (w.withInput input) := ⟨hr.input, hr.output⟩
  have hmarkup (hr : IsReady force j w) : (w.withInput input).markup (.ofPath j.input) = w.markup (.ofPath j.input) := by
    have hne : j.input ≠ Path.ofText Source.marker := fun heq => hj heq hr
    rw [World.markup_ofPath hne hr.input, World.markup_ofPath hne (hready hr).input]
    rfl
  have hwrite {t : Text} {e : Except FileError Unit} (hw : (Storage.writeText j.output t : StateM World _).run w = (e, w')) :
      (Storage.writeText j.output t : StateM World _).run (w.withInput input) = (e, w'.withInput input) := by
    rw [World.ignoresInput_writeText j.output t w input, hw]
  cases h with
  | inputUnknown hin => exact .inputUnknown hin
  | inputNotFound hin => exact .inputNotFound hin
  | outputUnknown hin hout => exact .outputUnknown hin hout
  | outputExists hin hout hforce => exact .outputExists hin hout hforce
  | unreadable hr hm => exact .unreadable (hready hr) ((hmarkup hr).trans hm)
  | undecodable hr hm => exact .undecodable (hready hr) ((hmarkup hr).trans hm)
  | rejected hr hm hp he => exact .rejected (hready hr) ((hmarkup hr).trans hm) hp he
  | tooManyDigits hr hm hp => exact .tooManyDigits (hready hr) ((hmarkup hr).trans hm) hp
  | badName hr hm ho => exact .badName (hready hr) ((hmarkup hr).trans hm) ho
  | unwritten hr hm ho hw => exact .unwritten (hready hr) ((hmarkup hr).trans hm) ho (hwrite hw)
  | written hr hm ho hw => exact .written (hready hr) ((hmarkup hr).trans hm) ho (hwrite hw)

theorem runJobs_withInput {n : Nat} {jobs : List Job} (h : ¬ReadsInput force w jobs) (input : Bytes) :
    (runJobs force n jobs : StateM World _).run (w.withInput input) =
      (((runJobs force n jobs : StateM World _).run w).1, ((runJobs force n jobs : StateM World _).run w).2.withInput input) := by
  induction jobs generalizing n w with
  | nil => rfl
  | cons j rest ih =>
    have hj := jobRun_withInput (jobRun force j w) (fun hm hr => h (.now hm hr)) input
    rw [run_runJobs_cons, run_runJobs_cons, run_of_jobRun hj]
    rcases hrun : (runJob force j : StateM World _).run w with ⟨f | fault, v⟩
    · rfl
    · have hrest : ¬ReadsInput force v rest := fun hr => h (.later (jobRun_iff.mpr hrun) hr)
      simp only [ih hrest]

/-! ## Batches -/

theorem runBatch_withInput (homes : Homes) {o : BatchOptions} (input : Bytes)
    (h : ∀ source jobs, o.manifest = some source → jobsAt homes w.tree (Path.ofText source) = .ok jobs →
      ¬ReadsInput o.force w jobs) :
    (runBatch homes o : StateM World _).run (w.withInput input) =
      (((runBatch homes o : StateM World _).run w).1, ((runBatch homes o : StateM World _).run w).2.withInput input) := by
  cases ho : o.manifest with
  | none => simp only [runBatch, ho]; rfl
  | some source =>
    cases hjobs : jobsAt homes w.tree (Path.ofText source) with
    | ok jobs =>
      rw [run_runBatch ho hjobs, run_runBatch ho (w := w.withInput input) hjobs,
        runJobs_withInput (h source jobs ho hjobs) input]
    | error e =>
      simp only [runBatch, ho, World.run_bind, World.run_isThere, World.withInput_tree]
      rcases w.tree.isThere (Path.ofText source) with _ | _ | _
      · rfl
      · rfl
      · simp only [World.run_bind, run_load, World.withInput_tree, hjobs]
        cases e <;> rfl

/-- The only loaded jobs that are written like the marker are those of a manifest beside it. -/
theorem parent_of_jobsAt {homes : Homes} {t : Tree} {p : Path} {jobs : List Job} (h : jobsAt homes t p = .ok jobs) :
    ∀ j ∈ jobs, j.input = Path.ofText Source.marker →
      p.parent = ⟨.relative, []⟩ ∨ p.parent = Path.ofText Source.marker := by
  intro j hj hinput
  unfold jobsAt at h
  cases ht : t.text p with
  | error e => rw [ht] at h; cases h
  | ok s =>
    rw [ht] at h
    obtain ⟨j', -, hr⟩ := Manifest.exists_of_jobsIn h j hj
    have hresolved := (Manifest.fields_of_resolve hr).1
    rw [hinput] at hresolved
    exact Manifest.base_of_resolvePath hresolved

/-- A batch does and says the same whatever the standard input holds, and each job reads the
    file at its input, unless a job is reached whose input is written like the marker; and such
    a job has its manifest in the current directory or in one that has the marker for a name. -/
theorem batch_ignores_standardInput (homes : Homes) (args : List Text) (w : World) (input : Bytes) (o : BatchOptions)
    (hargs : Order.ofTexts args = .ok (.batch o)) :
    let once := (run homes args : StateM World Outcome).run w
    let again := (run homes args : StateM World Outcome).run (w.withInput input)
    ((again.1 = once.1 ∧ again.2.tree = once.2.tree) ∨
      ∃ source jobs, o.manifest = some source ∧ jobsAt homes w.tree (Path.ofText source) = .ok jobs ∧
        ReadsInput o.force w jobs) ∧
    ∀ source jobs, o.manifest = some source → jobsAt homes w.tree (Path.ofText source) = .ok jobs →
      ∀ j ∈ jobs,
        (∀ v : World, v.tree.isThere j.input = .ok true → v.markup (.ofPath j.input) = v.tree.text j.input) ∨
        j.input = Path.ofText Source.marker ∧
          ((Path.ofText source).parent = ⟨.relative, []⟩ ∨ (Path.ofText source).parent = Path.ofText Source.marker) := by
  refine ⟨?_, fun source jobs _ hjobs j hj => ?_⟩
  · by_cases hreads : ∃ source jobs, o.manifest = some source ∧ jobsAt homes w.tree (Path.ofText source) = .ok jobs ∧
        ReadsInput o.force w jobs
    · exact .inr hreads
    · have hsame := runBatch_withInput homes (o := o) (w := w) input
        fun source jobs ho hjobs hr => hreads ⟨source, jobs, ho, hjobs, hr⟩
      simp only [run, hargs, hsame]
      exact .inl ⟨trivial, rfl⟩
  · by_cases hinput : j.input = Path.ofText Source.marker
    · exact .inr ⟨hinput, parent_of_jobsAt hjobs j hj hinput⟩
    · exact .inl fun v hthere => World.markup_ofPath hinput hthere

/-- A fault and a conversion, and two different inputs. -/
theorem batch_ignores_standardInput_missingInput :
    Order.ofTexts batchArgs = .ok (.batch batchOptions) ∧
      ((run (fun _ => none) batchArgs : StateM World Outcome).run (missingInput.withInput (utf8 "<p>y</p>"))).1 =
        ⟨[], "m job 1: input not found: x\n".toList, .status 1⟩ ∧
      ((run (fun _ => none) batchArgs : StateM World Outcome).run (missingInput.withInput (utf8 "<p>y</p>"))).2.tree =
        ((run (fun _ => none) batchArgs : StateM World Outcome).run missingInput).2.tree := by
  have hargs : Order.ofTexts batchArgs = .ok (.batch batchOptions) := by decide +kernel
  have hjobs : jobsAt (fun _ => none) missingInput.tree (Path.ofText "m".toList) =
      .ok [plainJob "x" "a", plainJob "page" "b"] := by decide +kernel
  have hrun : ((run (fun _ => none) batchArgs : StateM World Outcome).run missingInput).1 =
      ⟨[], "m job 1: input not found: x\n".toList, .status 1⟩ := by
    simp only [run, hargs, run_runBatch (show batchOptions.manifest = some "m".toList from rfl) hjobs]
    decide +kernel
  refine ⟨hargs, ?_⟩
  rcases (batch_ignores_standardInput (fun _ => none) batchArgs missingInput (utf8 "<p>y</p>") batchOptions hargs).1
    with ⟨houtcome, htree⟩ | ⟨source, jobs, ho, hloaded, hreads⟩
  · exact ⟨houtcome.trans hrun, htree⟩
  · obtain rfl : "m".toList = source := Option.some.inj ho
    obtain rfl := Except.ok.inj (hjobs.symm.trans hloaded)
    exact absurd hreads (not_readsInput (by decide +kernel))

/-- A file whose name is the marker, and a manifest that lists it. -/
def markerWorld (input : String) : World :=
  ⟨⟨[], [([utf8 "-"], .file (utf8 "<p>file</p>")), ([utf8 "m"], .file (utf8 "jobs: [{input: -, output: a}]"))]⟩, utf8 input⟩

/-- The job is ready because of the file, and what it renders is the standard input. -/
theorem batch_reads_standardInput :
    jobsAt (fun _ => none) (markerWorld "").tree (Path.ofText "m".toList) = .ok [plainJob "-" "a"] ∧
      (markerWorld "").tree.read (Path.ofText "-".toList) = .ok (utf8 "<p>file</p>") ∧
      ((run (fun _ => none) batchArgs : StateM World Outcome).run (markerWorld "<p>x</p>")).2.tree.entry? [utf8 "a"] =
        some (.file (utf8 "<p>x</p>\n")) ∧
      ((run (fun _ => none) batchArgs : StateM World Outcome).run (markerWorld "<p>y</p>")).2.tree.entry? [utf8 "a"] =
        some (.file (utf8 "<p>y</p>\n")) := by
  have hargs : Order.ofTexts batchArgs = .ok (.batch batchOptions) := by decide +kernel
  have ho : batchOptions.manifest = some "m".toList := rfl
  have hjobs (input : String) : jobsAt (fun _ => none) (markerWorld input).tree (Path.ofText "m".toList) =
      .ok [plainJob "-" "a"] := by
    have hsame : (markerWorld input).tree = (markerWorld "").tree := rfl
    rw [hsame]
    decide +kernel
  refine ⟨hjobs "", by decide +kernel, ?_, ?_⟩ <;> simp only [run, hargs, run_runBatch ho (hjobs _)] <;> decide +kernel

end Command

end MarkupJsx
