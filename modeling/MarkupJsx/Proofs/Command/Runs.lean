/-
  MarkupJsx.Proofs.Command.Runs — all that a conversion and a job can do in a world.

  Rule. Both read and render, and look whether something is at the target; only then do they
  write, and once (`Writes`). Whatever else happens changes nothing, so each leaves its world
  as it is or writes to its own target (`runConvert_world`, `runJob_world`). How a job ends is
  decided by the first thing that goes wrong (`JobRun`, `jobRun_iff`): a question that the files do
  not answer, an input that is missing, an output that is there, an input that is no text or no
  markup, a name that is refused, or a file that cannot be written.
-/

import MarkupJsx.Command.Run
import MarkupJsx.Proofs.Storage.Writing

namespace MarkupJsx.Command

open Manifest (Homes Job LoadError)

variable {w w' : World} {p : Path} {force : Bool}

instance decidableEqExcept {ε α : Type} [DecidableEq ε] [DecidableEq α] : DecidableEq (Except ε α)
  | .error e, .error e' => decidable_of_iff (e = e') (by simp)
  | .ok a, .ok a' => decidable_of_iff (a = a') (by simp)
  | .error _, .ok _ => isFalse (by simp)
  | .ok _, .error _ => isFalse (by simp)

/-- The bytes of a text. -/
def utf8 (s : String) : Bytes := Text.Utf8.encode s.toList

/-! ## Targets -/

/-- Nothing is at the target, or it may be overwritten. -/
def IsClear (force : Bool) (w : World) (p : Path) : Prop :=
  ∃ there, w.tree.isThere p = .ok there ∧ (there && !force) = false

/-- A text is written to a target that is clear. -/
def Writes (force : Bool) (p : Path) (w w' : World) : Prop :=
  IsClear force w p ∧ ∃ t, ((Storage.writeText p t : StateM World _).run w).2 = w'

theorem run_convertFile (input output : Path) (component : Option Text) (w : World) :
    (convertFile input output component : StateM World _).run w =
      match w.markup (.ofPath input) with
      | .error e => (.error (.read e), w)
      | .ok markup =>
        match MarkupJsx.output markup component with
        | .error e => (.error (.conversion e), w)
        | .ok t =>
          (((Storage.writeText output t : StateM World _).run w).1.mapError .file,
            ((Storage.writeText output t : StateM World _).run w).2) := by
  simp only [convertFile, World.run_bind, World.run_readMarkup]
  rcases w.markup (.ofPath input) with e | markup
  · rfl
  · cases hout : MarkupJsx.output markup component <;> simp only [hout] <;> rfl

/-! ## One conversion -/

theorem deliver_world (output : Option (Option Text)) (force : Bool) (t : Text) (w : World) :
    ((deliver output force t : StateM World _).run w).2 = w ∨
      ∃ target, output = some (some target) ∧
        Writes force (Path.ofText target) w ((deliver output force t : StateM World _).run w).2 := by
  rcases output with _ | _ | target
  · exact .inl rfl
  · exact .inl rfl
  · simp only [deliver, World.run_bind, World.run_isThere]
    rcases hthere : w.tree.isThere (Path.ofText target) with e | there
    · exact .inl rfl
    · simp only
      split
      · exact .inl rfl
      · rename_i hforce
        refine .inr ⟨target, rfl, ⟨there, hthere, by simpa using hforce⟩, t, ?_⟩
        rw [World.run_bind]
        split <;> rfl

/-- A conversion leaves the world as it is, or writes to the target it was given. -/
theorem runConvert_world (o : ConvertOptions) (w : World) :
    ((runConvert o : StateM World _).run w).2 = w ∨
      ∃ target, o.output = some (some target) ∧
        Writes o.force (Path.ofText target) w ((runConvert o : StateM World _).run w).2 := by
  simp only [runConvert, World.run_bind, World.run_readMarkup]
  rcases w.markup (.ofText o.input) with (_ | _ | _) | markup
  · exact .inl rfl
  · exact .inl rfl
  · exact .inl rfl
  · rcases componentName o.component o.input with e | component
    · exact .inl rfl
    · rcases hout : MarkupJsx.output markup component with e | t
      · exact .inl (by simp only [hout]; rfl)
      · simp only [hout]
        exact deliver_world o.output o.force t w

/-! ## One job -/

/-- The input is there, and the output can be written as far as can be seen. -/
structure IsReady (force : Bool) (j : Job) (w : World) : Prop where
  input : w.tree.isThere j.input = .ok true
  output : IsClear force w j.output

/-- How a job can go in a world: the fault that is reported, if any, or the failure that ends
    all, and the world it leaves. -/
inductive JobRun (force : Bool) (j : Job) (w : World) : Except Failure (Option JobFault) → World → Prop
  | inputUnknown {e : FileError} : w.tree.isThere j.input = .error e → JobRun force j w (.error (.file e)) w
  | inputNotFound : w.tree.isThere j.input = .ok false → JobRun force j w (.ok (some (.inputNotFound j.input))) w
  | outputUnknown {e : FileError} : w.tree.isThere j.input = .ok true → w.tree.isThere j.output = .error e →
      JobRun force j w (.error (.file e)) w
  | outputExists : w.tree.isThere j.input = .ok true → w.tree.isThere j.output = .ok true → force = false →
      JobRun force j w (.ok (some (.outputExists j.output))) w
  | unreadable {e : FileError} : IsReady force j w → w.markup (.ofPath j.input) = .error (.file e) →
      JobRun force j w (.error (.read (.file e))) w
  | undecodable {e : Text.Utf8.DecodeError} : IsReady force j w → w.markup (.ofPath j.input) = .error (.undecodable e) →
      JobRun force j w (.ok (some (.undecodable e))) w
  | rejected {markup : Text} {e : Markup.MarkupError} : IsReady force j w → w.markup (.ofPath j.input) = .ok markup →
      Markup.parse markup = .error e → e.isRejection = true → JobRun force j w (.ok (some (.rejected e))) w
  | tooManyDigits {markup : Text} {n : Nat} : IsReady force j w → w.markup (.ofPath j.input) = .ok markup →
      Markup.parse markup = .error (.tooManyDigits n) →
      JobRun force j w (.error (.conversion (.markup (.tooManyDigits n)))) w
  | badName {markup : Text} {e : Component.InvalidName} : IsReady force j w → w.markup (.ofPath j.input) = .ok markup →
      output markup j.component = .error (.componentName e) →
      JobRun force j w (.error (.conversion (.componentName e))) w
  | unwritten {markup t : Text} {e : FileError} {w' : World} : IsReady force j w →
      w.markup (.ofPath j.input) = .ok markup → output markup j.component = .ok t →
      (Storage.writeText j.output t : StateM World _).run w = (.error e, w') → JobRun force j w (.error (.file e)) w'
  | written {markup t : Text} {w' : World} : IsReady force j w →
      w.markup (.ofPath j.input) = .ok markup → output markup j.component = .ok t →
      (Storage.writeText j.output t : StateM World _).run w = (.ok (), w') → JobRun force j w (.ok none) w'

/-- A path is not missing for the reader once it is there. -/
theorem markup_ne_notFound (h : w.tree.isThere p = .ok true) (q : Path) :
    w.markup (.ofPath p) ≠ .error (.notFound q) := by
  have textOf_ne (content : Bytes) : Storage.textOf content ≠ .error (.notFound q) := by
    unfold Storage.textOf
    cases Text.Utf8.decode content <;> simp [Except.map, Except.mapError]
  unfold Source.ofPath
  split
  · exact textOf_ne w.input
  · simp only [World.markup, h, Tree.text]
    split
    · simp
    · exact textOf_ne _

theorem parse_of_output {markup : Text} {component : Option Text} {e : Markup.MarkupError}
    (h : output markup component = .error (.markup e)) : Markup.parse markup = .error e := by
  simp only [output] at h
  split at h
  · rename_i hp
    cases h
    exact hp
  · split at h
    · cases h
    · rename_i roots hp _ name
      cases hr : Component.render name roots <;> rw [hr] at h <;> cases h

/-- What a job makes of the end of its conversion. -/
def settled : Except Failure Unit → Except Failure (Option JobFault)
  | .ok () => .ok none
  | .error f =>
    match JobFault.ofFailure? f with
    | some fault => .ok (some fault)
    | none => .error f

theorem run_runJob_of_ready {j : Job} (h : IsReady force j w) :
    (runJob force j : StateM World _).run w =
      (settled ((convertFile j.input j.output j.component : StateM World _).run w).1,
        ((convertFile j.input j.output j.component : StateM World _).run w).2) := by
  obtain ⟨hin, there, hout, hclear⟩ := h
  simp only [runJob, World.run_bind, World.run_isThere, hin, hout, hclear, Bool.false_eq_true, if_false]
  rcases (convertFile j.input j.output j.component : StateM World _).run w with ⟨f | _, w'⟩
  · simp only [settled]
    cases JobFault.ofFailure? f <;> rfl
  · rfl

/-- Every job goes in one of these ways. -/
theorem jobRun (force : Bool) (j : Job) (w : World) :
    JobRun force j w ((runJob force j : StateM World _).run w).1 ((runJob force j : StateM World _).run w).2 := by
  rcases hin : w.tree.isThere j.input with e | _ | _
  · simpa only [runJob, World.run_bind, World.run_isThere, hin] using .inputUnknown hin
  · simpa only [runJob, World.run_bind, World.run_isThere, hin] using .inputNotFound hin
  rcases hout : w.tree.isThere j.output with e | there
  · simpa only [runJob, World.run_bind, World.run_isThere, hin, hout] using .outputUnknown hin hout
  cases hclear : there && !force with
  | true =>
    obtain ⟨rfl, hunforced⟩ : there = true ∧ force = false := by simpa using hclear
    simpa only [runJob, World.run_bind, World.run_isThere, hin, hout, hclear] using .outputExists hin hout hunforced
  | false =>
    have hready : IsReady force j w := ⟨hin, there, hout, hclear⟩
    rw [run_runJob_of_ready hready, run_convertFile]
    rcases hm : w.markup (.ofPath j.input) with (q | e | e) | markup
    · exact absurd hm (markup_ne_notFound hin q)
    · exact .unreadable hready hm
    · exact .undecodable hready hm
    rcases hr : output markup j.component with (e | e) | t
    · simp only [hr]
      have hp := parse_of_output hr
      cases e with
      | sectionWithoutName near => exact .rejected hready hm hp rfl
      | unknownSection keyword => exact .rejected hready hm hp rfl
      | tooManyDigits n => exact .tooManyDigits hready hm hp
    · simp only [hr]
      exact .badName hready hm hr
    · simp only [hr]
      rcases hw : (Storage.writeText j.output t : StateM World _).run w with ⟨e | _, w'⟩
      · exact .unwritten hready hm hr hw
      · exact .written hready hm hr hw

/-- And what is said of a way is how the job goes. -/
theorem run_of_jobRun {j : Job} {r : Except Failure (Option JobFault)} (h : JobRun force j w r w') :
    (runJob force j : StateM World _).run w = (r, w') := by
  cases h with
  | inputUnknown hin => simp only [runJob, World.run_bind, World.run_isThere, hin]; rfl
  | inputNotFound hin => simp only [runJob, World.run_bind, World.run_isThere, hin]; rfl
  | outputUnknown hin hout => simp only [runJob, World.run_bind, World.run_isThere, hin, hout]; rfl
  | outputExists hin hout hforce =>
    subst hforce
    simp only [runJob, World.run_bind, World.run_isThere, hin, hout]; rfl
  | unreadable hready hm => rw [run_runJob_of_ready hready, run_convertFile, hm]; rfl
  | undecodable hready hm => rw [run_runJob_of_ready hready, run_convertFile, hm]; rfl
  | rejected hready hm hp he =>
    simp only [run_runJob_of_ready hready, run_convertFile, hm, output, hp, settled, JobFault.ofFailure?, he]
    rfl
  | tooManyDigits hready hm hp =>
    simp only [run_runJob_of_ready hready, run_convertFile, hm, output, hp]
    rfl
  | badName hready hm hr =>
    simp only [run_runJob_of_ready hready, run_convertFile, hm, hr]
    rfl
  | unwritten hready hm hr hw =>
    simp only [run_runJob_of_ready hready, run_convertFile, hm, hr, hw]
    rfl
  | written hready hm hr hw =>
    simp only [run_runJob_of_ready hready, run_convertFile, hm, hr, hw]
    rfl

theorem jobRun_iff {j : Job} {r : Except Failure (Option JobFault)} :
    JobRun force j w r w' ↔ (runJob force j : StateM World _).run w = (r, w') := by
  refine ⟨run_of_jobRun, fun h => ?_⟩
  have hj := jobRun force j w
  rwa [h] at hj

/-- A job leaves the world as it is, or writes to its output. -/
theorem runJob_world {j : Job} {r : Except Failure (Option JobFault)}
    (h : (runJob force j : StateM World _).run w = (r, w')) : w' = w ∨ Writes force j.output w w' := by
  cases jobRun_iff.mpr h with
  | unwritten hready _ _ hw => exact .inr ⟨hready.output, _, by rw [hw]⟩
  | written hready _ _ hw => exact .inr ⟨hready.output, _, by rw [hw]⟩
  | _ => exact .inl rfl

/-! ## Batches -/

/-- The jobs of the manifest at a path. -/
def jobsAt (homes : Homes) (t : Tree) (p : Path) : Except LoadError (List Job) :=
  match t.text p with
  | .error e => .error (.read e)
  | .ok s => Manifest.jobsIn homes p.parent s

@[simp] theorem run_load (homes : Homes) (p : Path) (w : World) :
    (Manifest.load homes p : StateM World _).run w = (jobsAt homes w.tree p, w) := by
  simp only [Manifest.load, World.run_bind, World.run_readText, jobsAt]
  cases w.tree.text p <;> rfl

theorem isThere_of_jobsAt {homes : Homes} {t : Tree} {jobs : List Job} (h : jobsAt homes t p = .ok jobs) :
    t.isThere p = .ok true := by
  unfold jobsAt at h
  cases ht : t.text p with
  | error e => rw [ht] at h; cases h
  | ok s => exact Tree.isThere_of_text ht

theorem run_runJobs_cons (force : Bool) (n : Nat) (j : Job) (rest : List Job) (w : World) :
    (runJobs force n (j :: rest) : StateM World _).run w =
      match (runJob force j : StateM World _).run w with
      | (.error f, w') => (.error f, w')
      | (.ok fault, w') =>
        (((runJobs force (n + 1) rest : StateM World _).run w').1.map fun faults =>
            match fault with
            | none => faults
            | some x => (n, x) :: faults,
          ((runJobs force (n + 1) rest : StateM World _).run w').2) := by
  simp only [runJobs, World.run_bind]
  rcases (runJob force j : StateM World _).run w with ⟨_ | _, w'⟩ <;> rfl

theorem run_runBatch {homes : Homes} {o : BatchOptions} {source : Text} {jobs : List Job}
    (ho : o.manifest = some source) (hjobs : jobsAt homes w.tree (Path.ofText source) = .ok jobs) :
    (runBatch homes o : StateM World _).run w =
      (report (Path.ofText source) jobs ((runJobs o.force 1 jobs : StateM World _).run w).1,
        ((runJobs o.force 1 jobs : StateM World _).run w).2) := by
  simp only [runBatch, ho, World.run_bind, World.run_isThere, isThere_of_jobsAt hjobs, run_load, hjobs]
  rfl

/-- Without jobs to run, a batch leaves the world as it is. -/
theorem runBatch_world (homes : Homes) (o : BatchOptions) (w : World) :
    ((runBatch homes o : StateM World _).run w).2 = w ∨
      ∃ source jobs, o.manifest = some source ∧ jobsAt homes w.tree (Path.ofText source) = .ok jobs := by
  cases ho : o.manifest with
  | none => exact .inl (by simp only [runBatch, ho]; rfl)
  | some source =>
    cases hjobs : jobsAt homes w.tree (Path.ofText source) with
    | ok jobs => exact .inr ⟨source, jobs, rfl, hjobs⟩
    | error e =>
      left
      simp only [runBatch, ho, World.run_bind, World.run_isThere]
      rcases w.tree.isThere (Path.ofText source) with _ | _ | _
      · rfl
      · rfl
      · simp only [World.run_bind, run_load, hjobs]
        cases e <;> rfl

end MarkupJsx.Command
