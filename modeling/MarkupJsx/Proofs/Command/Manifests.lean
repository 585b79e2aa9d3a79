/-
  MarkupJsx.Proofs.Command.Manifests — what a batch makes of its manifest.

  Rule. The bytes of a manifest are read as a text, the text as a document, the document as a
  list of jobs, and the jobs are seen from the directory of the manifest; the first of these
  that fails ends the batch before any file is touched (`ManifestRun`, `manifestRun`).

  `batch_loads_manifest`: the jobs that a manifest describes are run in order, and a document
  that describes none is refused as invalid. Bytes that are no text and texts that are no
  document are not refused but fail with the error of their reader, and a list without items
  passes for an empty manifest (`broken_manifest_not_refused`).
-/

import MarkupJsx.Proofs.Command.Batch
import MarkupJsx.Proofs.Manifest.Description
import MarkupJsx.Proofs.Storage.ReadBack

namespace MarkupJsx

namespace Manifest

variable {homes : Homes} {base p : Path} {j : Job} {jobs : List Job} {e : LoadError}

/-! ## Paths seen from the manifest -/

/-- The job with its paths seen from a directory. -/
def Job.seenFrom (base : Path) (j : Job) : Job := { j with input := base.join j.input, output := base.join j.output }

/-- No path of the job begins at a home. -/
def Job.AvoidsHomes (j : Job) : Prop := j.input.user? = none ∧ j.output.user? = none

/-- The home directory at which a path should begin is not found. -/
def LoadError.IsHome : LoadError → Prop
  | .unknownHome | .badUser _ => True
  | _ => False

theorem resolvePath_of_user? (h : p.user? = none) : resolvePath homes base p = .ok (base.join p) := by
  simp only [resolvePath, expandHome, h, Except.map]

theorem isHome_of_resolvePath (h : resolvePath homes base p = .error e) : e.IsHome := by
  unfold resolvePath expandHome at h
  split at h
  · cases h
  · split at h
    · cases h; trivial
    · split at h
      · cases h; trivial
      · cases h

theorem mapM_resolve (h : ∀ j ∈ jobs, j.AvoidsHomes) :
    jobs.mapM (Job.resolve homes base) = .ok (jobs.map (Job.seenFrom base)) := by
  induction jobs with
  | nil => rfl
  | cons j rest ih =>
    obtain ⟨⟨hinput, houtput⟩, hrest⟩ := List.forall_mem_cons.mp h
    have hj : j.resolve homes base = .ok (j.seenFrom base) := by
      simp only [Job.resolve, resolvePath_of_user? hinput, resolvePath_of_user? houtput]
      rfl
    rw [List.mapM_cons, hj, ih hrest]
    rfl

theorem isHome_of_resolve (h : j.resolve homes base = .error e) : e.IsHome := by
  unfold Job.resolve at h
  cases hinput : resolvePath homes base j.input with
  | error e' =>
    rw [hinput] at h
    cases h
    exact isHome_of_resolvePath hinput
  | ok input =>
    cases houtput : resolvePath homes base j.output with
    | error e' =>
      rw [hinput, houtput] at h
      cases h
      exact isHome_of_resolvePath houtput
    | ok output => rw [hinput, houtput] at h; cases h

theorem isHome_of_mapM_resolve (h : jobs.mapM (Job.resolve homes base) = .error e) : e.IsHome := by
  induction jobs with
  | nil => cases h
  | cons j rest ih =>
    rw [List.mapM_cons] at h
    cases hj : j.resolve homes base with
    | error e' =>
      rw [hj] at h
      cases h
      exact isHome_of_resolve hj
    | ok j' =>
      cases hrest : rest.mapM (Job.resolve homes base) with
      | error e' =>
        rw [hj, hrest] at h
        cases h
        exact ih hrest
      | ok rest' => rw [hj, hrest] at h; cases h

/-! ## Documents -/

/-- The bytes are the UTF-8 of a text. -/
def IsUtf8 (content : Bytes) (s : Text) : Prop := content = s.flatMap String.utf8EncodeChar

theorem isUtf8_iff {content : Bytes} {s : Text} : IsUtf8 content s ↔ Text.Utf8.decode content = .ok s := by
  rw [Text.Utf8.decode_eq_ok_iff, Text.Utf8.encode_eq, IsUtf8]

theorem IsUtf8.unique {content : Bytes} {s t : Text} (hs : IsUtf8 content s) (ht : IsUtf8 content t) : s = t :=
  Except.ok.inj ((isUtf8_iff.mp hs).symm.trans (isUtf8_iff.mp ht))

/-- The bytes are a text with this document in it, as far as one sees so many steps down. -/
def HasDocument (n : Nat) (content : Bytes) (v : Yaml.Value) : Prop :=
  ∃ s, IsUtf8 content s ∧ Yaml.load n s.unifyNewlines = .ok v

theorem HasDocument.isUtf8 {n : Nat} {content : Bytes} {v : Yaml.Value} (h : HasDocument n content v) :
    ∃ s, IsUtf8 content s := h.imp fun _ => And.left

/-- From the depth of the schema on it makes no difference how far down one sees. -/
theorem jobsOfValue_eq_of_hasDocument {n : Nat} {content : Bytes} {v v' : Yaml.Value} (hn : depth ≤ n)
    (h : HasDocument n content v) (h' : HasDocument depth content v') : jobsOfValue v = jobsOfValue v' := by
  obtain ⟨s, hs, hv⟩ := h
  obtain ⟨s', hs', hv'⟩ := h'
  obtain rfl := hs.unique hs'
  rcases Yaml.load_cases s.unifyNewlines with ⟨e, he⟩ | ⟨value, hvalue, hagree⟩
  · cases hv.symm.trans (he n)
  · obtain rfl : v = value n := Except.ok.inj (hv.symm.trans (hvalue n))
    obtain rfl : v' = value depth := Except.ok.inj (hv'.symm.trans (hvalue depth))
    exact jobsOfValue_eq_of_agreesTo (hagree depth n depth hn (Nat.le_refl depth))

theorem not_hasDocument_of_load {s : Text} {e : Yaml.Error} {content : Bytes} (hs : IsUtf8 content s)
    (he : Yaml.load depth s.unifyNewlines = .error e) (n : Nat) (v : Yaml.Value) : ¬HasDocument n content v := by
  rintro ⟨s', hs', hv⟩
  obtain rfl := hs.unique hs'
  rcases Yaml.load_cases s.unifyNewlines with ⟨e', he'⟩ | ⟨value, hvalue, -⟩
  · cases hv.symm.trans (he' n)
  · cases he.symm.trans (hvalue depth)

theorem jobsIn_eq (homes : Homes) (base : Path) (s : Text) :
    jobsIn homes base s =
      match Yaml.load depth s with
      | .error e => .error (.yaml e)
      | .ok v =>
        match jobsOfValue v with
        | .error issues => .error (.schema issues)
        | .ok jobs => jobs.mapM (Job.resolve homes base) := by
  unfold jobsIn jobsOfText
  cases Yaml.load depth s with
  | error e => rfl
  | ok v =>
    simp only [Except.mapError, bind, Except.bind]
    cases jobsOfValue v <;> rfl

end Manifest

namespace Command

open Manifest (Describes HasDocument Homes IsUtf8 Issue Job LoadError jobsOfValue)

variable {homes : Homes} {o : BatchOptions} {p : Path} {w : World} {content : Bytes} {source : Text}

/-! ## Ways to go -/

/-- The end of a batch whose manifest does not load. -/
def unloaded (p : Path) : LoadError → Outcome
  | .schema issues => .refused (.invalidManifest p issues)
  | e => .failed (.load e)

theorem run_runBatch_of_error {e : LoadError} (ho : o.manifest = some source)
    (hthere : w.tree.isThere (Path.ofText source) = .ok true)
    (hjobs : jobsAt homes w.tree (Path.ofText source) = .error e) :
    (runBatch homes o : StateM World _).run w = (unloaded (Path.ofText source) e, w) := by
  simp only [runBatch, ho, World.run_bind, World.run_isThere, hthere, run_load, hjobs]
  cases e <;> rfl

/-- How a batch goes whose manifest has these bytes: what is wrong with them, or the run of
    their jobs. -/
inductive ManifestRun (homes : Homes) (force : Bool) (p : Path) (content : Bytes) (w : World) : Outcome → World → Prop
  | undecodable {e : Text.Utf8.DecodeError} : (¬∃ s, IsUtf8 content s) →
      ManifestRun homes force p content w (.failed (.load (.read (.undecodable e)))) w
  | noDocument {s : Text} {e : Yaml.Error} : IsUtf8 content s → (∀ n v, ¬HasDocument n content v) →
      ManifestRun homes force p content w (.failed (.load (.yaml e))) w
  | invalid {v : Yaml.Value} {issues : List Issue} : HasDocument Manifest.depth content v →
      jobsOfValue v = .error issues → ManifestRun homes force p content w (.refused (.invalidManifest p issues)) w
  | noHome {v : Yaml.Value} {jobs : List Job} {e : LoadError} : HasDocument Manifest.depth content v →
      jobsOfValue v = .ok jobs → jobs.mapM (Job.resolve homes p.parent) = .error e →
      ManifestRun homes force p content w (.failed (.load e)) w
  | loaded {v : Yaml.Value} {jobs seen : List Job} : HasDocument Manifest.depth content v → jobsOfValue v = .ok jobs →
      jobs.mapM (Job.resolve homes p.parent) = .ok seen → (∀ j ∈ seen, j.IsNamed) →
      ManifestRun homes force p content w (report p seen ((runJobs force 1 seen : StateM World _).run w).1)
        ((runJobs force 1 seen : StateM World _).run w).2

theorem jobsAt_of_unreadable {e : ReadError} (hfile : w.tree.read p = .ok content)
    (he : Storage.textOf content = .error e) : jobsAt homes w.tree p = .error (.read e) := by
  have htext : w.tree.text p = .error e := by
    rw [Tree.text, hfile]
    exact he
  simp only [jobsAt, htext]

theorem jobsAt_of_readable {s : Text} (hfile : w.tree.read p = .ok content) (hs : Storage.textOf content = .ok s) :
    jobsAt homes w.tree p = Manifest.jobsIn homes p.parent s := by
  have htext : w.tree.text p = .ok s := by
    rw [Tree.text, hfile]
    exact hs
  simp only [jobsAt, htext]

theorem manifestRun (homes : Homes) (ho : o.manifest = some source)
    (hfile : w.tree.read (Path.ofText source) = .ok content) :
    ManifestRun homes o.force (Path.ofText source) content w ((runBatch homes o : StateM World _).run w).1
      ((runBatch homes o : StateM World _).run w).2 := by
  have hthere := Tree.isThere_of_read hfile
  cases hdecode : Text.Utf8.decode content with
  | error e =>
    have htext : Storage.textOf content = .error (.undecodable e) := by
      rw [Storage.textOf, hdecode]
      rfl
    rw [run_runBatch_of_error ho hthere (jobsAt_of_unreadable hfile htext)]
    refine .undecodable ?_
    rintro ⟨s, hs⟩
    cases hdecode.symm.trans (Manifest.isUtf8_iff.mp hs)
  | ok s =>
    have hs : IsUtf8 content s := Manifest.isUtf8_iff.mpr hdecode
    have htext : Storage.textOf content = .ok s.unifyNewlines := by
      rw [Storage.textOf, hdecode]
      rfl
    have hjobs : jobsAt homes w.tree (Path.ofText source) = _ := jobsAt_of_readable hfile htext
    rw [Manifest.jobsIn_eq] at hjobs
    cases hload : Yaml.load Manifest.depth s.unifyNewlines with
    | error e =>
      simp only [hload] at hjobs
      rw [run_runBatch_of_error ho hthere hjobs]
      exact .noDocument hs (Manifest.not_hasDocument_of_load hs hload)
    | ok v =>
      have hv : HasDocument Manifest.depth content v := ⟨s, hs, hload⟩
      cases hvalue : jobsOfValue v with
      | error issues =>
        simp only [hload, hvalue] at hjobs
        rw [run_runBatch_of_error ho hthere hjobs]
        exact .invalid hv hvalue
      | ok jobs =>
        simp only [hload, hvalue] at hjobs
        cases hseen : jobs.mapM (Job.resolve homes (Path.ofText source).parent) with
        | error e =>
          have hunloaded : unloaded (Path.ofText source) e = .failed (.load e) := by
            have hhome := Manifest.isHome_of_mapM_resolve hseen
            cases e <;> first | rfl | cases hhome
          rw [run_runBatch_of_error ho hthere (hjobs.trans hseen), hunloaded]
          exact .noHome hv hvalue hseen
        | ok seen =>
          have hjobs := hjobs.trans hseen
          rw [run_runBatch ho hjobs]
          exact .loaded hv hvalue hseen (named_of_jobsAt hjobs)

/-! ## What is run and what is refused -/

theorem report_ne_unloaded {force : Bool} {n : Nat} {seen : List Job} (hseen : ∀ j ∈ seen, j.IsNamed) (e : LoadError) :
    report p seen ((runJobs force n seen : StateM World _).run w).1 ≠ unloaded p e := by
  intro h
  have hending := congrArg Outcome.ending h
  cases e with
  | schema issues => exact report_ne_refused _ hending
  | _ => exact stops_of_report hseen hending

section Runs

variable {force lax : Bool} {n : Nat} {v : Yaml.Value} {jobs : List Job} {r : Outcome} {w' : World}

theorem ManifestRun.of_describes (h : ManifestRun homes force p content w r w') (hn : Manifest.depth ≤ n)
    (hv : HasDocument n content v) (hjobs : Describes lax v jobs) (hhomes : ∀ j ∈ jobs, j.AvoidsHomes) :
    (r, w') = (report p (jobs.map (Job.seenFrom p.parent))
        ((runJobs force 1 (jobs.map (Job.seenFrom p.parent)) : StateM World _).run w).1,
      ((runJobs force 1 (jobs.map (Job.seenFrom p.parent)) : StateM World _).run w).2) := by
  have hvalue := Manifest.jobsOfValue_eq_ok_iff.mpr hjobs.toLax
  cases h with
  | undecodable hnone => exact absurd hv.isUtf8 hnone
  | noDocument _ hnone => exact absurd hv (hnone n v)
  | invalid hv' hissues =>
    rw [Manifest.jobsOfValue_eq_of_hasDocument hn hv hv', hissues] at hvalue
    cases hvalue
  | noHome hv' hjobs' he =>
    rw [Manifest.jobsOfValue_eq_of_hasDocument hn hv hv', hjobs'] at hvalue
    cases hvalue
    cases (Manifest.mapM_resolve hhomes).symm.trans he
  | loaded hv' hjobs' hseen =>
    rw [Manifest.jobsOfValue_eq_of_hasDocument hn hv hv', hjobs'] at hvalue
    cases hvalue
    cases (Manifest.mapM_resolve hhomes).symm.trans hseen
    rfl

theorem ManifestRun.refused_iff (h : ManifestRun homes force p content w r w') :
    (∃ issues, (r, w') = (.refused (.invalidManifest p issues), w)) ↔
      ∃ n v, Manifest.depth ≤ n ∧ HasDocument n content v ∧ ¬∃ jobs, Describes true v jobs := by
  constructor
  · rintro ⟨issues, heq⟩
    have heq := congrArg Prod.fst heq
    cases h with
    | invalid hv hissues =>
      refine ⟨Manifest.depth, _, Nat.le_refl _, hv, ?_⟩
      rintro ⟨jobs, hjobs⟩
      cases hissues.symm.trans (Manifest.jobsOfValue_eq_ok_iff.mpr hjobs)
    | loaded _ _ _ hseen => exact absurd heq (report_ne_unloaded hseen (.schema issues))
    | _ => cases heq
  · rintro ⟨n, v, hn, hv, hnone⟩
    have hvalue {v' : Yaml.Value} {jobs : List Job} (hv' : HasDocument Manifest.depth content v') :
        jobsOfValue v' ≠ .ok jobs := by
      rw [← Manifest.jobsOfValue_eq_of_hasDocument hn hv hv']
      exact fun hjobs => hnone ⟨jobs, Manifest.jobsOfValue_eq_ok_iff.mp hjobs⟩
    cases h with
    | undecodable hnone => exact absurd hv.isUtf8 hnone
    | noDocument _ hnone => exact absurd hv (hnone n v)
    | invalid => exact ⟨_, rfl⟩
    | noHome hv' hjobs => exact absurd hjobs (hvalue hv')
    | loaded hv' hjobs => exact absurd hjobs (hvalue hv')

theorem ManifestRun.undecodable_iff (h : ManifestRun homes force p content w r w') :
    (∃ e, (r, w') = (.failed (.load (.read (.undecodable e))), w)) ↔ ¬∃ s, IsUtf8 content s := by
  constructor
  · rintro ⟨e, heq⟩
    have heq := congrArg Prod.fst heq
    cases h with
    | undecodable hnone => exact hnone
    | noHome _ _ he => cases heq; cases Manifest.isHome_of_mapM_resolve he
    | loaded _ _ _ hseen => exact absurd heq (report_ne_unloaded hseen (.read (.undecodable e)))
    | _ => cases heq
  · intro hnone
    cases h with
    | undecodable => exact ⟨_, rfl⟩
    | noDocument hs => exact absurd ⟨_, hs⟩ hnone
    | invalid hv => exact absurd hv.isUtf8 hnone
    | noHome hv => exact absurd hv.isUtf8 hnone
    | loaded hv => exact absurd hv.isUtf8 hnone

theorem ManifestRun.noDocument_iff (h : ManifestRun homes force p content w r w') :
    (∃ e, (r, w') = (.failed (.load (.yaml e)), w)) ↔ (∃ s, IsUtf8 content s) ∧ ∀ n v, ¬HasDocument n content v := by
  constructor
  · rintro ⟨e, heq⟩
    have heq := congrArg Prod.fst heq
    cases h with
    | noDocument hs hnone => exact ⟨⟨_, hs⟩, hnone⟩
    | noHome _ _ he => cases heq; cases Manifest.isHome_of_mapM_resolve he
    | loaded _ _ _ hseen => exact absurd heq (report_ne_unloaded hseen (.yaml e))
    | _ => cases heq
  · rintro ⟨hs, hnone⟩
    cases h with
    | undecodable hnone' => exact absurd hs hnone'
    | noDocument => exact ⟨_, rfl⟩
    | invalid hv => exact absurd hv (hnone _ _)
    | noHome hv => exact absurd hv (hnone _ _)
    | loaded hv => exact absurd hv (hnone _ _)

end Runs

/-- A batch whose manifest is a file. If the file is the UTF-8 of a document that describes
    jobs, these are run in order, seen from the directory of the manifest. It is refused as
    invalid if and only if it is one that describes none, even by the rules of the schema. A
    file that is no text, and a text that is no document, fail with the error of the reader.
    No file is touched but by the jobs. -/
theorem batch_loads_manifest (homes : Homes) (args : List Text) (w : World) (o : BatchOptions) (source : Text)
    (content : Bytes) (hargs : Order.ofTexts args = .ok (.batch o)) (ho : o.manifest = some source)
    (hfile : w.tree.read (Path.ofText source) = .ok content) :
    let p := Path.ofText source
    let result := (run homes args : StateM World Outcome).run w
    (∀ lax n v jobs, Manifest.depth ≤ n → HasDocument n content v → Describes lax v jobs →
      (∀ j ∈ jobs, j.AvoidsHomes) →
      let seen := jobs.map (Job.seenFrom p.parent)
      result = (report p seen ((runJobs o.force 1 seen : StateM World _).run w).1,
        ((runJobs o.force 1 seen : StateM World _).run w).2)) ∧
    ((∃ issues, result = (.refused (.invalidManifest p issues), w)) ↔
      ∃ n v, Manifest.depth ≤ n ∧ HasDocument n content v ∧ ¬∃ jobs, Describes true v jobs) ∧
    ((∃ e, result = (.failed (.load (.read (.undecodable e))), w)) ↔ ¬∃ s, IsUtf8 content s) ∧
    ((∃ e, result = (.failed (.load (.yaml e)), w)) ↔ (∃ s, IsUtf8 content s) ∧ ∀ n v, ¬HasDocument n content v) ∧
    ∀ (tell : List Issue → Text) (issues : List Issue),
      "Invalid manifest ".toList ++ p.toText ++ ": ".toList <+: (Refusal.invalidManifest p issues).message tell := by
  intro p result
  have hresult : result = (runBatch homes o : StateM World _).run w := by simp only [result, run, hargs]
  have hrun : ManifestRun homes o.force p content w result.1 result.2 := hresult ▸ manifestRun homes ho hfile
  exact ⟨fun _ _ _ _ hn hv hjobs hhomes => hrun.of_describes hn hv hjobs hhomes, hrun.refused_iff, hrun.undecodable_iff,
    hrun.noDocument_iff, fun _ _ => List.prefix_append _ _⟩

/-- A list of one job with a component, and the document it is read as. -/
def componentManifest : String := "jobs: [{input: page, output: b, component: P}]"

def keyOf (s : String) : Yaml.Atom := .text (.ofText s.toList)

def componentDocument : Yaml.Value :=
  .map [(keyOf "jobs", .list [.map [(keyOf "input", .atom (keyOf "page")), (keyOf "output", .atom (keyOf "b")),
    (keyOf "component", .atom (keyOf "P"))]])]

def componentJob : Job := { plainJob "page" "b" with component := some ['P'] }

/-- The keys and values of a manifest of one job with three fields. -/
def atomsOf? : Except Yaml.Error Yaml.Value → Option (List Yaml.Atom)
  | .ok (.map [(jobs, .list [.map [(input, .atom page), (output, .atom b), (component, .atom name)]])]) =>
    some [jobs, input, page, output, b, component, name]
  | _ => none

theorem load_componentManifest :
    Yaml.load Manifest.depth (Text.unifyNewlines componentManifest.toList) = .ok componentDocument := by
  have hload : atomsOf? (Yaml.load Manifest.depth (Text.unifyNewlines componentManifest.toList)) =
      some (["jobs", "input", "page", "output", "b", "component", "P"].map keyOf) := by decide +kernel
  unfold atomsOf? at hload
  split at hload
  · rename_i heq
    rw [heq]
    simp only [List.map_cons, List.map_nil, Option.some.injEq, List.cons.injEq, and_true] at hload
    obtain ⟨rfl, rfl, rfl, rfl, rfl, rfl, rfl⟩ := hload
    rfl
  · cases hload

theorem describes_componentDocument : Describes false componentDocument [componentJob] := by
  refine .list (by decide) rfl (.cons ⟨_, rfl, ?_⟩ .nil)
  exact { keys := by decide, input := ⟨_, rfl, rfl⟩, output := ⟨_, rfl, rfl⟩,
          component := .inr ⟨_, rfl, .text (by decide)⟩ }

theorem batch_loads_manifest_component :
    Order.ofTexts batchArgs = .ok (.batch batchOptions) ∧ batchOptions.manifest = some "m".toList ∧
      (pagesWorld componentManifest).tree.read (Path.ofText "m".toList) = .ok (utf8 componentManifest) ∧
      HasDocument Manifest.depth (utf8 componentManifest) componentDocument ∧
      Describes false componentDocument [componentJob] ∧ (∀ j ∈ [componentJob], j.AvoidsHomes) ∧
      ∃ w', (run (fun _ => none) batchArgs : StateM World Outcome).run (pagesWorld componentManifest) =
          (.printed "Converted 1 file(s) from m.\n".toList, w') ∧
        w'.tree.entry? [utf8 "b"] =
          some (.file (utf8 "export default function P() \x7b\n  return (\n    <p>x</p>\n  );\n\x7d\n")) := by
  have hargs : Order.ofTexts batchArgs = .ok (.batch batchOptions) := by decide +kernel
  have ho : batchOptions.manifest = some "m".toList := rfl
  have hfile : (pagesWorld componentManifest).tree.read (Path.ofText "m".toList) = .ok (utf8 componentManifest) := by
    decide +kernel
  have hdocument : HasDocument Manifest.depth (utf8 componentManifest) componentDocument :=
    ⟨_, Text.Utf8.encode_eq _, load_componentManifest⟩
  have hhomes : ∀ j ∈ [componentJob], j.AvoidsHomes := by simp only [List.mem_singleton, forall_eq]; exact ⟨rfl, rfl⟩
  have hrun := (batch_loads_manifest (fun _ => none) batchArgs _ batchOptions _ _ hargs ho hfile).1 false Manifest.depth
    componentDocument [componentJob] (Nat.le_refl _) hdocument describes_componentDocument hhomes
  refine ⟨hargs, ho, hfile, hdocument, describes_componentDocument, hhomes, _, hrun.trans (Prod.ext ?_ rfl), ?_⟩
  · decide +kernel
  · decide +kernel

/-- Three files that are no manifests: a byte that is no text, a text that is no document, and
    a list. None is refused as invalid; the first two fail in their readers, and the last one
    passes for a manifest without jobs. -/
theorem broken_manifest_not_refused :
    ((run (fun _ => none) batchArgs : StateM World Outcome).run
        ⟨⟨[], [([utf8 "m"], .file [0xFF])]⟩, []⟩).1 =
      .failed (.load (.read (.undecodable ⟨0, 1, 0xFF, .invalidStart⟩))) ∧
    ((run (fun _ => none) batchArgs : StateM World Outcome).run (pagesWorld "[")).1 = .failed (.load (.yaml .grammar)) ∧
    ((run (fun _ => none) batchArgs : StateM World Outcome).run (pagesWorld "[]")).1 =
      .printed "Converted 0 file(s) from m.\n".toList := by
  decide +kernel

end Command

end MarkupJsx
