/-
  MarkupJsx.Proofs.Command.Overwriting — what a run without force can overwrite.

  Rule. Without force a target is looked at, and written only when nothing is there. Between
  the two, the directories it needs are created, and then it is resolved again. It can lead to
  something that was there all along only if it went through double dots behind a directory
  that was missing; a grounded target spares everything (`entry_of_writes`). No run changes
  what is a file and what a directory (`keepsKinds_of_writes`), so the jobs of a batch keep
  each other's targets grounded (`entry_of_runJobs`). Every file stays as it is that no
  ungrounded target leads to (`existing_file_stays`), and one that such a target leads to can
  be lost (`existing_file_lost`).
-/

import MarkupJsx.Proofs.Command.Runs

namespace MarkupJsx

variable {t t' : Tree} {l : Location} {e : Entry} {p : Path}

/-! ## Targets -/

/-- The path does not lead to the location, or it is grounded. -/
def Tree.Spares (t : Tree) (p : Path) (l : Location) : Prop := t.isGrounded p = true ∨ t.target? p ≠ some l

instance (t : Tree) (p : Path) (l : Location) : Decidable (t.Spares p l) :=
  inferInstanceAs (Decidable (t.isGrounded p = true ∨ t.target? p ≠ some l))

theorem Tree.Spares.of_keepsKinds (hp : t.Spares p l) (h : t.KeepsKinds t') : t'.Spares p l := by
  rcases hp with hg | hne
  · exact .inl (Tree.isGrounded_of_keepsKinds h hg)
  · right
    simpa only [Tree.target?, h.start] using hne

namespace Command

open Manifest (Homes Job)

variable {w w' : World}

theorem keepsKinds_of_writes {force : Bool} (h : Writes force p w w') : w.tree.KeepsKinds w'.tree := by
  obtain ⟨-, t, rfl⟩ := h
  rcases World.writeText_cases p t w with ⟨e, w', hw, hadds, -⟩ | ⟨w', l, ho, hw⟩
  · rw [hw]
    exact hadds.keepsKinds
  · rw [hw]
    exact ho.adds.keepsKinds.trans (Tree.keepsKinds_putFile ho.locate ho.free _)

/-- A text that goes where something was would have been seen to. -/
theorem entry_of_writes (ht : w.tree.Rooted) (h : Writes false p w w') (hp : w.tree.Spares p l)
    (hl : w.tree.entry? l = some e) : w'.tree.entry? l = some e := by
  obtain ⟨⟨there, hthere, hclear⟩, t, rfl⟩ := h
  rcases World.writeText_cases p t w with ⟨_, w', hw, hadds, -⟩ | ⟨w', k, ho, hw⟩
  · rw [hw]
    exact hadds.entry_of_some hl
  · rw [hw]
    have hkl : l ≠ k := by
      rintro rfl
      have htarget : w.tree.target? p = some l := by
        have := Tree.target?_of_locate ho.locate
        rwa [Tree.target?, ho.adds.keepsKinds.start] at this
      have hg := hp.resolve_right fun hne => hne htarget
      have hlookup := Tree.lookup_of_keepsKinds ht ho.adds.keepsKinds hg ho.locate hl
      rw [Tree.isThere_of_lookup hlookup] at hthere
      cases hthere
      cases hclear
    simp only [World.putFile, Tree.entry?_put ho.free, if_neg hkl]
    exact ho.adds.entry_of_some hl

/-! ## Batches -/

theorem entry_of_runJobs {jobs : List Job} (n : Nat) (ht : w.tree.Rooted)
    (hjobs : ∀ j ∈ jobs, w.tree.Spares j.output l) (hl : w.tree.entry? l = some e) :
    ((runJobs false n jobs : StateM World _).run w).2.tree.entry? l = some e := by
  induction jobs generalizing n w with
  | nil => exact hl
  | cons j rest ih =>
    rw [run_runJobs_cons]
    rcases hrun : (runJob false j : StateM World _).run w with ⟨r, w'⟩
    have hstep : w.tree.KeepsKinds w'.tree ∧ w'.tree.entry? l = some e := by
      rcases runJob_world hrun with rfl | hw
      · exact ⟨.refl w'.tree, hl⟩
      · exact ⟨keepsKinds_of_writes hw, entry_of_writes ht hw (hjobs j (List.mem_cons_self ..)) hl⟩
    obtain ⟨hkinds, hl'⟩ := hstep
    cases r with
    | error f => exact hl'
    | ok fault =>
      exact ih (n + 1) (hkinds.rooted ht) (fun k hk => (hjobs k (List.mem_cons_of_mem j hk)).of_keepsKinds hkinds) hl'

/-! ## Runs -/

def Order.force : Order → Bool
  | convert o => o.force
  | batch o => o.force
  | overview => false

/-- The paths that an order may write to. -/
def Order.targets (homes : Homes) (t : Tree) : Order → List Path
  | convert o => o.output.join.toList.map Path.ofText
  | batch o =>
    match o.manifest.map fun source => jobsAt homes t (Path.ofText source) with
    | some (.ok jobs) => jobs.map Job.output
    | _ => []
  | overview => []

/-- A run without force changes no file but one to which a target leads by double dots behind a
    directory that is missing. -/
theorem existing_file_stays (homes : Homes) (args : List Text) (w : World) (o : Order) (l : Location) (content : Bytes)
    (hargs : Order.ofTexts args = .ok o) (hforce : o.force = false) (ht : w.tree.Rooted)
    (htargets : ∀ p ∈ o.targets homes w.tree, w.tree.Spares p l) (hl : w.tree.entry? l = some (.file content)) :
    ((run homes args : StateM World Outcome).run w).2.tree.entry? l = some (.file content) := by
  simp only [run, hargs]
  cases o with
  | overview => exact hl
  | convert o =>
    rcases runConvert_world o w with hw | ⟨target, ho, hw⟩
    · simp only [hw, hl]
    · rw [show o.force = false from hforce] at hw
      exact entry_of_writes ht hw (htargets (Path.ofText target) (by simp [Order.targets, ho])) hl
  | batch o =>
    rcases runBatch_world homes o w with hw | ⟨source, jobs, ho, hjobs⟩
    · simp only [hw, hl]
    · simp only [run_runBatch ho hjobs, show o.force = false from hforce]
      refine entry_of_runJobs 1 ht (fun j hj => ?_) hl
      exact htargets j.output (by simpa [Order.targets, ho, hjobs] using ⟨j, hj, rfl⟩)

/-- A file and a directory in the root. -/
def oldWorld : World :=
  ⟨⟨[], [([utf8 "old.jsx"], .file (utf8 "keep me")), ([utf8 "site"], .directory)]⟩, utf8 "<p>x</p>"⟩

/-- Put the JSX of the standard input at a path. -/
def convertTo (target : String) : List Text := ["convert", "-", "--out", target].map String.toList

def convertOrder (target : String) : Order := .convert ⟨['-'], some (some target.toList), none, false⟩

/-- A way back from a directory that is there is seen through. -/
theorem existing_file_stays_behindDirectory :
    Order.ofTexts (convertTo "site/../old.jsx") = .ok (convertOrder "site/../old.jsx") ∧ oldWorld.tree.Rooted ∧
      (∀ p ∈ (convertOrder "site/../old.jsx").targets (fun _ => none) oldWorld.tree,
        oldWorld.tree.target? p = some [utf8 "old.jsx"] ∧ oldWorld.tree.Spares p [utf8 "old.jsx"]) ∧
      oldWorld.tree.entry? [utf8 "old.jsx"] = some (.file (utf8 "keep me")) ∧
      ((run (fun _ => none) (convertTo "site/../old.jsx") : StateM World Outcome).run oldWorld).2.tree.entry?
        [utf8 "old.jsx"] = some (.file (utf8 "keep me")) := by
  have hargs : Order.ofTexts (convertTo "site/../old.jsx") = .ok (convertOrder "site/../old.jsx") := by decide +kernel
  have ht : oldWorld.tree.Rooted := by decide +kernel
  have htargets : ∀ p ∈ (convertOrder "site/../old.jsx").targets (fun _ => none) oldWorld.tree,
      oldWorld.tree.target? p = some [utf8 "old.jsx"] ∧ oldWorld.tree.Spares p [utf8 "old.jsx"] := by decide +kernel
  have hl : oldWorld.tree.entry? [utf8 "old.jsx"] = some (.file (utf8 "keep me")) := by decide +kernel
  exact ⟨hargs, ht, htargets, hl, existing_file_stays _ _ _ _ _ _ hargs rfl ht (fun p hp => (htargets p hp).2) hl⟩

/-- The directory `new` is missing when the target is looked at, and there when it is written. -/
theorem existing_file_lost :
    Order.ofTexts (convertTo "new/../old.jsx") = .ok (convertOrder "new/../old.jsx") ∧ oldWorld.tree.Rooted ∧
      oldWorld.tree.entry? [utf8 "old.jsx"] = some (.file (utf8 "keep me")) ∧
      ((run (fun _ => none) (convertTo "new/../old.jsx") : StateM World Outcome).run oldWorld).2.tree.entry?
        [utf8 "old.jsx"] = some (.file (utf8 "<p>x</p>\n")) :=
  ⟨by decide +kernel, by decide +kernel, by decide +kernel, by decide +kernel⟩

end Command

end MarkupJsx
