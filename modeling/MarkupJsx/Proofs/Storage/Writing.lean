/-
  MarkupJsx.Proofs.Storage.Writing — what reading and writing do to files as a value.

  Rule. Asking and reading change nothing, and their answers are those of `Tree.isThere`,
  `Tree.text` and `World.markup` (`run_isThere`, `run_readText`, `run_readMarkup`). Creating
  directories puts directories where nothing was, also when it fails halfway
  (`addsDirectories_makeDirectories`). Writing a text first does that; then it fails and
  changes nothing more, or puts the text at the location to which the path leads by then,
  where there is no directory (`writeText_cases`). So the file at the path has the text, or
  no file has changed (`files_of_writeText`).
-/

import MarkupJsx.Proofs.Storage.Tree
import MarkupJsx.Storage.Text

namespace MarkupJsx

variable {α β : Type}

/-! ## Answers -/

namespace Tree

/-- Something is there, if that can be told. -/
def isThere (t : Tree) (p : Path) : Except FileError Bool :=
  match t.lookup p with
  | .ok _ => .ok true
  | .error e => if e.isAbsence then .ok false else .error e

/-- The text of a file. -/
def text (t : Tree) (p : Path) : Except ReadError Text :=
  match t.read p with
  | .error e => .error (.file e)
  | .ok content => Storage.textOf content

variable {t : Tree} {p : Path}

theorem isThere_of_lookup {e : Entry} (h : t.lookup p = .ok e) : t.isThere p = .ok true := by simp only [isThere, h]

theorem lookup_of_read {content : Bytes} (h : t.read p = .ok content) : ∃ e, t.lookup p = .ok e := by
  unfold read at h
  split at h
  · cases h
  · cases h
  · rename_i he
    exact ⟨_, he⟩

theorem isThere_of_read {content : Bytes} (h : t.read p = .ok content) : t.isThere p = .ok true := by
  obtain ⟨e, he⟩ := lookup_of_read h
  exact isThere_of_lookup he

theorem isThere_of_text {s : Text} (h : t.text p = .ok s) : t.isThere p = .ok true := by
  cases hread : t.read p with
  | ok content => exact isThere_of_read hread
  | error e =>
    simp only [text, hread] at h
    cases h

end Tree

namespace World

/-- The text of a source. -/
def markup (w : World) : Source → Except ReadError Text
  | .standardInput => Storage.textOf w.input
  | .path p =>
    match w.tree.isThere p with
    | .error e => .error (.file e)
    | .ok false => .error (.notFound p)
    | .ok true => w.tree.text p

@[simp] theorem run_bind (x : StateM World α) (f : α → StateM World β) (w : World) :
    (x >>= f).run w = (f (x.run w).1).run (x.run w).2 := rfl

@[simp] theorem run_kind (p : Path) (w : World) :
    (Storage.kind p : StateM World _).run w = ((w.tree.lookup p).map Entry.kind, w) := rfl

@[simp] theorem run_read (p : Path) (w : World) :
    (Storage.read p : StateM World _).run w = (w.tree.read p, w) := rfl

@[simp] theorem run_isThere (p : Path) (w : World) :
    (Storage.isThere p : StateM World _).run w = (w.tree.isThere p, w) := by
  simp only [Storage.isThere, run_bind, run_kind, Tree.isThere]
  cases w.tree.lookup p <;> rfl

@[simp] theorem run_readText (p : Path) (w : World) :
    (Storage.readText p : StateM World _).run w = (w.tree.text p, w) := by
  simp only [Storage.readText, run_bind, run_read, Tree.text]
  cases w.tree.read p <;> rfl

@[simp] theorem run_readMarkup (source : Source) (w : World) :
    (Storage.readMarkup source : StateM World _).run w = (w.markup source, w) := by
  cases source with
  | standardInput => rfl
  | path p =>
    simp only [Storage.readMarkup, run_bind, run_isThere, markup]
    rcases w.tree.isThere p with e | _ | _
    · rfl
    · rfl
    · exact run_readText p w

theorem run_order (f : Tree → Except FileError Tree) (w : World) :
    (order f).run w =
      match f w.tree with
      | .error e => (.error e, w)
      | .ok t => (.ok (), { w with tree := t }) := rfl

end World

/-! ## Directories -/

/-- Directories where nothing was are all that has changed. -/
structure Tree.AddsDirectories (t t' : Tree) : Prop where
  here : t'.here = t.here
  rooted : t.Rooted → t'.Rooted
  entry (l : Location) : t'.entry? l = t.entry? l ∨ t.entry? l = none ∧ t'.entry? l = some .directory

namespace Tree.AddsDirectories

variable {t t' t'' : Tree}

theorem refl (t : Tree) : t.AddsDirectories t := ⟨rfl, id, fun _ => .inl rfl⟩

theorem trans (h : t.AddsDirectories t') (h' : t'.AddsDirectories t'') : t.AddsDirectories t'' where
  here := h'.here.trans h.here
  rooted ht := h'.rooted (h.rooted ht)
  entry l := by
    rcases h.entry l with hl | ⟨hn, hd⟩ <;> rcases h'.entry l with hl' | ⟨hn', hd'⟩
    · exact .inl (hl'.trans hl)
    · exact .inr ⟨hl ▸ hn', hd'⟩
    · exact .inr ⟨hn, hl'.trans hd⟩
    · exact .inr ⟨hn, hd'⟩

theorem entry_of_some (h : t.AddsDirectories t') {l : Location} {e : Entry} (hl : t.entry? l = some e) :
    t'.entry? l = some e := by
  rcases h.entry l with he | ⟨hn, -⟩
  · rw [he, hl]
  · rw [hl] at hn; cases hn

theorem keepsKinds (h : t.AddsDirectories t') : t.KeepsKinds t' :=
  ⟨h.here, h.rooted, h.entry_of_some, fun hl => ⟨_, h.entry_of_some hl⟩⟩

end Tree.AddsDirectories

theorem Tree.addsDirectories_of_makeDirectory {t t' : Tree} {p : Path} (h : t.makeDirectory p = .ok t') :
    t.AddsDirectories t' := by
  simp only [Tree.makeDirectory] at h
  split at h
  · cases h
  · rename_i l hl
    split at h
    · cases h
    · rename_i hn
      have hn : t.entry? l = none := by simpa using hn
      have hd : t.entry? l ≠ some .directory := by simp [hn]
      cases h
      refine ⟨rfl, fun ht => rooted_put ht (locate_dropLast ht hl) hd _, fun k => ?_⟩
      rw [entry?_put hd]
      by_cases hk : k = l
      · exact .inr ⟨hk ▸ hn, if_pos hk⟩
      · exact .inl (if_neg hk)

namespace World

/-- Whatever the world, all that the action does to it is to add directories. -/
def AddsDirectories (x : StateM World α) : Prop :=
  ∀ w, w.tree.AddsDirectories (x.run w).2.tree ∧ (x.run w).2.input = w.input

theorem addsDirectories_pure (a : α) : AddsDirectories (pure a) := fun w => ⟨.refl w.tree, rfl⟩

theorem AddsDirectories.bind {x : StateM World α} {f : α → StateM World β} (hx : AddsDirectories x)
    (hf : ∀ a, AddsDirectories (f a)) : AddsDirectories (x >>= f) := by
  intro w
  obtain ⟨ht, hi⟩ := hx w
  obtain ⟨ht', hi'⟩ := hf (x.run w).1 (x.run w).2
  exact ⟨ht.trans ht', hi'.trans hi⟩

theorem addsDirectories_order {f : Tree → Except FileError Tree}
    (hf : ∀ {t t' : Tree}, f t = .ok t' → t.AddsDirectories t') : AddsDirectories (order f) := by
  intro w
  rw [run_order]
  cases ht : f w.tree with
  | error e => exact ⟨.refl w.tree, rfl⟩
  | ok t => exact ⟨hf ht, rfl⟩

theorem addsDirectories_makeDirectory (p : Path) : AddsDirectories (Storage.makeDirectory p) :=
  addsDirectories_order (f := (·.makeDirectory p)) Tree.addsDirectories_of_makeDirectory

/-- A question, whatever becomes of its answer. -/
theorem addsDirectories_isDirectory (p : Path) : AddsDirectories (Storage.isDirectory p) := by
  refine AddsDirectories.bind (x := Storage.kind p) (fun w => ⟨.refl w.tree, rfl⟩) fun r => ?_
  split <;> exact addsDirectories_pure _

theorem addsDirectories_ensureDirectory (p : Path) : AddsDirectories (Storage.ensureDirectory p) := by
  unfold Storage.ensureDirectory
  refine (addsDirectories_makeDirectory p).bind fun r => ?_
  split
  · exact addsDirectories_pure _
  · exact addsDirectories_pure _
  · exact (addsDirectories_isDirectory p).bind fun _ => addsDirectories_pure _

theorem addsDirectories_makeDirectories (p : Path) : AddsDirectories (Storage.makeDirectories p) := by
  induction hn : p.parts.length using Nat.strongRecOn generalizing p with
  | ind n ih =>
    rw [Storage.makeDirectories]
    refine (addsDirectories_ensureDirectory p).bind fun r => ?_
    split
    · split
      · exact addsDirectories_pure _
      · rename_i hparts
        have hless : p.parent.parts.length < n := by
          have hpos := List.length_pos_iff.mpr hparts
          simp only [Path.parent, List.length_dropLast]
          omega
        refine (ih _ hless p.parent rfl).bind fun r => ?_
        split
        · exact addsDirectories_pure _
        · exact addsDirectories_ensureDirectory p
    · exact addsDirectories_pure _

/-! ## Writing -/

theorem run_write (p : Path) (content : Bytes) (w : World) :
    (Storage.write p content : StateM World _).run w =
      match w.tree.write p content with
      | .error e => (.error e, w)
      | .ok t => (.ok (), { w with tree := t }) :=
  run_order (·.write p content) w

/-- Create the directory that a path needs. -/
def prepare (p : Path) : StateM World (Except FileError Unit) :=
  if Storage.isLocal p then pure (.ok ()) else Storage.makeDirectories p.parent

theorem addsDirectories_prepare (p : Path) : AddsDirectories (prepare p) := by
  unfold prepare
  split
  · exact addsDirectories_pure _
  · exact addsDirectories_makeDirectories p.parent

theorem run_writeText (p : Path) (content : Text) (w : World) :
    (Storage.writeText p content : StateM World _).run w =
      match (prepare p).run w with
      | (.error e, w') => (.error e, w')
      | (.ok (), w') => (Storage.write p (Text.Utf8.encode content) : StateM World _).run w' := by
  unfold Storage.writeText prepare
  split
  · rfl
  · simp only [run_bind]
    rcases (Storage.makeDirectories p.parent : StateM World _).run w with ⟨_ | _, w'⟩ <;> rfl

/-- Where a text is put: directories have been added, and by then the path leads to a location
    where there is none. -/
structure Opens (w : World) (p : Path) (w' : World) (l : Location) : Prop where
  adds : w.tree.AddsDirectories w'.tree
  input : w'.input = w.input
  locate : w'.tree.locate p = .ok l
  free : w'.tree.entry? l ≠ some .directory

/-- The world with a file at a location. -/
def putFile (w : World) (l : Location) (content : Bytes) : World := { w with tree := w.tree.put l (.file content) }

theorem writeText_cases (p : Path) (content : Text) (w : World) :
    (∃ e w', (Storage.writeText p content : StateM World _).run w = (.error e, w') ∧
      w.tree.AddsDirectories w'.tree ∧ w'.input = w.input) ∨
    ∃ w' l, w.Opens p w' l ∧
      (Storage.writeText p content : StateM World _).run w = (.ok (), w'.putFile l (Text.Utf8.encode content)) := by
  obtain ⟨hadds, hinput⟩ := addsDirectories_prepare p w
  rw [run_writeText]
  rcases hprepare : (prepare p).run w with ⟨e | _, w'⟩
  · rw [hprepare] at hadds hinput
    exact .inl ⟨e, w', rfl, hadds, hinput⟩
  · rw [hprepare] at hadds hinput
    simp only [run_write]
    cases ht : w'.tree.write p (Text.Utf8.encode content) with
    | error e => exact .inl ⟨e, w', rfl, hadds, hinput⟩
    | ok t =>
      obtain ⟨l, hl, hfree, rfl⟩ := Tree.write_eq_ok ht
      exact .inr ⟨w', l, ⟨hadds, hinput, hl, hfree⟩, rfl⟩

end World

/-! ## Files -/

namespace Tree

variable {t t' : Tree} {p : Path} {content : Bytes}

/-- Every file has the bytes it had, and there is no new one. Directories may be new. -/
def SameFiles (t t' : Tree) : Prop :=
  ∀ l content, t'.entry? l = some (.file content) ↔ t.entry? l = some (.file content)

/-- The path leads to a file with these bytes, and all other files are as they were. -/
def Receives (t : Tree) (p : Path) (content : Bytes) (t' : Tree) : Prop :=
  ∃ l, t'.locate p = .ok l ∧ t'.entry? l = some (.file content) ∧
    ∀ k, k ≠ l → ∀ c, t'.entry? k = some (.file c) ↔ t.entry? k = some (.file c)

theorem SameFiles.refl (t : Tree) : t.SameFiles t := fun _ _ => Iff.rfl

theorem AddsDirectories.sameFiles (h : t.AddsDirectories t') : t.SameFiles t' := by
  intro l content
  rcases h.entry l with he | ⟨hn, hd⟩
  · rw [he]
  · rw [hn, hd]
    simp

theorem Receives.read (h : t.Receives p content t') : t'.read p = .ok content := by
  obtain ⟨l, hl, hentry, -⟩ := h
  simp only [Tree.read, lookup, hl, hentry]

end Tree

namespace World

/-- The file is where the path leads, also once it is there. -/
theorem Opens.receives {w w' : World} {p : Path} {l : Location} (h : w.Opens p w' l) (content : Bytes) :
    w.tree.Receives p content (w'.putFile l content).tree := by
  refine ⟨l, Tree.locate_mono (Tree.keepsKinds_putFile h.locate h.free content) h.locate, ?_, fun k hk c => ?_⟩
  · simp only [putFile, Tree.entry?_put h.free, if_true]
  · simp only [putFile, Tree.entry?_put h.free, if_neg hk]
    exact h.adds.sameFiles k c

/-- A text is written whole, or no file changes. -/
theorem files_of_writeText {w w' : World} {p : Path} {content : Text} {r : Except FileError Unit}
    (h : (Storage.writeText p content : StateM World _).run w = (r, w')) :
    (r = .ok () → w.tree.Receives p (Text.Utf8.encode content) w'.tree) ∧ (r ≠ .ok () → w.tree.SameFiles w'.tree) := by
  rcases writeText_cases p content w with ⟨e, v, hw, hadds, -⟩ | ⟨v, l, ho, hw⟩
  · rw [hw] at h
    cases h
    exact ⟨nofun, fun _ => hadds.sameFiles⟩
  · rw [hw] at h
    cases h
    exact ⟨fun _ => ho.receives _, fun hne => absurd rfl hne⟩

end World

end MarkupJsx
