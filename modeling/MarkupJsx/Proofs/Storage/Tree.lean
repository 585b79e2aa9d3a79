/-
  MarkupJsx.Proofs.Storage.Tree — where paths lead in a tree, and in a tree that has more.

  Rule. What lies in a tree lies in a directory (`Rooted`); so does whatever a path leads to
  (`locate_dropLast`), and a file or a directory put there leaves the tree rooted
  (`rooted_put`).

  A path is resolved anew by every order. Without links the location depends on the names
  alone (`walk_eq_target`), but whether the path leads there depends on the tree: double dots
  behind a missing name lead nowhere, until a directory has that name. A path is grounded when
  no double dots of it stand behind a missing name. Such a path stays grounded while
  directories stay directories (`isGrounded_of_keepsKinds`), and leads to something that was
  there before only if it led there before (`lookup_of_keepsKinds`). Whatever path leads
  somewhere leads there still (`locate_mono`).
-/

import Mathlib.Data.List.Induction
import MarkupJsx.Storage.Tree

namespace MarkupJsx.Tree

variable {t t' : Tree} {l l' : Location} {e : Entry} {p : Path} {names : List Bytes}

/-! ## Entries -/

@[simp] theorem entry?_nil (t : Tree) : t.entry? [] = some .directory := if_pos rfl

theorem lookup_putEntry (l k : Location) (e : Entry) (entries : List (Location × Entry)) :
    (putEntry l e entries).lookup k = if k = l then some e else entries.lookup k := by
  induction entries with
  | nil => by_cases hk : k = l <;> simp [putEntry, List.lookup_cons, hk, beq_eq_false_iff_ne.mpr]
  | cons x rest ih =>
    obtain ⟨place, old⟩ := x
    by_cases hp : place = l
    · by_cases hk : k = l <;> simp [putEntry, List.lookup_cons, hp, hk, beq_eq_false_iff_ne.mpr]
    · by_cases hk : k = place
      · simp [putEntry, hp, hk]
      · simp [putEntry, List.lookup_cons, hp, ih, beq_eq_false_iff_ne.mpr hk]

theorem entry?_put (h : t.entry? l ≠ some .directory) (e : Entry) (k : Location) :
    entry? (t.put l e) k = if k = l then some e else t.entry? k := by
  have hl : l ≠ [] := by rintro rfl; simp at h
  by_cases hk : k = []
  · subst hk; simp [hl.symm]
  · simp [put, entry?, hk, lookup_putEntry]

theorem directory_put {k : Location} (h : t.entry? l ≠ some .directory) (hk : t.entry? k = some .directory) (e : Entry) :
    entry? (t.put l e) k = some .directory := by
  have hkl : k ≠ l := by rintro rfl; exact h hk
  rw [Tree.entry?_put h, if_neg hkl, hk]

theorem mem_of_mem_putEntry {x : Location × Entry} {entries : List (Location × Entry)}
    (h : x ∈ putEntry l e entries) : x = (l, e) ∨ x ∈ entries := by
  induction entries with
  | nil => exact .inl (List.mem_singleton.mp h)
  | cons y rest ih =>
    simp only [putEntry] at h
    split at h
    · rcases List.mem_cons.mp h with rfl | h
      · exact .inl rfl
      · exact .inr (List.mem_cons_of_mem y h)
    · rcases List.mem_cons.mp h with rfl | h
      · exact .inr (List.mem_cons_self ..)
      · exact (ih h).imp_right (List.mem_cons_of_mem y)

/-! ## Rooted trees -/

/-- All that is there lies in a directory, and relative paths begin in one. -/
structure Rooted (t : Tree) : Prop where
  here : t.entry? t.here = some .directory
  around : ∀ x ∈ t.entries, t.entry? x.1.dropLast = some .directory

instance (t : Tree) : Decidable t.Rooted :=
  decidable_of_iff (t.entry? t.here = some .directory ∧ ∀ x ∈ t.entries, t.entry? x.1.dropLast = some .directory)
    ⟨fun h => ⟨h.1, h.2⟩, fun h => ⟨h.here, h.around⟩⟩

theorem Rooted.dropLast (ht : t.Rooted) (h : t.entry? l = some e) : t.entry? l.dropLast = some .directory := by
  by_cases hl : l = []
  · simp [hl]
  · simp only [hl, entry?, if_false] at h
    obtain ⟨before, after, hentries, -⟩ := List.lookup_eq_some_iff.mp h
    exact ht.around (l, e) (by simp [hentries])

/-- Nothing lies below what is not there. -/
theorem Rooted.entry?_append_of_none (ht : t.Rooted) (h : t.entry? l = none) (names : List Bytes) :
    t.entry? (l ++ names) = none := by
  induction names using List.reverseRecOn with
  | nil => simpa using h
  | append_singleton names name ih =>
    cases he : t.entry? (l ++ (names ++ [name])) with
    | none => rfl
    | some e =>
      have hd := ht.dropLast he
      rw [← List.append_assoc, List.dropLast_concat, ih] at hd
      cases hd

theorem rooted_put (ht : t.Rooted) (hl : t.entry? l.dropLast = some .directory)
    (h : t.entry? l ≠ some .directory) (e : Entry) : (t.put l e).Rooted := by
  refine ⟨directory_put h ht.here e, fun x hx => ?_⟩
  rcases mem_of_mem_putEntry hx with rfl | hx
  · exact directory_put h hl e
  · exact directory_put h (ht.around x hx) e

/-! ## Walking -/

/-- Where resolving a path begins. -/
def start (t : Tree) (p : Path) : Location := if p.isAbsolute then [] else t.here

/-- The location one name further. -/
def next (l : Location) (name : Bytes) : Location := if name = dots then l.dropLast else l ++ [name]

theorem walk_cons_eq_ok {name : Bytes} {rest : List Bytes} (h : t.walk p l (name :: rest) = .ok l') :
    t.entry? l = some .directory ∧ name.length ≤ FileName.maxLength ∧ t.walk p (next l name) rest = .ok l' := by
  simp only [walk] at h
  split at h
  · cases h
  · cases h
  · rename_i hd
    split at h
    · cases h
    · exact ⟨hd, by omega, h⟩

theorem locate_eq_ok (h : t.locate p = .ok l) :
    ∃ names, p.names = .ok names ∧ Path.isTooLong p.root names = false ∧ t.walk p (t.start p) names = .ok l := by
  simp only [locate] at h
  split at h
  · cases h
  · rename_i names hn
    split at h
    · cases h
    · rename_i hlong
      exact ⟨names, hn, by simpa using hlong, h⟩

/-- A path can lead to one location only. -/
theorem walk_eq_target (h : t.walk p l names = .ok l') : l' = names.foldl next l := by
  induction names generalizing l with
  | nil => cases h; rfl
  | cons name rest ih => exact ih (walk_cons_eq_ok h).2.2

theorem walk_dropLast (ht : t.Rooted) (hl : t.entry? l.dropLast = some .directory) (h : t.walk p l names = .ok l') :
    t.entry? l'.dropLast = some .directory := by
  induction names generalizing l with
  | nil => cases h; exact hl
  | cons name rest ih =>
    obtain ⟨hd, -, h⟩ := walk_cons_eq_ok h
    refine ih ?_ h
    unfold next
    split
    · exact ht.dropLast hl
    · rw [List.dropLast_concat, hd]

theorem locate_dropLast (ht : t.Rooted) (h : t.locate p = .ok l) : t.entry? l.dropLast = some .directory := by
  obtain ⟨names, -, -, h⟩ := locate_eq_ok h
  refine walk_dropLast ht ?_ h
  unfold start
  split
  · simp
  · exact ht.dropLast ht.here

/-! ## Writing -/

theorem write_eq_ok {content : Bytes} (h : t.write p content = .ok t') :
    ∃ l, t.locate p = .ok l ∧ t.entry? l ≠ some .directory ∧ t' = t.put l (.file content) := by
  simp only [write] at h
  split at h
  · cases h
  · rename_i l hl
    split at h
    · cases h
    · rename_i hfree
      cases h
      exact ⟨l, hl, hfree, rfl⟩

/-! ## Grounded paths -/

/-- No double dots stand behind a name that is missing. Behind a file, and behind a name that
    is too long, nothing is ever looked up. -/
def isGroundedFrom (t : Tree) (l : Location) : List Bytes → Bool
  | [] => true
  | name :: rest =>
    match t.entry? l with
    | none => !(name :: rest).contains dots
    | some (.file _) => true
    | some .directory => name.length > FileName.maxLength || t.isGroundedFrom (next l name) rest

def isGrounded (t : Tree) (p : Path) : Bool :=
  match p.names with
  | .error _ => true
  | .ok names => Path.isTooLong p.root names || t.isGroundedFrom (t.start p) names

/-- The location that a path leads to, if it leads anywhere. -/
def target? (t : Tree) (p : Path) : Option Location := (p.names.map fun names => names.foldl next (t.start p)).toOption

theorem target?_of_locate (h : t.locate p = .ok l) : t.target? p = some l := by
  obtain ⟨names, hn, -, h⟩ := locate_eq_ok h
  simp [target?, hn, Except.map, Except.toOption, walk_eq_target h]

theorem isGroundedFrom_of_not_mem (t : Tree) (l : Location) (h : dots ∉ names) : t.isGroundedFrom l names = true := by
  induction names generalizing l with
  | nil => rfl
  | cons name rest ih =>
    unfold isGroundedFrom
    split
    · simpa using h
    · rfl
    · simp [ih (next l name) fun hm => h (List.mem_cons_of_mem name hm)]

theorem foldl_next_of_not_mem (h : dots ∉ names) : names.foldl next l = l ++ names := by
  induction names generalizing l with
  | nil => simp
  | cons name rest ih =>
    have hname : name ≠ dots := fun hd => h (hd ▸ List.mem_cons_self ..)
    simp [next, hname, ih fun hm => h (List.mem_cons_of_mem name hm)]

/-- Directories stay directories, and files stay files, whatever they hold. -/
structure KeepsKinds (t t' : Tree) : Prop where
  here : t'.here = t.here
  rooted : t.Rooted → t'.Rooted
  directory {l : Location} : t.entry? l = some .directory → t'.entry? l = some .directory
  file {l : Location} {content : Bytes} :
    t.entry? l = some (.file content) → ∃ content', t'.entry? l = some (.file content')

theorem KeepsKinds.refl (t : Tree) : t.KeepsKinds t := ⟨rfl, id, id, fun h => ⟨_, h⟩⟩

theorem KeepsKinds.trans {t'' : Tree} (h : t.KeepsKinds t') (h' : t'.KeepsKinds t'') : t.KeepsKinds t'' where
  here := h'.here.trans h.here
  rooted ht := h'.rooted (h.rooted ht)
  directory hl := h'.directory (h.directory hl)
  file hl := (h.file hl).elim fun _ hl => h'.file hl

theorem KeepsKinds.start (h : t.KeepsKinds t') (p : Path) : t'.start p = t.start p := by
  simp [Tree.start, h.here]

theorem keepsKinds_putFile (hl : t.locate p = .ok l) (hfree : t.entry? l ≠ some .directory) (content : Bytes) :
    t.KeepsKinds (t.put l (.file content)) where
  here := rfl
  rooted ht := rooted_put ht (locate_dropLast ht hl) hfree _
  directory hk := directory_put hfree hk _
  file {k c} hk := by
    rw [Tree.entry?_put hfree]
    by_cases hkl : k = l
    · exact ⟨content, if_pos hkl⟩
    · exact ⟨c, by rw [if_neg hkl, hk]⟩

theorem isGroundedFrom_of_keepsKinds (h : t.KeepsKinds t') (hg : t.isGroundedFrom l names = true) :
    t'.isGroundedFrom l names = true := by
  induction names generalizing l with
  | nil => rfl
  | cons name rest ih =>
    unfold isGroundedFrom at hg
    split at hg
    · exact isGroundedFrom_of_not_mem t' l (by simpa using hg)
    · rename_i hf
      obtain ⟨content, hf⟩ := h.file hf
      simp [isGroundedFrom, hf]
    · rename_i hd
      rcases Bool.or_eq_true _ _ ▸ hg with hlong | hg
      · simp only [isGroundedFrom, h.directory hd, hlong, Bool.true_or]
      · simp only [isGroundedFrom, h.directory hd, ih hg, Bool.or_true]

theorem isGrounded_of_keepsKinds (h : t.KeepsKinds t') (hg : t.isGrounded p = true) : t'.isGrounded p = true := by
  unfold isGrounded at hg ⊢
  split at hg
  · rfl
  · rw [h.start]
    rcases Bool.or_eq_true _ _ ▸ hg with hlong | hg
    · simp [hlong]
    · simp [isGroundedFrom_of_keepsKinds h hg]

/-- Walking grounded names to what was there before is no new way. Where the walk would have
    missed a name it went on below that name, and there nothing was. -/
theorem walk_of_keepsKinds (ht : t.Rooted) (h : t.KeepsKinds t') (hg : t.isGroundedFrom l names = true)
    (hw : t'.walk p l names = .ok l') (he : t.entry? l' = some e) : t.walk p l names = .ok l' := by
  induction names generalizing l with
  | nil => exact hw
  | cons name rest ih =>
    have hl' := walk_eq_target hw
    obtain ⟨hd', hlength, hw⟩ := walk_cons_eq_ok hw
    unfold isGroundedFrom at hg
    split at hg
    · rename_i hn
      have hdots : dots ∉ name :: rest := by simpa using hg
      rw [hl', foldl_next_of_not_mem hdots, ht.entry?_append_of_none hn] at he
      cases he
    · rename_i hf
      obtain ⟨content, hf⟩ := h.file hf
      rw [hf] at hd'
      cases hd'
    · rename_i hd
      have hg : t.isGroundedFrom (next l name) rest = true := by
        simpa [Nat.not_lt.mpr hlength] using hg
      simp only [walk, hd, Nat.not_lt.mpr hlength, if_false]
      exact ih hg hw

/-- A walk finds its way again where all directories still are. -/
theorem walk_mono (h : t.KeepsKinds t') (hw : t.walk p l names = .ok l') : t'.walk p l names = .ok l' := by
  induction names generalizing l with
  | nil => exact hw
  | cons name rest ih =>
    obtain ⟨hd, hlength, hw⟩ := walk_cons_eq_ok hw
    simp only [walk, h.directory hd, Nat.not_lt.mpr hlength, if_false]
    exact ih hw

theorem locate_mono (h : t.KeepsKinds t') (hl : t.locate p = .ok l) : t'.locate p = .ok l := by
  obtain ⟨names, hn, hlong, hw⟩ := locate_eq_ok hl
  have hw' : t'.walk p (t'.start p) names = .ok l := by rw [h.start]; exact walk_mono h hw
  simp only [locate, hn, hlong]
  exact hw'

/-- What a path leads to may become another file, but not vanish. -/
theorem exists_lookup_mono (h : t.KeepsKinds t') (hl : t.lookup p = .ok e) : ∃ e', t'.lookup p = .ok e' := by
  simp only [lookup] at hl
  split at hl
  · cases hl
  · rename_i l hlocate
    have hlocate' := locate_mono h hlocate
    split at hl
    · cases hl
    · rename_i x hentry
      cases x with
      | file content =>
        obtain ⟨content', hentry'⟩ := h.file hentry
        exact ⟨.file content', by simp only [lookup, hlocate', hentry']⟩
      | directory => exact ⟨.directory, by simp only [lookup, hlocate', h.directory hentry]⟩

theorem lookup_of_keepsKinds (ht : t.Rooted) (h : t.KeepsKinds t') (hg : t.isGrounded p = true)
    (hl : t'.locate p = .ok l) (he : t.entry? l = some e) : t.lookup p = .ok e := by
  obtain ⟨names, hn, hlong, hw⟩ := locate_eq_ok hl
  rw [h.start] at hw
  have hg : t.isGroundedFrom (t.start p) names = true := by simpa [isGrounded, hn, hlong] using hg
  have hl : t.locate p = .ok l := by
    simp only [locate, hn, hlong]
    exact walk_of_keepsKinds ht h hg hw he
  simp only [lookup, hl, he]

end MarkupJsx.Tree
