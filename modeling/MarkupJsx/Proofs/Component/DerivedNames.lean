/-
  MarkupJsx.Proofs.Component.DerivedNames — names of components that are made from paths.

  Rule. The words of a stem are its runs of ASCII letters and digits, each as long as it can
  be (`HasWords`). The name has all of them in order, each with a capital where it begins with
  a small letter, and `Page` in front unless it begins with a letter anyway
  (`exists_hasWords`). So whatever the path, its name is a capital with letters and digits
  behind it (`isPascal_nameOfStem`), and a path that is such a name is its own name
  (`nameOfPath_ofText`).

  `derived_names`: a name that is derived is always taken, and one that was taken is never
  refused by the renderer; no run of a command fails for the name of a component.
-/

import MarkupJsx.Proofs.Command.Batch
import MarkupJsx.Proofs.Component.Identifiers
import MarkupJsx.Proofs.Text.Lowercase

namespace MarkupJsx.Component

open Text (isAlphanumeric isLetter isDigit toAsciiUpper)

variable {c : Char} {s w : Text} {stem rest : WideText} {words : List Text}

/-! ## Letters and digits -/

theorem toAsciiUpper_of_isLetter (h : isLetter c = true) : 'A' ≤ toAsciiUpper c ∧ toAsciiUpper c ≤ 'Z' := by
  simp only [isLetter, Bool.or_eq_true, Bool.and_eq_true, decide_eq_true_eq] at h
  unfold toAsciiUpper
  split
  · rename_i hsmall
    simp only [Bool.and_eq_true, decide_eq_true_eq] at hsmall
    have h1 : 0x61 ≤ c.toNat := hsmall.1
    have h2 : c.toNat ≤ 0x7A := hsmall.2
    have hcode : (Char.ofNat (c.toNat - 32)).toNat = c.toNat - 32 := Text.toNat_ofNat (.inl (by omega))
    constructor
    · show 0x41 ≤ (Char.ofNat (c.toNat - 32)).toNat
      omega
    · show (Char.ofNat (c.toNat - 32)).toNat ≤ 0x5A
      omega
  · rename_i hother
    exact h.resolve_left (by simpa using hother)

theorem toAsciiUpper_of_isDigit (h : isDigit c = true) : toAsciiUpper c = c := by
  simp only [isDigit, Bool.and_eq_true, decide_eq_true_eq] at h
  refine if_neg fun hsmall => ?_
  simp only [Bool.and_eq_true, decide_eq_true_eq] at hsmall
  exact absurd (Char.le_trans hsmall.1 h.2) (by decide)

theorem toAsciiUpper_of_capital (h : 'A' ≤ c ∧ c ≤ 'Z') : toAsciiUpper c = c := by
  refine if_neg fun hsmall => ?_
  simp only [Bool.and_eq_true, decide_eq_true_eq] at hsmall
  exact absurd (Char.le_trans hsmall.1 h.2) (by decide)

theorem isAlphanumeric_of_capital (h : 'A' ≤ c ∧ c ≤ 'Z') : isAlphanumeric c = true := by
  simp [isAlphanumeric, isLetter, h]

theorem isAlphanumeric_toAsciiUpper (h : isAlphanumeric c = true) : isAlphanumeric (toAsciiUpper c) = true := by
  rcases Bool.or_eq_true _ _ ▸ h with hletter | hdigit
  · exact isAlphanumeric_of_capital (toAsciiUpper_of_isLetter hletter)
  · rw [toAsciiUpper_of_isDigit hdigit]
    exact h

/-! ## Words -/

def isWordPart : CodePoint → Bool
  | .char c => isAlphanumeric c
  | .half _ => false

/-- The runs of letters and digits, in order and each as long as it can be. -/
inductive HasWords : WideText → List Text → Prop
  | nil : HasWords [] []
  | skip {c : CodePoint} {rest : WideText} {words : List Text} :
      isWordPart c = false → HasWords rest words → HasWords (c :: rest) words
  | word {w : Text} {rest : WideText} {words : List Text} :
      w ≠ [] → (∀ c ∈ w, isAlphanumeric c = true) → (∀ c ∈ rest.head?, isWordPart c = false) →
      HasWords rest words → HasWords (.ofText w ++ rest) (w :: words)

/-- The letters and digits, in order. -/
def lettersAndDigits (stem : WideText) : Text := (stem.filter isWordPart).filterMap CodePoint.char?

/-- A word with a capital in the place of a small first letter. -/
def capitalized : Text → Text
  | [] => []
  | c :: rest => toAsciiUpper c :: rest

theorem lettersAndDigits_append (hw : ∀ c ∈ w, isAlphanumeric c = true) (rest : WideText) :
    lettersAndDigits (.ofText w ++ rest) = w ++ lettersAndDigits rest := by
  induction w with
  | nil => rfl
  | cons c w ih =>
    obtain ⟨hc, hw⟩ := List.forall_mem_cons.mp hw
    have hpart : isWordPart (.char c) = true := hc
    have ih := ih hw
    simp only [lettersAndDigits, WideText.ofText, List.map_cons, List.cons_append, List.filter_cons, hpart, if_true,
      List.filterMap_cons, CodePoint.char?] at ih ⊢
    rw [ih]

/-- Nothing but the letters and digits is in the words, and all of them are. -/
theorem HasWords.flatten (h : HasWords stem words) : words.flatten = lettersAndDigits stem := by
  induction h with
  | nil => rfl
  | @skip c rest words hc _ ih =>
    have hdrop : lettersAndDigits (c :: rest) = lettersAndDigits rest := by
      simp only [lettersAndDigits, List.filter_cons, hc, Bool.false_eq_true, if_false]
    rw [hdrop, ih]
  | word _ hw _ _ ih => rw [lettersAndDigits_append hw, List.flatten_cons, ih]

/-- Within a word nothing changes up to its end. -/
theorem capitalize_inWord (stem : WideText) :
    ∃ w rest, stem = .ofText w ++ rest ∧ (∀ c ∈ w, isAlphanumeric c = true) ∧ (∀ c ∈ rest.head?, isWordPart c = false) ∧
      capitalize true stem = w ++ capitalize false rest := by
  induction stem with
  | nil => exact ⟨[], [], rfl, nofun, nofun, rfl⟩
  | cons c stem ih =>
    cases hc : isWordPart c with
    | false =>
      refine ⟨[], c :: stem, rfl, nofun, by simpa using hc, ?_⟩
      cases c with
      | half _ => rfl
      | char c =>
        have hc : isAlphanumeric c = false := hc
        simp only [capitalize, hc, Bool.false_eq_true, if_false, List.nil_append]
    | true =>
      cases c with
      | half _ => cases hc
      | char c =>
        have hc : isAlphanumeric c = true := hc
        obtain ⟨w, rest, rfl, hw, hrest, hcap⟩ := ih
        refine ⟨c :: w, rest, rfl, List.forall_mem_cons.mpr ⟨hc, hw⟩, hrest, ?_⟩
        simp only [capitalize, hc, if_true, hcap, List.cons_append]

/-- Every stem has words, and they make up its part of the name. -/
theorem exists_hasWords (stem : WideText) :
    ∃ words, HasWords stem words ∧ capitalize false stem = words.flatMap capitalized := by
  induction hn : stem.length using Nat.strongRecOn generalizing stem with
  | ind n ih =>
    match stem with
    | [] => exact ⟨[], .nil, rfl⟩
    | .half k :: rest =>
      obtain ⟨words, hwords, hcap⟩ := ih rest.length (by simp [← hn]) rest rfl
      exact ⟨words, .skip rfl hwords, hcap⟩
    | .char c :: rest =>
      cases hc : isAlphanumeric c with
      | false =>
        obtain ⟨words, hwords, hcap⟩ := ih rest.length (by simp [← hn]) rest rfl
        refine ⟨words, .skip hc hwords, ?_⟩
        simp only [capitalize, hc, Bool.false_eq_true, if_false, hcap]
      | true =>
        obtain ⟨w, rest', rfl, hw, hrest, hcap⟩ := capitalize_inWord rest
        have hshort : rest'.length < n := by
          rw [← hn, List.length_cons, List.length_append]
          omega
        obtain ⟨words, hwords, hcap'⟩ := ih rest'.length hshort rest' rfl
        refine ⟨(c :: w) :: words, .word (List.cons_ne_nil c w) (List.forall_mem_cons.mpr ⟨hc, hw⟩) hrest hwords, ?_⟩
        simp only [capitalize, hc, if_true, Bool.false_eq_true, if_false, hcap, hcap', List.flatMap_cons, capitalized,
          List.cons_append]

/-! ## Names -/

/-- A capital, and behind it ASCII letters and digits. -/
def IsPascal (s : Text) : Prop :=
  ∃ c rest, s = c :: rest ∧ ('A' ≤ c ∧ c ≤ 'Z') ∧
    ∀ x ∈ rest, ('A' ≤ x ∧ x ≤ 'Z') ∨ ('a' ≤ x ∧ x ≤ 'z') ∨ ('0' ≤ x ∧ x ≤ '9')

theorem isAlphanumeric_iff (c : Char) :
    isAlphanumeric c = true ↔ ('A' ≤ c ∧ c ≤ 'Z') ∨ ('a' ≤ c ∧ c ≤ 'z') ∨ ('0' ≤ c ∧ c ≤ '9') := by
  simp only [isAlphanumeric, isLetter, isDigit, Bool.or_eq_true, Bool.and_eq_true, decide_eq_true_eq]
  rw [or_comm (a := 'a' ≤ c ∧ c ≤ 'z')]
  simp only [or_assoc]

theorem isPascal_cons {rest : Text} (hc : 'A' ≤ c ∧ c ≤ 'Z') (hrest : ∀ x ∈ rest, isAlphanumeric x = true) :
    IsPascal (c :: rest) := ⟨c, rest, rfl, hc, fun x hx => (isAlphanumeric_iff x).mp (hrest x hx)⟩

theorem IsPascal.isPlainName (h : IsPascal s) : IsPlainName s := by
  obtain ⟨c, rest, rfl, hc, hrest⟩ := h
  refine ⟨c, rest, rfl, hc, fun x hx => ?_⟩
  rcases hrest x hx with h | h | h
  · exact .inl h
  · exact .inr (.inl h)
  · exact .inr (.inr (.inl h))

theorem IsPascal.alphanumeric (h : IsPascal s) : ∀ x ∈ s, isAlphanumeric x = true := by
  obtain ⟨c, rest, rfl, hc, hrest⟩ := h
  exact List.forall_mem_cons.mpr ⟨isAlphanumeric_of_capital hc, fun x hx => (isAlphanumeric_iff x).mpr (hrest x hx)⟩

/-- What is put in front of the words. -/
def front (words : Text) : Text := if words.head?.any isLetter then [] else "Page".toList

theorem nameOfStem_eq (stem : WideText) : nameOfStem stem = front (capitalize false stem) ++ capitalize false stem := by
  unfold nameOfStem front
  cases capitalize false stem with
  | nil => rfl
  | cons c words =>
    cases hc : isLetter c <;> simp only [List.head?_cons, Option.any_some, hc, Bool.false_eq_true, if_false, if_true,
      List.nil_append]

theorem alphanumeric_capitalize (inWord : Bool) (stem : WideText) :
    ∀ c ∈ capitalize inWord stem, isAlphanumeric c = true := by
  induction stem generalizing inWord with
  | nil => exact nofun
  | cons c stem ih =>
    cases c with
    | half _ => exact ih false
    | char c =>
      unfold capitalize
      split
      · rename_i hc
        refine List.forall_mem_cons.mpr ⟨?_, ih true⟩
        cases inWord with
        | false => exact isAlphanumeric_toAsciiUpper hc
        | true => exact hc
      · exact ih false

/-- The words do not begin with a small letter. -/
theorem capital_of_capitalize {rest : Text} (h : capitalize false stem = c :: rest) (hc : isLetter c = true) :
    'A' ≤ c ∧ c ≤ 'Z' := by
  induction stem with
  | nil => cases h
  | cons d stem ih =>
    cases d with
    | half _ => exact ih h
    | char d =>
      unfold capitalize at h
      split at h
      · rename_i hd
        obtain ⟨rfl, -⟩ := List.cons.inj h
        rcases Bool.or_eq_true _ _ ▸ hd with hletter | hdigit
        · exact toAsciiUpper_of_isLetter hletter
        · have hsame := toAsciiUpper_of_isDigit hdigit
          exact toAsciiUpper_of_isLetter (hsame ▸ hc)
      · exact ih h

theorem isPascal_nameOfStem (stem : WideText) : IsPascal (nameOfStem stem) := by
  have hwords := alphanumeric_capitalize false stem
  rw [nameOfStem_eq, front]
  split
  · rename_i hletter
    rw [List.nil_append]
    cases hcap : capitalize false stem with
    | nil => rw [hcap] at hletter; cases hletter
    | cons c rest =>
      rw [hcap] at hletter hwords
      exact isPascal_cons (capital_of_capitalize hcap hletter) fun x hx => hwords x (List.mem_cons_of_mem c hx)
  · refine isPascal_cons (c := 'P') (by decide) fun x hx => ?_
    rcases List.mem_append.mp (show x ∈ "age".toList ++ capitalize false stem from hx) with hx | hx
    · exact List.all_eq_true.mp (by decide +kernel : ("age".toList.all isAlphanumeric) = true) x hx
    · exact hwords x hx

/-! ## A name as a path -/

theorem capitalize_ofText (h : ∀ c ∈ s, isAlphanumeric c = true) : capitalize true (.ofText s) = s := by
  induction s with
  | nil => rfl
  | cons c s ih =>
    obtain ⟨hc, hs⟩ := List.forall_mem_cons.mp h
    have ih := ih hs
    simp only [WideText.ofText] at ih
    simp only [WideText.ofText, List.map_cons, capitalize, hc, if_true, ih]

theorem nameOfStem_ofText (h : IsPascal s) : nameOfStem (.ofText s) = s := by
  have hall := h.alphanumeric
  obtain ⟨c, rest, rfl, hc, -⟩ := h
  obtain ⟨hletters, hrest⟩ := List.forall_mem_cons.mp hall
  have hcap : capitalize false (.ofText (c :: rest)) = c :: rest := by
    have hrest := capitalize_ofText hrest
    simp only [WideText.ofText] at hrest
    simp only [WideText.ofText, List.map_cons, capitalize, hletters, if_true, Bool.false_eq_true, if_false,
      toAsciiUpper_of_capital hc, hrest]
  have hletter : isLetter c = true := by simp [isLetter, hc]
  simp only [nameOfStem_eq, hcap, front, List.head?_cons, Option.any_some, hletter, if_true, List.nil_append]

/-- Letters and digits are one part of a path, with no suffix. -/
theorem stem_ofText (hne : s ≠ []) (h : ∀ c ∈ s, isAlphanumeric c = true) : (Path.ofText s).stem = .ofText s := by
  have hother {x : Char} (hx : isAlphanumeric x = false) : CodePoint.char x ∉ WideText.ofText s := by
    intro hmem
    obtain ⟨c, hc, heq⟩ := List.mem_map.mp hmem
    cases heq
    rw [h x hc] at hx
    cases hx
  have hwide : WideText.ofText s ≠ [] := by simpa [WideText.ofText] using hne
  have hdot : WideText.ofText s ≠ Path.dot := fun heq => hother (x := '.') (by decide) (by rw [heq]; decide)
  have hparts : (Path.ofText s).parts = [.ofText s] := by
    simp only [Path.ofText, Path.ofWide, Text.split_of_not_mem (hother (by decide : isAlphanumeric '/' = false))]
    simp [hwide, hdot]
  have hnodot : (WideText.ofText s).reverse.dropWhile (· != CodePoint.char '.') = [] := by
    refine List.dropWhile_eq_nil_iff.mpr fun c hc => ?_
    rw [bne_iff_ne]
    rintro rfl
    exact hother (by decide : isAlphanumeric '.' = false) (List.mem_reverse.mp hc)
  have hname : (Path.ofText s).name = .ofText s := by rw [Path.name, hparts]; rfl
  rw [Path.stem, hname, Path.stemOf, hnodot]

theorem nameOfPath_ofText (h : IsPascal s) : nameOfPath (Path.ofText s) = s := by
  have hne : s ≠ [] := by
    obtain ⟨c, rest, rfl, -⟩ := h
    exact List.cons_ne_nil c rest
  rw [nameOfPath, stem_ofText hne h.alphanumeric, nameOfStem_ofText h]

/-! ## Names that were taken -/

theorem acceptsName_of_isPlainName (h : IsPlainName s) : acceptsName s = true := acceptsName_iff.mpr (.inl h)

theorem componentName_derived (source : Text) :
    Command.componentName (some []) source = .ok (some (nameOfPath (Path.ofText source))) := by
  have h := acceptsName_of_isPlainName (isPascal_nameOfStem (Path.ofText source).stem).isPlainName
  simp only [Command.componentName, List.isEmpty_nil, if_true, checkName, nameOfPath, h]
  rfl

theorem checkName_eq_ok_iff {t : Text} : checkName s = .ok t ↔ acceptsName s = true ∧ t = s := by
  unfold checkName
  split
  · rename_i haccepts
    simp [haccepts, eq_comm]
  · rename_i hrefused
    simp [hrefused]

theorem acceptsName_of_componentName {requested : Option Text} {source name : Text}
    (h : Command.componentName requested source = .ok (some name)) : acceptsName name = true := by
  cases requested with
  | none => cases h
  | some requested =>
    simp only [Command.componentName] at h
    cases hname : checkName (if requested.isEmpty then nameOfPath (Path.ofText source) else requested) with
    | error e => rw [hname] at h; cases h
    | ok t =>
      rw [hname] at h
      cases h
      obtain ⟨haccepts, rfl⟩ := checkName_eq_ok_iff.mp hname
      exact haccepts

theorem acceptsName_of_isListed {j : Manifest.Job} {name : Text} (h : j.IsListed) (hname : j.component = some name) :
    acceptsName name = true := acceptsName_of_isIdentifier (Manifest.isNamed_of_isListed h name hname)

theorem output_ne_of_acceptsName {component : Option Text} (h : ∀ name, component = some name → acceptsName name = true)
    (markup : Text) (e : InvalidName) : output markup component ≠ .error (.componentName e) := by
  intro houtput
  unfold output at houtput
  cases hparse : Markup.parse markup with
  | error _ => simp only [hparse] at houtput; cases houtput
  | ok roots =>
    cases component with
    | none => simp only [hparse] at houtput; cases houtput
    | some name => simp only [hparse, render_of_acceptsName (h name rfl)] at houtput; cases houtput

end MarkupJsx.Component

namespace MarkupJsx.Command

open Component (InvalidName)

/-- A command ends because the name of a component is refused while a module is rendered. -/
def FailsForName (r : Ending) : Prop := ∃ e : InvalidName, r = .failed (.conversion (.componentName e))

theorem ending_deliver (output : Option (Option Text)) (force : Bool) (t : Text) (w : World) :
    ¬FailsForName ((deliver output force t : StateM World Outcome).run w).1.ending := by
  rintro ⟨e, h⟩
  cases output with
  | none => cases h
  | some target =>
    cases target with
    | none => cases h
    | some target =>
      simp only [deliver, World.run_bind, World.run_isThere] at h
      rcases hthere : w.tree.isThere (Path.ofText target) with _ | there <;> simp only [hthere] at h
      · cases h
      · split at h
        · cases h
        · rw [World.run_bind] at h
          split at h <;> cases h

theorem ending_runConvert (o : ConvertOptions) (w : World) :
    ¬FailsForName ((runConvert o : StateM World Outcome).run w).1.ending := by
  rintro ⟨e, h⟩
  simp only [runConvert, World.run_bind, World.run_readMarkup] at h
  rcases hmarkup : w.markup (.ofText o.input) with (_ | _ | _) | markup <;> simp only [hmarkup] at h
  · cases h
  · cases h
  · cases h
  · cases hname : componentName o.component o.input with
    | error _ => simp only [hname] at h; cases h
    | ok component =>
      have haccepted : ∀ name, component = some name → Component.acceptsName name = true := by
        rintro name rfl
        exact Component.acceptsName_of_componentName hname
      cases hout : MarkupJsx.output markup component with
      | ok t =>
        simp only [hname, hout] at h
        exact ending_deliver o.output o.force t w ⟨e, h⟩
      | error cause =>
        simp only [hname, hout] at h
        cases h
        exact Component.output_ne_of_acceptsName haccepted markup e hout

theorem ending_runBatch (homes : Manifest.Homes) (o : BatchOptions) (w : World) :
    ¬FailsForName ((runBatch homes o : StateM World Outcome).run w).1.ending := by
  rintro ⟨e, h⟩
  cases ho : o.manifest with
  | none => simp only [runBatch, ho] at h; cases h
  | some source =>
    cases hjobs : jobsAt homes w.tree (Path.ofText source) with
    | ok jobs =>
      rw [run_runBatch ho hjobs] at h
      exact stops_of_report (named_of_jobsAt hjobs) h
    | error cause =>
      simp only [runBatch, ho, World.run_bind, World.run_isThere] at h
      rcases hthere : w.tree.isThere (Path.ofText source) with _ | _ | _ <;> simp only [hthere] at h
      · cases h
      · cases h
      · simp only [World.run_bind, run_load, hjobs] at h
        cases cause <;> cases h

/-- However a run ends, it is not for a name that was taken before. -/
theorem ending_run (homes : Manifest.Homes) (args : List Text) (w : World) :
    ¬FailsForName ((run homes args : StateM World Outcome).run w).1.ending := by
  unfold run
  cases Order.ofTexts args with
  | error halt =>
    rintro ⟨e, h⟩
    cases hstop : halt.stop <;> simp only [Halt.outcome, hstop] at h <;> cases h
  | ok order =>
    cases order with
    | convert o => exact ending_runConvert o w
    | batch o => exact ending_runBatch homes o w
    | overview =>
      rintro ⟨e, h⟩
      cases h

end MarkupJsx.Command

namespace MarkupJsx.Component

open Manifest (Homes Job Step)

/-- The name of a path is a capital with letters and digits behind it, and made of the words of
    the stem. It is its own name, it is what a command takes when none is asked for, and no
    name that was taken from a command or a manifest is refused further in. -/
theorem derived_names (path : WideText) :
    IsPascal (nameOfPath (Path.ofWide path)) ∧
      (∃ words pre, HasWords (Path.ofWide path).stem words ∧ words.flatten = lettersAndDigits (Path.ofWide path).stem ∧
        (pre = [] ∨ pre = "Page".toList) ∧ nameOfPath (Path.ofWide path) = pre ++ words.flatMap capitalized) ∧
      nameOfPath (Path.ofText (nameOfPath (Path.ofWide path))) = nameOfPath (Path.ofWide path) ∧
      (∀ source : Text, Command.componentName (some []) source = .ok (some (nameOfPath (Path.ofText source)))) ∧
      (∀ (requested : Option Text) (source name : Text) (roots : Markup.Forest),
        Command.componentName requested source = .ok (some name) → ∃ t, render name roots = .ok t) ∧
      (∀ (place : List Step) (v : Yaml.Value) (j : Job) (name : Text) (roots : Markup.Forest),
        Job.ofValue place v = .ok j → j.component = some name → ∃ t, render name roots = .ok t) ∧
      ∀ (homes : Homes) (args : List Text) (w : World),
        ¬Command.FailsForName ((Command.run homes args : StateM World Command.Outcome).run w).1.ending := by
  have hpascal : IsPascal (nameOfPath (Path.ofWide path)) := isPascal_nameOfStem _
  refine ⟨hpascal, ?_, nameOfPath_ofText hpascal, componentName_derived, ?_, ?_, Command.ending_run⟩
  · obtain ⟨words, hwords, hcap⟩ := exists_hasWords (Path.ofWide path).stem
    refine ⟨words, front (words.flatMap capitalized), hwords, hwords.flatten, ?_, ?_⟩
    · unfold front
      split
      · exact .inl rfl
      · exact .inr rfl
    · rw [nameOfPath, nameOfStem_eq, hcap]
  · intro requested source name roots h
    exact ⟨_, render_of_acceptsName (acceptsName_of_componentName h) roots⟩
  · intro place v j name roots h hname
    exact ⟨_, render_of_acceptsName (acceptsName_of_isListed (Manifest.isListed_of_ofValue h) hname) roots⟩

/-- A job with a component, in a manifest and read from it. -/
def rowEntry : Yaml.Value :=
  .map (Manifest.jobEntries (.ofText "in".toList) (.ofText "out".toList) (.ofText "Row".toList))

def rowJob : Job := ⟨Path.ofText "in".toList, Path.ofText "out".toList, some "Row".toList⟩

/-- A stem of four words that begins with a digit, a name from a command, and one from a
    manifest. -/
theorem derived_names_digitFirst :
    nameOfPath (Path.ofWide (.ofText "a/2nd draft_page.tar.html".toList)) = "Page2ndDraftPageTar".toList ∧
      IsPascal "Page2ndDraftPageTar".toList ∧
      nameOfPath (Path.ofText "Page2ndDraftPageTar".toList) = "Page2ndDraftPageTar".toList ∧
      (Command.componentName (some "My_Card".toList) "-".toList = .ok (some "My_Card".toList) ∧
        ∃ t, render "My_Card".toList [] = .ok t) ∧
      (∃ j, Job.ofValue [] rowEntry = .ok j ∧ j.component = some "Row".toList) ∧ ∃ t, render "Row".toList [] = .ok t := by
  have hname : nameOfPath (Path.ofWide (.ofText "a/2nd draft_page.tar.html".toList)) = "Page2ndDraftPageTar".toList := by
    decide +kernel
  have hcommand : Command.componentName (some "My_Card".toList) "-".toList = .ok (some "My_Card".toList) := by
    decide +kernel
  have hjob : Job.ofValue [] rowEntry = .ok rowJob := by rfl
  obtain ⟨hpascal, -, hfixed, -, htaken, hlisted, -⟩ := derived_names (.ofText "a/2nd draft_page.tar.html".toList)
  rw [hname] at hpascal hfixed
  exact ⟨hname, hpascal, hfixed, ⟨hcommand, htaken _ _ _ [] hcommand⟩, ⟨rowJob, hjob, rfl⟩,
    hlisted [] rowEntry rowJob _ [] hjob rfl⟩

end MarkupJsx.Component
