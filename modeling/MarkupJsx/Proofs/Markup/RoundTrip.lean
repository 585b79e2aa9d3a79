/-
  MarkupJsx.Proofs.Markup.RoundTrip — reading back what is written for a forest.

  A forest is writable when its names are plain lower case names, its void elements are
  empty and the keys of each element can be told apart. What is written for a writable
  forest is markup that describes its normal form (`parse_forest`): each node does to a
  growth what its normal form would (`Growth.plant`), and the texts that stand next to each
  other come together while they are pending.
-/

import MarkupJsx.Conversion
import MarkupJsx.Proofs.Jsx.Normal
import MarkupJsx.Proofs.Markup.Attributes
import MarkupJsx.Proofs.Markup.StartTag
import MarkupJsx.Proofs.Text.Lowercase

namespace MarkupJsx.Markup

open Text (isBlank isLetter isDigit isAlphanumeric Trimmed)

/-! ## Writable forests -/

/-- A small letter, then small letters, digits and hyphens. -/
def IsLowerName (name : Text) : Prop :=
  ∃ c tail, name = c :: tail ∧ ('a' ≤ c ∧ c ≤ 'z') ∧ ∀ d ∈ tail, ('a' ≤ d ∧ d ≤ 'z') ∨ isDigit d = true ∨ d = '-'

/-- Nothing in the key ends it. -/
def IsWritableKey (key : Text) : Prop := key ≠ [] ∧ ∀ c ∈ key, isBlank c = false ∧ c ≠ '/' ∧ c ≠ '>' ∧ c ≠ '='

instance : DecidablePred IsWritableKey := fun key =>
  decidable_of_iff (key ≠ [] ∧ key.all fun c => decide (isBlank c = false ∧ c ≠ '/' ∧ c ≠ '>' ∧ c ≠ '='))
    (by simp only [IsWritableKey, List.all_eq_true, decide_eq_true_eq])

def Writable : Node → Prop
  | .text _ => True
  | .element name as children =>
    IsLowerName name ∧ RawElement.ofName? name = none ∧ (voidElements.contains name = true → children = []) ∧
      (∀ a ∈ as, IsWritableKey a.key) ∧ (as.map (Jsx.attrName ·.key)).Nodup

theorem isTagName_of_isLowerName {name : Text} (h : IsLowerName name) : IsTagName name := by
  obtain ⟨c, tail, rfl, ⟨h1, h2⟩, htail⟩ := h
  refine ⟨c, tail, rfl, by simp [isLetter, h1, h2], fun d hd => ?_⟩
  rcases htail d hd with ⟨h1, h2⟩ | h | rfl
  · simp [isAlphanumeric, isLetter, h1, h2]
  · simp [isAlphanumeric, h]
  · rfl

theorem lower_of_isLowerName {name : Text} (h : IsLowerName name) : name.lower = name := by
  obtain ⟨c, tail, rfl, hc, htail⟩ := h
  have small : ∀ d : Char, 'a' ≤ d ∧ d ≤ 'z' → d.toNat < 0x80 ∧ ¬ ('A' ≤ d ∧ d ≤ 'Z') := by
    intro d ⟨h1, h2⟩
    have h1' : 0x61 ≤ d.toNat := h1
    have h2' : d.toNat ≤ 0x7A := h2
    refine ⟨by omega, fun ⟨_, h3⟩ => ?_⟩
    have h3' : d.toNat ≤ 0x5A := h3
    omega
  have digit : ∀ d : Char, isDigit d = true → d.toNat < 0x80 ∧ ¬ ('A' ≤ d ∧ d ≤ 'Z') := by
    intro d hd
    simp only [isDigit, Bool.and_eq_true, decide_eq_true_eq] at hd
    have h2' : d.toNat ≤ 0x39 := hd.2
    refine ⟨by omega, fun ⟨h3, _⟩ => ?_⟩
    have h3' : 0x41 ≤ d.toNat := h3
    omega
  refine Text.lower_ascii fun d hd => ?_
  rcases List.mem_cons.mp hd with rfl | hd
  · exact small d hc
  · rcases htail d hd with hd | hd | rfl
    · exact small d hd
    · exact digit d hd
    · decide

/-! ## Attributes -/

/-- The attributes as the writer writes them. -/
def writtenAttrs (as : List Attr) : List WrittenAttr :=
  as.filterMap fun a => a.value.map fun v => ⟨[' '], Jsx.attrName a.key, .quoted '"' (Jsx.escape v)⟩

theorem attrsText_writtenAttrs (as : List Attr) : attrsText (writtenAttrs as) = Jsx.attrs as := by
  induction as with
  | nil => rfl
  | cons a as ih =>
    obtain ⟨key, value⟩ := a
    unfold attrsText writtenAttrs Jsx.attrs at ih
    cases value with
    | none => simpa [attrsText, writtenAttrs, Jsx.attrs, Jsx.attr?] using ih
    | some v =>
      simpa [attrsText, writtenAttrs, Jsx.attrs, Jsx.attr?, WrittenAttr.text, WrittenValue.text] using ih

theorem meant_writtenAttrs (as : List Attr) : (writtenAttrs as).map (·.meant) = Jsx.normAttrs as := by
  induction as with
  | nil => rfl
  | cons a as ih =>
    obtain ⟨key, value⟩ := a
    unfold writtenAttrs Jsx.normAttrs at ih
    cases value with
    | none => simpa [writtenAttrs, Jsx.normAttrs] using ih
    | some v =>
      simpa [writtenAttrs, Jsx.normAttrs, WrittenAttr.meant, WrittenValue.raw?, Jsx.unescape_escape] using ih

theorem isWritableKey_attrName {key : Text} (h : IsWritableKey key) : IsWritableKey (Jsx.attrName key) := by
  have hrenamed : ∀ r ∈ Jsx.renames, IsWritableKey r.2 := by decide
  rcases Jsx.attrName_cases key with ⟨r, hr, heq⟩ | heq
  · rw [heq]; exact hrenamed r hr
  · rwa [heq]

theorem legible_writtenAttrs {as : List Attr} (h : ∀ a ∈ as, IsWritableKey a.key) : ∀ a ∈ writtenAttrs as, a.Legible := by
  intro a ha
  obtain ⟨b, hb, hba⟩ := List.mem_filterMap.mp ha
  obtain ⟨v, -, rfl⟩ := Option.map_eq_some_iff.mp hba
  obtain ⟨hne, hchars⟩ := isWritableKey_attrName (h b hb)
  have hgap : ∀ c ∈ [' '], c ∈ tagSpaces := Text.forall_mem_of_all (by decide)
  refine ⟨⟨by simp, hgap⟩, ⟨hne, fun c hc => ?_⟩, rfl, (Jsx.not_mem_escape v).2.2, accounted_escape v⟩
  obtain ⟨h1, h2, h3, h4⟩ := hchars c hc
  simp [Tag.isKeyChar, Tag.startsKey, h1, h2, h3, h4]

theorem keys_normAttrs (as : List Attr) : ((Jsx.normAttrs as).map (·.key)).Sublist (as.map (Jsx.attrName ·.key)) := by
  induction as with
  | nil => exact .slnil
  | cons a as ih =>
    obtain ⟨key, value⟩ := a
    cases value with
    | none => exact ih.cons _
    | some v => exact ih.cons_cons _

/-! ## Reading back -/

namespace Growth

/-- What a node does to a growth: a text adds to what is pending, an element is one more
    sibling, in normal form. -/
def plant (g : Growth) : Node → Growth
  | .text t => g.write t.trim
  | .element name as children =>
    { g.settle with siblings := g.settle.siblings ++ [.element name (Jsx.normAttrs as) (Jsx.norm children)] }

def plantAll (g : Growth) (f : Forest) : Growth := f.foldl plant g

variable {final : Bool} {g : Growth} {rest : Text}

@[simp] theorem plant_owed (g : Growth) (n : Node) : (g.plant n).owed = g.owed := by
  cases n with
  | text t => rfl
  | element name as children => exact settle_owed g

@[simp] theorem plantAll_owed (g : Growth) (f : Forest) : (g.plantAll f).owed = g.owed := by
  induction f generalizing g with
  | nil => rfl
  | cons n f ih => exact (ih (g.plant n)).trans (plant_owed g n)

theorem trimmed_plant (h : Trimmed g.pending) (n : Node) : Trimmed (g.plant n).pending := by
  cases n with
  | text t => exact h.append (Text.trimmed_trim t)
  | element name as children =>
    have hnil : (g.plant (.element name as children)).pending = [] := settle_pending g
    rw [hnil]
    exact Text.trimmed_nil

/-- A trimmed text does not shrink. -/
theorem shrink_trimmed {t : Text} (h : Trimmed t) (hne : t ≠ []) : shrink t = t := by
  obtain ⟨c, t, rfl⟩ := List.exists_cons_of_ne_nil hne
  have hc : isBlank c = false := Text.ends_cons.mp h.1
  have hspace : isSpace c = false := by
    cases hs : isSpace c with
    | false => rfl
    | true => rw [isBlank_of_isSpace hs] at hc; cases hc
  rw [shrink, List.all_cons, hspace]
  rfl

theorem settle_trimmed (h : Trimmed g.pending) :
    g.settle = { g with siblings := g.siblings ++ Jsx.pushText g.pending [], pending := [] } := by
  obtain ⟨enclosing, siblings, pending, owed⟩ := g
  by_cases hp : pending = []
  · subst hp
    rw [settle_of_nil rfl]
    simp
  · have hempty : ¬ pending.isEmpty = true := by simpa using hp
    have hshrink : shrink pending = pending := shrink_trimmed h hp
    simp only [settle, hempty, if_false, hshrink, ite_self, Jsx.pushText, hp]
    rfl

/-- What is planted comes out in normal form. -/
theorem settle_plantAll (h : Trimmed g.pending) (f : Forest) :
    (g.plantAll f).settle = { g with siblings := g.siblings ++ Jsx.pushText g.pending (Jsx.norm f), pending := [] } := by
  induction f generalizing g with
  | nil => exact settle_trimmed h
  | cons n f ih =>
    have hplant := ih (trimmed_plant h n)
    have hcons : g.plantAll (n :: f) = (g.plant n).plantAll f := rfl
    rw [hcons, hplant]
    cases n with
    | text t =>
      -- what was pending and this text meet the first text of the rest together
      simp only [plant, write_enclosing, write_siblings, write_pending, write_owed, Jsx.norm, Jsx.normNode,
        Jsx.pushText_pushText]
    | element name as children =>
      simp only [plant, settle_trimmed h, Jsx.norm, Jsx.normNode, Jsx.pushText_nil, List.append_assoc, List.singleton_append]
      rw [Jsx.pushText_element g.pending]

/-- An end tag closes the innermost element when it has its name. -/
theorem close_innermost {name : Text} {attrs : List Attr} {before : Forest} {outer : List OpenElement}
    (h : g.enclosing = ⟨name, attrs, before⟩ :: outer) : g.close name = g.settle.leave := by
  have hopen : g.settle.isOpen name = true := by simp [isOpen, h]
  simp only [close, hopen, if_true, settle_enclosing, h, leaveThrough]

/-! ## Tags -/

section

variable {name : Text} {as : List Attr} {children : Forest}

theorem read_opener (h : Writable (.element name as children)) (selfClosing : Bool) :
    g.read final ('<' :: name ++ Jsx.attrs as ++ tagEnd selfClosing ++ rest) =
      (g.startElement name (Jsx.normAttrs as) selfClosing).read final rest := by
  obtain ⟨hname, hraw, -, hkeys, hnodup⟩ := h
  have hlower := lower_of_isLowerName hname
  have hread : g.read final ('<' :: (name ++ (attrsText (writtenAttrs as) ++ (tagEnd selfClosing ++ rest)))) = _ :=
    read_startTag (isTagName_of_isLowerName hname) (by rw [hlower]; exact hraw) (legible_writtenAttrs hkeys) selfClosing rest
  have hcollapse : Attr.collapse ((writtenAttrs as).map (·.meant)) = Jsx.normAttrs as := by
    rw [meant_writtenAttrs]
    exact Attr.collapse_of_nodup (List.Nodup.sublist (keys_normAttrs as) hnodup)
  rw [hlower, hcollapse, attrsText_writtenAttrs] at hread
  simpa using hread

theorem read_closer (h : Writable (.element name as children)) :
    g.read final ('<' :: '/' :: name ++ ['>'] ++ rest) = (g.step (.endTag name)).read final rest := by
  have hread : g.read final ('<' :: '/' :: (name ++ '>' :: rest)) = (g.step (.endTag name.lower)).read final rest :=
    read_endTag (isTagName_of_isLowerName h.1)
  rw [lower_of_isLowerName h.1] at hread
  simpa using hread

/-- A void element is closed as it is opened; if an end tag is written for it, that pays
    for the one that its start tag left owed. -/
theorem read_void (h : Writable (.element name as [])) (hv : voidElements.contains name = true) :
    g.read final (Jsx.node (.element name as []) ++ rest) = (g.plant (.element name as [])).read final rest := by
  cases hself : Jsx.voidElements.contains name with
  | true =>
    have hshape : Jsx.node (.element name as []) ++ rest = '<' :: name ++ Jsx.attrs as ++ tagEnd true ++ rest := by
      simp only [Jsx.node, List.isEmpty_nil, hself, Bool.and_self, if_true]
      rfl
    rw [hshape, read_opener h true, startElement_closed]
    rfl
  | false =>
    have hshape : Jsx.node (.element name as []) ++ rest =
        '<' :: name ++ Jsx.attrs as ++ tagEnd false ++ ('<' :: '/' :: name ++ ['>'] ++ rest) := by
      have hnot : name ∉ Jsx.voidElements := by simpa using hself
      simp [Jsx.node, hnot, tagEnd, Jsx.forest]
    have hpaid : ∀ g' : Growth, g'.owed = name :: g.owed →
        g'.step (.endTag name) = { g' with owed := g.owed } := by
      intro g' ho
      simp only [step, ho, List.contains_cons, beq_self_eq_true, Bool.true_or, if_true, List.erase_cons_head]
    rw [hshape, read_opener h false, startElement_void hv, read_closer h, hpaid _ rfl, plant, Jsx.norm, ← settle_owed g]

/-- Between its tags an element takes what is written for its children, and then closes
    around their normal form. -/
theorem read_open (h : Writable (.element name as children)) (hv : voidElements.contains name = false)
    (howed : g.OwesVoids)
    (hchildren : ∀ {g : Growth} {rest : Text}, g.OwesVoids →
      g.read final (Jsx.forest children ++ rest) = (g.plantAll children).read final rest) :
    g.read final (Jsx.node (.element name as children) ++ rest) = (g.plant (.element name as children)).read final rest := by
  have hshape : Jsx.node (.element name as children) ++ rest =
      '<' :: name ++ Jsx.attrs as ++ tagEnd false ++ (Jsx.forest children ++ ('<' :: '/' :: name ++ ['>'] ++ rest)) := by
    simp [Jsx.node_open hv, tagEnd]
  have hpending : (g.settle.enter name (Jsx.normAttrs as)).pending = [] := settle_pending g
  have hinside : Trimmed (g.settle.enter name (Jsx.normAttrs as)).pending := by rw [hpending]; exact Text.trimmed_nil
  have howed' : (g.settle.enter name (Jsx.normAttrs as)).OwesVoids := owesVoids_congr (settle_owed g) howed
  have hsettle := settle_plantAll hinside children
  have henclosing : ((g.settle.enter name (Jsx.normAttrs as)).plantAll children).enclosing =
      ⟨name, Jsx.normAttrs as, g.settle.siblings⟩ :: g.settle.enclosing := by
    rw [← settle_enclosing, hsettle]
    rfl
  have hclose : ((g.settle.enter name (Jsx.normAttrs as)).plantAll children).close name =
      g.plant (.element name as children) := by
    rw [close_innermost henclosing, hsettle, hpending, Jsx.pushText_nil]
    simp [enter, leave, plant]
  have hstep := step_endTag (owesVoids_congr (plantAll_owed _ children) howed') hv
  rw [hshape, read_opener h false, startElement_open hv, hchildren howed', read_closer h, hstep, hclose]

end

/-! ## Forests -/

mutual

theorem read_node : ∀ (n : Node) {final : Bool} {g : Growth} {rest : Text}, Every Writable [n] → g.OwesVoids →
    g.read final (Jsx.node n ++ rest) = (g.plant n).read final rest
  | .text t, _, g, rest, _, _ => by
    have hspells : Spells (fun _ => False) (Jsx.escape t.trim) t.trim := spells_escape _
    rw [Jsx.node]
    exact read_spelled (fun _ h => h.elim) hspells (Jsx.not_mem_escape _).1
  | .element name as children, _, g, rest, h, howed => by
    obtain ⟨hw, hc⟩ := every_element.mp h
    cases hv : voidElements.contains name with
    | true =>
      obtain rfl : children = [] := hw.2.2.1 hv
      exact read_void hw hv
    | false => exact read_open hw hv howed fun howed' => read_forest children hc howed'

/-- What is written for a forest is read as the forest in normal form. -/
theorem read_forest : ∀ (f : List Node) {final : Bool} {g : Growth} {rest : Text}, Every Writable f → g.OwesVoids →
    g.read final (Jsx.forest f ++ rest) = (g.plantAll f).read final rest
  | [], _, _, _, _, _ => rfl
  | n :: f, _, g, rest, h, howed => by
    obtain ⟨hn, hf⟩ := every_cons.mp h
    have hnext : (g.plant n).OwesVoids := owesVoids_congr (plant_owed g n) howed
    rw [Jsx.forest, List.append_assoc, read_node n hn howed, read_forest f hf hnext]
    rfl

end

end Growth

theorem parse_forest {f : Forest} (h : Every Writable f) : parse (Jsx.forest f) = .ok (Jsx.norm f) := by
  have hread : Growth.start.read false (Jsx.forest f ++ []) = (Growth.start.plantAll f).read false [] :=
    Growth.read_forest f h fun _ hn => (by cases hn)
  have hsettle := Growth.settle_plantAll (g := .start) Text.trimmed_nil f
  have hfinish : (Growth.start.plantAll f).finish = Jsx.norm f := by
    have henclosing : (Growth.start.plantAll f).settle.enclosing = [] := by rw [hsettle]; rfl
    rw [Growth.finish, hsettle]
    exact Jsx.pushText_nil _
  rw [List.append_nil] at hread
  rw [parse_eq_read, hread, Growth.read_nil]
  exact congrArg Except.ok hfinish

theorem isEmptyIfVoid_of_writable {f : Forest} (h : Every Writable f) : Every IsEmptyIfVoid f := by
  intro n hn
  have hw := h n hn
  cases n with
  | text t => trivial
  | element name as children => exact hw.2.2.1

/-- What is written for a writable forest describes its normal form. So two writable forests
    with the same JSX have the same normal form, and converting JSX again changes nothing. -/
theorem writer_round_trip {f : Forest} (h : Every Writable f) :
    parse (Jsx.forest f) = .ok (Jsx.norm f) ∧
      (∀ f', Every Writable f' → Jsx.forest f' = Jsx.forest f → Jsx.norm f' = Jsx.norm f) ∧
      convert (Jsx.forest f) = .ok (Jsx.forest f) := by
  refine ⟨parse_forest h, fun f' h' heq => ?_, ?_⟩
  · have hparse := parse_forest h'
    rw [heq, parse_forest h] at hparse
    exact (Except.ok.inj hparse).symm
  · rw [convert, parse_forest h]
    exact congrArg Except.ok (Jsx.forest_norm f (isEmptyIfVoid_of_writable h))

/-- A text in two pieces, an element with a key that is renamed and one without a value, and
    void elements of both ways to write them. -/
def mixedForest : Forest :=
  [.text [' ', 'a'], .text ['<', '\n'],
    .element ['h', '1'] [⟨"class".toList, some ['"', '&']⟩, ⟨['x'], none⟩]
      [.element ['b', 'r'] [] [], .text [' '], .element ['c', 'o', 'l'] [] []]]

theorem writer_round_trip_mixedForest : Every Writable mixedForest ∧
    parse (Jsx.forest mixedForest) = .ok [.text ['a', '<'],
      .element ['h', '1'] [⟨"className".toList, some ['"', '&']⟩] [.element ['b', 'r'] [] [], .element ['c', 'o', 'l'] [] []]] := by
  have h : Every Writable mixedForest := by
    intro n hn
    simp only [mixedForest, nodes, withInner, List.cons_append, List.nil_append, List.mem_cons, List.not_mem_nil,
      or_false] at hn
    rcases hn with rfl | rfl | rfl | rfl | rfl | rfl
    · trivial
    · trivial
    · have hname : IsLowerName ['h', '1'] := ⟨_, _, rfl, by decide, Text.forall_mem_of_all (by decide)⟩
      exact ⟨hname, rfl, fun hv => absurd hv (by decide), by decide, by decide⟩
    · have hname : IsLowerName ['b', 'r'] := ⟨_, _, rfl, by decide, Text.forall_mem_of_all (by decide)⟩
      exact ⟨hname, rfl, fun _ => rfl, by decide, by decide⟩
    · trivial
    · have hname : IsLowerName ['c', 'o', 'l'] := ⟨_, _, rfl, by decide, Text.forall_mem_of_all (by decide)⟩
      exact ⟨hname, rfl, fun _ => rfl, by decide, by decide⟩
  exact ⟨h, (writer_round_trip h).1⟩

end MarkupJsx.Markup
