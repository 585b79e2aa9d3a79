/-
  MarkupJsx.Proofs.Markup.TextAhead — a text without references in front of markup.

  Rule. Such a text becomes one text node in front of what the markup describes, and is
  written trimmed and escaped; but what is written is what is heard of it, and where it is
  divided the markup behind it is written as text too (`convert_textAhead`). Nothing that is
  lost is a blank, so the JSX shows it: the text comes out whole, and the markup as markup,
  exactly when no name in it is closed by a semicolon, it is not divided in front of markup,
  and at the end of the document no letter stands alone behind an ampersand
  (`convert_textAhead_iff`).

  Each of the three does harm: `&#` in front of a paragraph makes a text of it, `&x;` loses
  its semicolon and a final `&a` its ampersand (`textAhead_damaged`).
-/

import MarkupJsx.Proofs.Markup.Ampersands
import MarkupJsx.Proofs.Markup.RoundTrip
import MarkupJsx.Proofs.Markup.TreeBuilder

namespace MarkupJsx

open Text (isBlank)

/-! ## What trimming leaves -/

/-- How many characters of a text are not blank. -/
def Text.weight (s : Text) : Nat := s.countP fun c => !isBlank c

theorem Text.weight_dropWhile (s : Text) : weight (s.dropWhile isBlank) = weight s := by
  induction s with
  | nil => rfl
  | cons c s ih =>
    by_cases hc : isBlank c = true
    · rw [List.dropWhile_cons_of_pos hc, ih]
      simp [weight, hc]
    · rw [List.dropWhile_cons_of_neg hc]

theorem Text.weight_trim (s : Text) : weight s.trim = weight s := by
  have hreverse (s : Text) : weight s.reverse = weight s := List.countP_reverse
  rw [trim, hreverse, weight_dropWhile, hreverse, weight_dropWhile]

namespace Markup

open Entity (isNameChar)

variable {t : Text} {f : Forest} {last named final : Bool}

/-! ## What is lost -/

/-- No name behind an ampersand is closed by a semicolon. -/
def ClosesNoName : Text → Prop
  | [] => True
  | c :: s => (c = '&' → startsName s = true → (s.dropWhile isNameChar).head? ≠ some ';') ∧ ClosesNoName s

instance decidableClosesNoName : DecidablePred ClosesNoName
  | [] => isTrue trivial
  | c :: s =>
    have := decidableClosesNoName s
    inferInstanceAs (Decidable ((c = '&' → startsName s = true → (s.dropWhile isNameChar).head? ≠ some ';') ∧ ClosesNoName s))

/-- The text ends with an ampersand and a letter. -/
def endsInLetter : Text → Bool
  | [] => false
  | c :: s => (c == '&' && isLoneLetter s) || endsInLetter s

theorem heard_sublist (last named : Bool) (t : Text) : (heard last named t).Sublist t := by
  induction t generalizing named with
  | nil => exact .slnil
  | cons c s ih =>
    unfold heard
    split
    · rename_i hamp
      subst hamp
      split
      · exact (ih _).cons _
      · exact (ih _).cons_cons _
    · split
      · exact (ih _).cons _
      · exact (ih _).cons_cons _

/-- All is heard exactly when there is nothing to be lost. -/
theorem heard_eq_iff : heard last named t = t ↔
    (named = true → (t.dropWhile isNameChar).head? ≠ some ';') ∧ ClosesNoName t ∧ (last = true → endsInLetter t = false) := by
  induction t generalizing named with
  | nil => simp [heard, ClosesNoName, endsInLetter]
  | cons c s ih =>
    have hshorter (named : Bool) : heard last named s ≠ c :: s := fun h => by
      have hlength := (heard_sublist last named s).length_le
      rw [h, List.length_cons] at hlength
      omega
    by_cases hamp : c = '&'
    · subst hamp
      cases hlone : last && isLoneLetter s with
      | true =>
        obtain ⟨hlast, hletter⟩ := Bool.and_eq_true_iff.mp hlone
        refine ⟨fun h => absurd ?_ (hshorter (startsName s)), fun h => ?_⟩
        · simpa [heard, hlone] using h
        · have hends := h.2.2 hlast
          simp [endsInLetter, hletter] at hends
      | false =>
        have hends : last = true → endsInLetter ('&' :: s) = endsInLetter s := by
          rintro rfl
          simp [endsInLetter, (Bool.true_and _).symm.trans hlone]
        have hfirst : (('&' :: s).dropWhile isNameChar).head? ≠ some ';' := by simp [show isNameChar '&' = false from rfl]
        rw [heard_ampersand hlone, List.cons_inj_right, ih]
        constructor
        · rintro ⟨hname, hcloses, hletter⟩
          exact ⟨fun _ => hfirst, ⟨fun _ => hname, hcloses⟩, fun hl => (hends hl).trans (hletter hl)⟩
        · rintro ⟨-, ⟨hname, hcloses⟩, hletter⟩
          exact ⟨hname rfl, hcloses, fun hl => (hends hl).symm.trans (hletter hl)⟩
    · have hends : endsInLetter (c :: s) = endsInLetter s := by simp [endsInLetter, hamp]
      have hcloses : ClosesNoName (c :: s) ↔ ClosesNoName s := by simp [ClosesNoName, hamp]
      rw [hends, hcloses]
      cases hsemi : named && c == ';' with
      | true =>
        obtain ⟨hnamed, hc⟩ := Bool.and_eq_true_iff.mp hsemi
        obtain rfl : c = ';' := by simpa using hc
        refine ⟨fun h => absurd ?_ (hshorter false), fun h => ?_⟩
        · simpa [heard, hnamed] using h
        · exact absurd (by simp [show isNameChar ';' = false from rfl]) (h.1 hnamed)
      | false =>
        have hheard : heard last named (c :: s) = c :: heard last (named && isNameChar c) s := by
          simp [heard, hamp, hsemi]
        rw [hheard, List.cons_inj_right, ih]
        refine and_congr_left' ?_
        cases hname : isNameChar c with
        | true => simp [hname]
        | false =>
          have hother : named = true → c ≠ ';' := by
            rintro rfl rfl
            cases hsemi
          simpa [hname] using hother

/-- What is lost is not blank, so that it shows. -/
theorem heard_eq_of_weight (h : Text.weight (heard last named t) = Text.weight t) : heard last named t = t := by
  induction t generalizing named with
  | nil => rfl
  | cons c s ih =>
    have hlighter (named : Bool) (hc : isBlank c = false) : Text.weight (heard last named s) ≠ Text.weight (c :: s) := by
      have hle : Text.weight (heard last named s) ≤ Text.weight s := (heard_sublist last named s).countP_le
      have hcons : Text.weight (c :: s) = Text.weight s + 1 := by simp [Text.weight, hc]
      omega
    have hkept (named : Bool) (h : Text.weight (c :: heard last named s) = Text.weight (c :: s)) :
        c :: heard last named s = c :: s := by
      rw [ih]
      simpa [Text.weight, List.countP_cons] using h
    unfold heard at h ⊢
    split
    · rename_i hamp
      subst hamp
      rw [if_pos rfl] at h
      split
      · rename_i hlone
        rw [if_pos hlone] at h
        exact absurd h (hlighter _ rfl)
      · rename_i hlone
        rw [if_neg hlone] at h
        exact hkept _ h
    · rename_i hamp
      rw [if_neg hamp] at h
      split
      · rename_i hsemi
        rw [if_pos hsemi] at h
        obtain rfl : c = ';' := by simpa using (Bool.and_eq_true_iff.mp hsemi).2
        exact absurd h (hlighter _ rfl)
      · rename_i hsemi
        rw [if_neg hsemi] at h
        exact hkept _ h

/-! ## Conversion -/

/-- The forest is empty, or begins with an element. -/
def BeginsWithElement (f : Forest) : Prop := ∀ t, f.head? ≠ some (.text t)

theorem head?_forest (hf : BeginsWithElement f) : ∀ c ∈ (Jsx.forest f).head?, c = '<' := by
  match f, hf with
  | [], _ => exact fun c hc => by cases hc
  | .text t :: _, hf => exact absurd rfl (hf t)
  | .element name as children :: rest, _ =>
    intro c hc
    rw [Jsx.forest, Jsx.node] at hc
    split at hc <;> exact (Option.some.inj hc).symm

theorem isEmpty_forest (hf : BeginsWithElement f) : (Jsx.forest f).isEmpty = f.isEmpty := by
  match f, hf with
  | [], _ => rfl
  | .text t :: _, hf => exact absurd rfl (hf t)
  | .element name as children :: rest, _ =>
    rw [Jsx.forest, Jsx.node]
    split <;> rfl

theorem lt_mem_forest (hf : BeginsWithElement f) (hne : f ≠ []) : '<' ∈ Jsx.forest f := by
  cases hforest : Jsx.forest f with
  | nil =>
    have hempty := isEmpty_forest hf
    rw [hforest] at hempty
    exact absurd (List.isEmpty_iff.mp hempty.symm) hne
  | cons c s =>
    obtain rfl := head?_forest hf c (by rw [hforest]; rfl)
    exact List.mem_cons_self ..

namespace Growth

variable {g : Growth}

/-- In front of an element, or of nothing, what is pending stays a text of its own. -/
theorem settle_plantAll_element (hf : BeginsWithElement f) :
    (g.plantAll f).settle = { g.settle with siblings := g.settle.siblings ++ Jsx.norm f } := by
  have hpending : g.settle.pending = [] := settle_pending g
  have hsettled : (g.plantAll f).settle = (g.settle.plantAll f).settle := by
    match f, hf with
    | [], _ => exact (settle_of_nil hpending).symm
    | .text t :: _, hf => exact absurd rfl (hf t)
    | .element name as children :: rest, _ =>
      have hplant : g.settle.plant (.element name as children) = g.plant (.element name as children) := by
        rw [plant, settle_of_nil hpending]
        rfl
      rw [plantAll, plantAll, List.foldl_cons, List.foldl_cons, hplant]
  have htrimmed : Text.Trimmed g.settle.pending := by rw [hpending]; exact Text.trimmed_nil
  rw [hsettled, settle_plantAll htrimmed, hpending, Jsx.pushText_nil, ← hpending]

theorem forest_settle_write (s : Text) : Jsx.forest (start.write s).settle.siblings = Jsx.escape s.trim := by
  unfold settle
  split
  · rename_i hempty
    obtain rfl : s = [] := by simpa [start] using hempty
    rfl
  · show Jsx.forest [.text (shrink s)] = _
    rw [Jsx.forest_singleton, Jsx.node, trim_shrink]

theorem finish_write_plantAll (hw : Every Writable f) (hf : BeginsWithElement f) (s : Text) :
    Jsx.forest ((start.write s).plantAll f).finish = Jsx.escape s.trim ++ Jsx.forest f := by
  have hsettle := settle_plantAll_element (g := start.write s) hf
  have henclosing : ((start.write s).plantAll f).settle.enclosing = [] := by
    rw [hsettle]
    exact settle_enclosing _
  rw [finish]
  simp only [henclosing, List.foldl_nil]
  rw [hsettle, Jsx.forest_append, forest_settle_write, Jsx.forest_norm f (isEmptyIfVoid_of_writable hw)]

end Growth

theorem convert_of_read (hw : Every Writable f) (hf : BeginsWithElement f) {s markup : Text}
    (h : Growth.start.read false markup = (Growth.start.write s).read final (Jsx.forest f)) :
    convert markup = .ok (Jsx.escape s.trim ++ Jsx.forest f) := by
  have hread : (Growth.start.write s).read final (Jsx.forest f ++ []) = .ok ((Growth.start.write s).plantAll f) := by
    rw [Growth.read_forest f hw fun _ hn => (by cases hn), Growth.read_nil]
  rw [List.append_nil] at hread
  rw [convert, parse_eq_read, h, hread]
  exact congrArg Except.ok (Growth.finish_write_plantAll hw hf s)

/-- A text without references in front of markup is written as what is heard of it, and the
    markup as markup; or the text is divided, and then both are written as one text. -/
theorem convert_textAhead (hlt : '<' ∉ t) (hrefers : RefersNowhere t) (hw : Every Writable f) (hf : BeginsWithElement f) :
    ((divide (Jsx.forest f) t).2 = [] ∧
      convert (t ++ Jsx.forest f) = .ok (Jsx.escape (heard f.isEmpty false t).trim ++ Jsx.forest f)) ∨
    ((divide (Jsx.forest f) t).2 ≠ [] ∧
      convert (t ++ Jsx.forest f) = .ok (Jsx.escape
        (heard false false (divide (Jsx.forest f) t).1 ++ (divide (Jsx.forest f) t).2 ++ Jsx.forest f).trim)) := by
  rcases Growth.read_divided (g := .start) hlt hrefers (head?_forest hf) with ⟨hwhole, final, hread⟩ | ⟨hdivided, hread⟩
  · rw [isEmpty_forest hf] at hread
    exact .inl ⟨hwhole, convert_of_read hw hf hread⟩
  · refine .inr ⟨hdivided, ?_⟩
    rw [← Growth.read_nil true] at hread
    have hconvert := convert_of_read (f := []) (fun _ hn => by cases hn) (fun _ h => by cases h) hread
    rwa [Jsx.forest, List.append_nil] at hconvert

/-- What it takes for a text to come out whole, and the markup behind it as markup. -/
structure StaysWhole (t : Text) (f : Forest) : Prop where
  names : ClosesNoName (divide (Jsx.forest f) t).1
  tags : (divide (Jsx.forest f) t).2 ≠ [] → f = []
  letter : (divide (Jsx.forest f) t).2 = [] → f = [] → endsInLetter t = false

theorem heard_eq_of_escape {s : Text}
    (h : Jsx.escape (heard last named t ++ s).trim = Jsx.escape (t ++ s).trim) : heard last named t = t := by
  have hweight := congrArg Text.weight (Jsx.escape_injective h)
  rw [Text.weight_trim, Text.weight_trim] at hweight
  refine heard_eq_of_weight ?_
  simpa [Text.weight] using hweight

/-- A text without references in front of markup is written trimmed and escaped, and the
    markup as it is, exactly when the text stays whole. -/
theorem convert_textAhead_iff (hlt : '<' ∉ t) (hrefers : RefersNowhere t) (hw : Every Writable f)
    (hf : BeginsWithElement f) :
    convert (t ++ Jsx.forest f) = .ok (Jsx.escape t.trim ++ Jsx.forest f) ↔ StaysWhole t f := by
  have happend := append_divide (Jsx.forest f) t
  rcases convert_textAhead hlt hrefers hw hf with ⟨hwhole, hconvert⟩ | ⟨hdivided, hconvert⟩
  · have hread : (divide (Jsx.forest f) t).1 = t := by rwa [hwhole, List.append_nil] at happend
    have hsame : convert (t ++ Jsx.forest f) = .ok (Jsx.escape t.trim ++ Jsx.forest f) ↔ heard f.isEmpty false t = t := by
      rw [hconvert]
      constructor
      · intro h
        have hescape := List.append_cancel_right (Except.ok.inj h)
        exact heard_eq_of_escape (s := []) (by simpa using hescape)
      · intro h
        rw [h]
    rw [hsame, heard_eq_iff]
    constructor
    · rintro ⟨-, hnames, hletter⟩
      exact ⟨hread.symm ▸ hnames, fun h => absurd hwhole h, fun _ hnil => hletter (by rw [hnil]; rfl)⟩
    · rintro ⟨hnames, -, hletter⟩
      exact ⟨nofun, hread ▸ hnames, fun hempty => hletter hwhole (List.isEmpty_iff.mp hempty)⟩
  · rw [hconvert]
    constructor
    · intro h
      have htext := Except.ok.inj h
      have hnil : f = [] := by
        -- a text that is escaped has no tag in it
        by_contra hne
        have hmem : '<' ∈ Jsx.escape t.trim ++ Jsx.forest f := List.mem_append_right _ (lt_mem_forest hf hne)
        rw [← htext] at hmem
        exact (Jsx.not_mem_escape _).1 hmem
      subst hnil
      rw [Jsx.forest, List.append_nil, List.append_nil, ← Jsx.forest] at htext
      conv_rhs at htext => rw [← happend]
      obtain ⟨-, hnames, -⟩ := heard_eq_iff.mp (heard_eq_of_escape htext)
      exact ⟨hnames, fun _ => rfl, fun hwhole => absurd hwhole hdivided⟩
    · rintro ⟨hnames, htags, -⟩
      obtain rfl := htags hdivided
      have hall : heard false false (divide (Jsx.forest []) t).1 = (divide (Jsx.forest []) t).1 :=
        heard_eq_iff.mpr ⟨nofun, hnames, nofun⟩
      rw [hall, happend, Jsx.forest, List.append_nil, List.append_nil]

/-- `<p>x</p>` -/
def paragraph : Forest := [.element ['p'] [] [.text ['x']]]

theorem writable_paragraph : Every Writable paragraph ∧ BeginsWithElement paragraph := by
  have hname : IsLowerName ['p'] := ⟨_, _, rfl, by decide, Text.forall_mem_of_all (by decide)⟩
  refine ⟨fun n hn => ?_, fun t h => by cases h⟩
  simp only [paragraph, nodes, withInner, List.cons_append, List.nil_append, List.mem_cons, List.not_mem_nil, or_false] at hn
  rcases hn with rfl | rfl
  · exact ⟨hname, rfl, fun hv => absurd hv (by decide), by decide, by decide⟩
  · trivial

/-- An ampersand with a number sign and a semicolon to come, one with a name and one in front
    of the tag. -/
theorem convert_textAhead_quietMark :
    let t := " a &# b; &x &".toList
    '<' ∉ t ∧ RefersNowhere t ∧ Every Writable paragraph ∧ BeginsWithElement paragraph ∧ StaysWhole t paragraph ∧
      convert (t ++ Jsx.forest paragraph) = .ok ("a &amp;# b; &amp;x &amp;<p>x</p>".toList) := by
  intro t
  have hlt : '<' ∉ t := by decide
  have hrefers : RefersNowhere t := by decide +kernel
  have hdivide : divide (Jsx.forest paragraph) t = (t, []) := by decide +kernel
  have hwhole : StaysWhole t paragraph := by
    refine ⟨?_, ?_, nofun⟩ <;> rw [hdivide]
    · decide
    · exact fun h => absurd rfl h
  obtain ⟨hw, hf⟩ := writable_paragraph
  exact ⟨hlt, hrefers, hw, hf, hwhole, ((convert_textAhead_iff hlt hrefers hw hf).mpr hwhole).trans (by decide +kernel)⟩

/-- A paragraph that becomes text, a semicolon that is lost and an ampersand that is. -/
theorem textAhead_damaged :
    let sign : Text := "&#".toList
    let closed : Text := "&x;".toList
    let letter : Text := "&a".toList
    Every Writable paragraph ∧ BeginsWithElement paragraph ∧
      (RefersNowhere sign ∧ convert (sign ++ Jsx.forest paragraph) = .ok "&amp;#&lt;p&gt;x&lt;/p&gt;".toList ∧
        Jsx.escape sign.trim ++ Jsx.forest paragraph = "&amp;#<p>x</p>".toList) ∧
      (RefersNowhere closed ∧ convert closed = .ok "&amp;x".toList ∧ Jsx.escape closed.trim = "&amp;x;".toList) ∧
      RefersNowhere letter ∧ convert letter = .ok "a".toList ∧ Jsx.escape letter.trim = "&amp;a".toList :=
  ⟨writable_paragraph.1, writable_paragraph.2, by decide +kernel⟩

end Markup

end MarkupJsx
