/-
  MarkupJsx.Proofs.Markup.LeftOpen — elements that are still open where the document ends.

  Rule. A chain of start tags, each with a text behind it and none with an end tag, opens
  elements one within the other. The end of the document closes them all: each keeps its
  text, in front of the element within it. But within a script or style element only its
  closing tag counts, so neither pass finds anything there to report, and the end of the
  document does not make a text of what is left (`pass_raw`, `read_rawTag`). Only the
  innermost element can be one of those, as no tag would be read in it.

  `convert_leftOpen_iff`: a chain is written with what is heard of each text, and with all
  of each text exactly when a script or style element in it has a text of blanks only.
  `script_left_open`: `<script>x` loses its text.
-/

import MarkupJsx.Conversion
import MarkupJsx.Proofs.Markup.StartTag
import MarkupJsx.Proofs.Markup.TreeBuilder

namespace MarkupJsx.Markup

/-! ## Chains -/

/-- The name in a start tag, and the text behind the tag. -/
structure Unclosed where
  name : Text
  content : Text
  deriving DecidableEq, Repr

namespace Unclosed

def written (e : Unclosed) : Text := '<' :: (e.name ++ '>' :: e.content)

/-- The tag has no attributes. -/
theorem written_eq (e : Unclosed) : e.written = '<' :: (e.name ++ (attrsText [] ++ (tagEnd false ++ e.content))) := rfl

theorem legible_nil : ∀ a ∈ ([] : List WrittenAttr), a.Legible := fun _ ha => by cases ha

def raw? (e : Unclosed) : Option RawElement := RawElement.ofName? e.name.lower

/-- What is read of the text. -/
def heard (e : Unclosed) : Text := if e.raw?.isSome then [] else e.content

end Unclosed

/-- Start tags in any case of elements that are not void, the innermost last, with plain
    texts. -/
structure OpenChain (es : List Unclosed) : Prop where
  names : ∀ e ∈ es, IsTagName e.name ∧ voidElements.contains e.name.lower = false
  texts : ∀ e ∈ es, '<' ∉ e.content ∧ '&' ∉ e.content
  outer : ∀ e ∈ es.dropLast, e.raw? = none

def chainText (es : List Unclosed) : Text := es.flatMap Unclosed.written

/-- All opening tags with a text behind each, and then all closing tags. -/
def chainJsx (text : Unclosed → Text) (es : List Unclosed) : Text :=
  es.flatMap (fun e => '<' :: (e.name.lower ++ '>' :: Jsx.escape (text e).trim)) ++
    es.reverse.flatMap fun e => '<' :: '/' :: (e.name.lower ++ ['>'])

/-- The elements one within the other. -/
def nested (text : Unclosed → Text) : List Unclosed → Forest
  | [] => []
  | e :: inner => [.element e.name.lower [] (.text (text e) :: nested text inner)]

theorem OpenChain.tail {e : Unclosed} {es : List Unclosed} (h : OpenChain (e :: es)) : OpenChain es := by
  refine ⟨fun d hd => h.names d (List.mem_cons_of_mem e hd), fun d hd => h.texts d (List.mem_cons_of_mem e hd), ?_⟩
  intro d hd
  cases es with
  | nil => cases hd
  | cons e' es =>
    apply h.outer d
    rw [List.dropLast_cons_cons]
    exact List.mem_cons_of_mem e hd

theorem chainJsx_cons (text : Unclosed → Text) (e : Unclosed) (es : List Unclosed) :
    chainJsx text (e :: es) = '<' :: (e.name.lower ++ '>' ::
      (Jsx.escape (text e).trim ++ (chainJsx text es ++ '<' :: '/' :: (e.name.lower ++ ['>'])))) := by
  simp [chainJsx]

/-- The elements one within the other are written as the chain is. -/
theorem forest_nested (text : Unclosed → Text) {es : List Unclosed}
    (h : ∀ e ∈ es, voidElements.contains e.name.lower = false) : Jsx.forest (nested text es) = chainJsx text es := by
  induction es with
  | nil => rfl
  | cons e es ih =>
    obtain ⟨he, hes⟩ := List.forall_mem_cons.mp h
    rw [nested, Jsx.forest_singleton, Jsx.node_open he, Jsx.forest, Jsx.node, ih hes, chainJsx_cons]
    simp [Jsx.attrs]

/-- Behind a text of the chain comes a tag. -/
theorem ends_chainJsx (text : Unclosed → Text) (es : List Unclosed) (rest : Text) :
    Text.Ends (· != '<') (chainJsx text es ++ '<' :: rest) := by
  cases es with
  | nil => exact Text.ends_cons.mpr rfl
  | cons e es => rw [chainJsx_cons]; exact Text.ends_cons.mpr rfl

/-- What is written shows every text of the chain, as far as it is not blank at its ends. -/
theorem chainJsx_eq_iff {f g : Unclosed → Text} {es : List Unclosed} :
    chainJsx f es = chainJsx g es ↔ ∀ e ∈ es, (f e).trim = (g e).trim := by
  induction es with
  | nil => simp [chainJsx]
  | cons e es ih =>
    rw [List.forall_mem_cons, ← ih, chainJsx_cons, chainJsx_cons]
    constructor
    · intro h
      have htexts := (List.cons.inj (List.append_cancel_left (List.cons.inj h).2)).2
      obtain ⟨htext, hinner⟩ := Text.append_inj_of_ends (Text.ne_of_not_mem (Jsx.not_mem_escape _).1)
        (Text.ne_of_not_mem (Jsx.not_mem_escape _).1) (ends_chainJsx f es _) (ends_chainJsx g es _) htexts
      exact ⟨Jsx.escape_injective htext, List.append_cancel_right hinner⟩
    · rintro ⟨htext, hinner⟩
      rw [htext, hinner]

/-! ## Closing at the end -/

namespace TreeBuilder

def addAll (f : Forest) (b : TreeBuilder) : TreeBuilder := f.foldl (fun b n => b.add n) b

/-- An element is begun, and a text added to it. -/
def leaveOpen (b : TreeBuilder) (e : Unclosed) : TreeBuilder := (b.enter e.name.lower []).add (.text e.heard)

variable {b : TreeBuilder} {e : Unclosed} {es : List Unclosed}

theorem addAll_roots (f roots : Forest) : addAll f ⟨[], roots⟩ = ⟨[], roots ++ f⟩ := by
  induction f generalizing roots with
  | nil => rw [List.append_nil]; rfl
  | cons n f ih =>
    show addAll f ⟨[], roots ++ [n]⟩ = _
    rw [ih, List.append_assoc, List.singleton_append]

theorem addAll_inside (f : Forest) (name : Text) (attrs : List Attr) (children roots : Forest) (outer : List OpenNode) :
    addAll f ⟨⟨name, attrs, children⟩ :: outer, roots⟩ = ⟨⟨name, attrs, children ++ f⟩ :: outer, roots⟩ := by
  induction f generalizing children with
  | nil => rw [List.append_nil]; rfl
  | cons n f ih =>
    show addAll f ⟨⟨name, attrs, children ++ [n]⟩ :: outer, roots⟩ = _
    rw [ih, List.append_assoc, List.singleton_append]

theorem popN_succ (n : Nat) (b : TreeBuilder) : popN (n + 1) b = (popN n b).pop := by
  induction n generalizing b with
  | zero => rfl
  | succ n ih => exact ih b.pop

theorem leaveOpen_eq (hv : voidElements.contains e.name.lower = false) :
    b.leaveOpen e = { b with stack := ⟨e.name.lower, [], [.text e.heard]⟩ :: b.stack } := by
  unfold leaveOpen enter
  rw [hv]
  rfl

/-- To open a chain and close as many elements is to add what the chain describes. -/
theorem popN_leaveOpen (hv : ∀ e ∈ es, voidElements.contains e.name.lower = false) :
    popN es.length (es.foldl leaveOpen b) = b.addAll (nested Unclosed.heard es) := by
  induction es generalizing b with
  | nil => rfl
  | cons e es ih =>
    obtain ⟨he, hes⟩ := List.forall_mem_cons.mp hv
    rw [List.length_cons, popN_succ, List.foldl_cons, ih hes, leaveOpen_eq he, addAll_inside]
    rfl

theorem length_leaveOpen (hv : ∀ e ∈ es, voidElements.contains e.name.lower = false) :
    (es.foldl leaveOpen b).stack.length = b.stack.length + es.length := by
  induction es generalizing b with
  | nil => rfl
  | cons e es ih =>
    obtain ⟨he, hes⟩ := List.forall_mem_cons.mp hv
    rw [List.foldl_cons, ih hes, leaveOpen_eq he]
    simp only [List.length_cons]
    omega

theorem finish_leaveOpen (hv : ∀ e ∈ es, voidElements.contains e.name.lower = false) :
    (es.foldl leaveOpen .start).finish = nested Unclosed.heard es := by
  have hlength : (es.foldl leaveOpen .start).stack.length = es.length := by
    rw [length_leaveOpen hv]
    exact Nat.zero_add _
  rw [finish, hlength, popN_leaveOpen hv]
  show (addAll (nested Unclosed.heard es) ⟨[], []⟩).roots = _
  rw [addAll_roots, List.nil_append]

end TreeBuilder

/-! ## Script and style elements without an end -/

/-- A closing tag begins with a `<`. -/
theorem RawElement.closer?_of_not_mem (e : RawElement) {s : Text} (h : '<' ∉ s) : e.closer? s = none := by
  unfold RawElement.closer?
  split
  · exact absurd List.mem_cons_self h
  · rfl

theorem RawElement.contentBefore?_of_not_mem (e : RawElement) {s : Text} (h : '<' ∉ s) : e.contentBefore? s = none := by
  induction s with
  | nil => rfl
  | cons c s ih =>
    have hs : '<' ∉ s := fun hmem => h (List.mem_cons_of_mem c hmem)
    rw [contentBefore?, e.closer?_of_not_mem h, ih hs]
    rfl

/-- Without a tag in it, the text of a raw element is left where it is by either pass. -/
theorem pass_raw {s : Text} (h : '<' ∉ s) (final : Bool) (e : RawElement) : pass final (some e) s = .ok ⟨[], some e, s⟩ := by
  cases s with
  | nil => exact pass_nil final (some e)
  | cons c s =>
    have hstep : step final (some e) c s = .ok (.stop [] (c :: s)) := by
      show Except.ok (rawStep e (c :: s)) = _
      unfold rawStep
      rw [e.closer?_of_not_mem h, e.contentBefore?_of_not_mem h]
    exact pass_of_stop hstep

namespace Growth

variable {g : Growth} {b : TreeBuilder} {e : Unclosed} {es : List Unclosed}

/-- An element is begun, with what is heard of its text. -/
def leaveOpen (g : Growth) (e : Unclosed) : Growth := (g.startElement e.name.lower [] false).write e.heard

/-- A raw element is begun, and none of its text is heard. -/
theorem read_rawTag (hname : IsTagName e.name) (hlt : '<' ∉ e.content) (hraw : e.raw?.isSome = true) :
    g.read false e.written = .ok (g.leaveOpen e) := by
  obtain ⟨r, hr⟩ := Option.isSome_iff_exists.mp hraw
  obtain ⟨t, hstep, hlower, hself, hattrs⟩ := openStep_written false hname Unclosed.legible_nil false e.content
  have hmode : RawElement.ofName? e.name.lower = some r := hr
  simp only [Bool.false_eq_true, if_false, hmode] at hstep
  have hfirst : pass false none e.written = .ok ⟨[.startTag t], some r, e.content⟩ := by
    rw [e.written_eq, pass_of_step ((step_open _).trans hstep), pass_raw hlt]
    rfl
  have hevents : events e.written = .ok [.startTag t] := by
    simp only [events, hfirst, pass_raw hlt, bind, Except.bind, pure, Except.pure]
    rfl
  have hheard : e.heard = [] := by rw [Unclosed.heard, if_pos hraw]
  rw [read, eventsFrom, hevents, leaveOpen, hheard, write_nil, ← hlower, ← hself]
  show Except.ok (g.startElement t.name (elementAttrs t) t.selfClosing) = _
  rw [hattrs]
  rfl

/-- An element that is not raw is begun with all of its text. -/
theorem read_unclosed (hname : IsTagName e.name) (htext : '<' ∉ e.content ∧ '&' ∉ e.content) (hraw : e.raw? = none)
    (final : Bool) (rest : Text) : g.read final (e.written ++ rest) = (g.leaveOpen e).read final rest := by
  have hplain : ∀ c ∈ e.content, isPlain c = true := by
    intro c hc
    apply isPlain_iff.mpr
    constructor
    · rintro rfl; exact htext.1 hc
    · rintro rfl; exact htext.2 hc
  have hshape : e.written ++ rest = '<' :: (e.name ++ (attrsText [] ++ (tagEnd false ++ (e.content ++ rest)))) := by
    simp [e.written_eq]
  have hheard : e.heard = e.content := by
    rw [Unclosed.heard, hraw]
    rfl
  rw [hshape, read_startTag hname hraw Unclosed.legible_nil false, read_plain hplain, leaveOpen, hheard]
  rfl

/-- A chain is read as what it opens. -/
theorem read_chain (h : OpenChain es) : g.read false (chainText es) = .ok (es.foldl leaveOpen g) := by
  induction es generalizing g with
  | nil => exact read_nil false g
  | cons e es ih =>
    have hname := (h.names e List.mem_cons_self).1
    have htext := h.texts e List.mem_cons_self
    show g.read false (e.written ++ chainText es) = _
    by_cases hraw : e.raw? = none
    · rw [read_unclosed hname htext hraw, ih h.tail, List.foldl_cons]
    · -- nothing comes behind a raw element
      have hnil : es = [] := by
        by_contra hne
        apply hraw
        apply h.outer e
        rw [List.dropLast_cons_of_ne_nil hne]
        exact List.mem_cons_self
      subst hnil
      show g.read false (e.written ++ []) = _
      rw [List.append_nil]
      exact read_rawTag hname htext.1 (Option.isSome_iff_ne_none.mpr hraw)

/-- The builder follows: the elements are open on both sides, with the same texts in them. -/
theorem tracks_leaveOpen (h : Tracks g.settle b) (hv : voidElements.contains e.name.lower = false) :
    Tracks (g.leaveOpen e).settle (b.leaveOpen e) := by
  have henter : Tracks (g.settle.enter e.name.lower []) (b.enter e.name.lower []) := h.enter hv
  have hpending : (g.settle.enter e.name.lower []).pending = [] := settle_pending g
  rw [leaveOpen, startElement_open hv]
  exact henter.text hpending e.heard

theorem tracks_chain (h : Tracks g.settle b) (hv : ∀ e ∈ es, voidElements.contains e.name.lower = false) :
    Tracks (es.foldl leaveOpen g).settle (es.foldl TreeBuilder.leaveOpen b) := by
  induction es generalizing g b with
  | nil => exact h
  | cons e es ih =>
    obtain ⟨he, hes⟩ := List.forall_mem_cons.mp hv
    exact ih (tracks_leaveOpen h he) hes

end Growth

/-! ## Conversion -/

theorem convert_chain {es : List Unclosed} (h : OpenChain es) :
    convert (chainText es) = .ok (chainJsx Unclosed.heard es) := by
  have hv : ∀ e ∈ es, voidElements.contains e.name.lower = false := fun e he => (h.names e he).2
  have htracks : Tracks (es.foldl Growth.leaveOpen .start).settle (es.foldl TreeBuilder.leaveOpen .start) :=
    Growth.tracks_chain tracks_start hv
  have hjsx : Jsx.forest (es.foldl Growth.leaveOpen .start).finish = chainJsx Unclosed.heard es := by
    rw [htracks.finish, TreeBuilder.finish_leaveOpen hv, forest_nested Unclosed.heard hv]
  rw [convert, parse_eq_read, Growth.read_chain h]
  exact congrArg Except.ok hjsx

theorem trim_heard_eq_iff (e : Unclosed) :
    e.heard.trim = e.content.trim ↔ (e.raw?.isSome = true → e.content.trim = []) := by
  unfold Unclosed.heard
  by_cases hraw : e.raw?.isSome = true
  · simp only [hraw, if_true, true_implies]
    exact eq_comm
  · simp [hraw]

/-- A chain of elements that are left open is written with a closing tag for each, and with
    what is heard of its texts. Those are all of its texts, as far as they show, exactly when
    a script or style element at its end has nothing but blanks for its text. -/
theorem convert_leftOpen_iff {es : List Unclosed} (h : OpenChain es) :
    convert (chainText es) = .ok (chainJsx Unclosed.heard es) ∧
      (convert (chainText es) = .ok (chainJsx Unclosed.content es) ↔
        ∀ e ∈ es, e.raw?.isSome = true → e.content.trim = []) := by
  have hconvert := convert_chain h
  refine ⟨hconvert, ?_⟩
  rw [hconvert, Except.ok.injEq, chainJsx_eq_iff]
  constructor
  · intro hall e he
    exact (trim_heard_eq_iff e).mp (hall e he)
  · intro hall e he
    exact (trim_heard_eq_iff e).mpr (hall e he)

/-- `<Section> <p> Open ><STYLE> ` -/
def openSection : List Unclosed :=
  [⟨['S', 'e', 'c', 't', 'i', 'o', 'n'], [' ']⟩, ⟨['p'], [' ', 'O', 'p', 'e', 'n', ' ', '>']⟩,
    ⟨['S', 'T', 'Y', 'L', 'E'], ['\n', ' ']⟩]

theorem convert_leftOpen_section : OpenChain openSection ∧
    convert (chainText openSection) = .ok "<section><p>Open &gt;<style></style></p></section>".toList := by
  have name : ∀ {c : Char} {tail : Text}, Text.isLetter c = true →
      tail.all (fun d => decide ((Text.isAlphanumeric d || d == '-') = true)) = true → IsTagName (c :: tail) :=
    fun hc htail => ⟨_, _, rfl, hc, Text.forall_mem_of_all htail⟩
  have h : OpenChain openSection := by
    refine ⟨fun e he => ?_, by decide, by decide⟩
    simp only [openSection, List.mem_cons, List.not_mem_nil, or_false] at he
    rcases he with rfl | rfl | rfl
    · exact ⟨name rfl rfl, rfl⟩
    · exact ⟨name rfl rfl, rfl⟩
    · exact ⟨name rfl rfl, rfl⟩
  exact ⟨h, ((convert_leftOpen_iff h).2.mpr (by decide)).trans (by decide +kernel)⟩

/-- `<script>x` is a chain, and its text is lost. -/
theorem script_left_open :
    let es : List Unclosed := [⟨"script".toList, ['x']⟩]
    OpenChain es ∧ chainText es = "<script>x".toList ∧ convert (chainText es) = .ok "<script></script>".toList ∧
      chainJsx Unclosed.content es = "<script>x</script>".toList := by
  intro es
  have hname : IsTagName "script".toList := ⟨_, _, rfl, rfl, Text.forall_mem_of_all rfl⟩
  have h : OpenChain es := by
    refine ⟨fun e he => ?_, by decide, by decide⟩
    obtain rfl := List.mem_singleton.mp he
    exact ⟨hname, by decide⟩
  exact ⟨h, by decide, by decide +kernel, by decide +kernel⟩

end MarkupJsx.Markup
