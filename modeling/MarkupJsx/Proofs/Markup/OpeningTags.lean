/-
  MarkupJsx.Proofs.Markup.OpeningTags — the attributes in the opening tags of the JSX, and the
  start tags of the markup that they come from.

  Each start tag begins one element. So the elements of a document, in the order in which
  they begin, are its start tags (`heads_ofEvents`), however many of them are closed late or
  never. The tags of the JSX that open an element are those again (`openings_tokens`).

  Rule. A key given again in a tag takes the later value, so that an element has each key
  once. But keys are compared as they are spelled, and two of them get another name when they
  are written: with `class` and `className` in one tag, the name is written twice, each time
  with the last value of its own key (`class_written_twice`). Of no other tag is a name
  written twice, or with a value other than the last one given under it:
  `opening_tags_repeat_iff`.
-/

import Mathlib.Data.List.Forall2
import Mathlib.Data.List.Nodup
import MarkupJsx.Conversion
import MarkupJsx.Proofs.Markup.WellFormed

namespace MarkupJsx.Markup

/-! ## Elements in the order in which they begin -/

/-- The name and the attributes of an element. -/
abbrev Head := Text × List Attr

def Node.head? : Node → Option Head
  | .text _ => none
  | .element name attrs _ => some (name, attrs)

/-- The elements of a forest, at any depth. -/
def heads (f : Forest) : List Head := (nodes f).filterMap Node.head?

theorem heads_nil : heads [] = [] := rfl

theorem heads_append (f g : Forest) : heads (f ++ g) = heads f ++ heads g := by
  rw [heads, nodes_append, List.filterMap_append]
  rfl

theorem heads_text_cons (t : Text) (f : Forest) : heads (.text t :: f) = heads f := rfl

theorem heads_element_cons (name : Text) (attrs : List Attr) (children f : Forest) :
    heads (.element name attrs children :: f) = (name, attrs) :: heads children ++ heads f := by
  rw [heads, nodes, withInner, List.filterMap_append, List.filterMap_cons]
  rfl

def Event.startTag? : Event → Option Tag
  | .startTag t => some t
  | _ => none

def startTags (evs : List Event) : List Tag := evs.filterMap Event.startTag?

/-- The element that a start tag begins. -/
def Tag.begins (t : Tag) : Head := (t.name, Growth.elementAttrs t)

namespace Growth

/-- The elements that have begun: those in front of an open element, then that element. -/
def begun (g : Growth) : List Head :=
  g.enclosing.reverse.flatMap (fun e => heads e.before ++ [(e.name, e.attrs)]) ++ heads g.siblings

theorem begun_settle (g : Growth) : g.settle.begun = g.begun := by
  unfold settle
  split
  · rfl
  · show _ ++ heads (g.siblings ++ [.text _]) = _
    rw [heads_append, heads_text_cons]
    exact congrArg _ (List.append_nil _)

theorem begun_enter (name : Text) (attrs : List Attr) (g : Growth) :
    (g.enter name attrs).begun = g.begun ++ [(name, attrs)] := by
  simp [begun, enter, heads_nil]

/-- Closing an element begins nothing, and what is in it began behind it. -/
theorem begun_leave (g : Growth) : g.leave.begun = g.begun := by
  unfold leave
  split
  · rfl
  · rename_i e outer he
    simp [begun, he, heads_append, heads_element_cons, heads_nil]

theorem begun_step (g : Growth) (e : Event) : (g.step e).begun = g.begun ++ e.startTag?.toList.map Tag.begins := by
  cases e with
  | text t => exact (List.append_nil _).symm
  | hidden => exact (begun_settle g).trans (List.append_nil _).symm
  | endTag name =>
    rw [step]
    split
    · exact (List.append_nil _).symm
    · exact ((close_of_leave begun_leave name g).trans (begun_settle g)).trans (List.append_nil _).symm
  | startTag t =>
    have henter : (g.settle.enter t.name (elementAttrs t)).begun = g.begun ++ [t.begins] := by
      rw [begun_enter, begun_settle]
      rfl
    simp only [step]
    split
    · exact (begun_leave _).trans henter
    · split
      · exact (begun_leave _).trans henter
      · exact henter

theorem begun_foldl (evs : List Event) (g : Growth) :
    (evs.foldl step g).begun = g.begun ++ (startTags evs).map Tag.begins := by
  induction evs generalizing g with
  | nil => exact (List.append_nil _).symm
  | cons e evs ih =>
    have hfirst : startTags (e :: evs) = e.startTag?.toList ++ startTags evs := by
      rw [startTags, List.filterMap_cons]
      cases e.startTag? <;> rfl
    rw [List.foldl_cons, ih, begun_step, hfirst, List.map_append, List.append_assoc]

theorem heads_finish (g : Growth) : heads g.finish = g.begun := by
  suffices ∀ (es : List OpenElement) (g : Growth), g.enclosing = es →
      heads (es.foldl (fun g _ => g.leave) g).siblings = g.begun from
    (this _ g.settle rfl).trans (begun_settle g)
  intro es
  induction es with
  | nil =>
    intro g hg
    rw [begun, hg]
    rfl
  | cons e es ih =>
    intro g hg
    have hleave : g.leave.enclosing = es := by rw [leave, hg]
    rw [List.foldl_cons, ih g.leave hleave, begun_leave]

end Growth

/-- The elements of a document begin one by one with its start tags. -/
theorem heads_ofEvents (evs : List Event) : heads (Forest.ofEvents evs) = (startTags evs).map Tag.begins := by
  rw [Forest.ofEvents, Growth.heads_finish, Growth.begun_foldl]
  rfl

/-! ## Tags that open an element -/

end MarkupJsx.Markup

namespace MarkupJsx.Jsx

open Markup (Attr Node heads heads_nil heads_element_cons)

/-- The name and the pairs of a tag that opens an element. -/
abbrev Opening := Text × List Pair

def Token.opening? : Token → Option Opening
  | .opener name ps | .single name ps => some (name, ps)
  | .text _ | .closer _ => none

def openings (ts : List Token) : List Opening := ts.filterMap Token.opening?

theorem openings_pushRaw (raw : Text) (ts : List Token) : openings (pushRaw raw ts) = openings ts := by
  unfold pushRaw
  split
  · rfl
  · split <;> rfl

mutual

theorem openings_nodeTokens : ∀ (n : Node) (ts : List Token),
    openings (nodeTokens n ts) = (heads [n]).map (fun h => (h.1, pairs h.2)) ++ openings ts
  | .text t, ts => openings_pushRaw _ ts
  | .element name as children, ts => by
    rw [nodeTokens, heads_element_cons, heads_nil, List.append_nil]
    split
    · rename_i hself
      obtain rfl : children = [] := by
        simp only [Bool.and_eq_true, List.isEmpty_iff] at hself
        exact hself.1
      rfl
    · have hinner : openings (tokens children ++ .closer name :: ts) = openings (tokens children) ++ openings ts :=
        List.filterMap_append
      show (name, pairs as) :: openings (tokens children ++ .closer name :: ts) = _
      rw [hinner, openings_tokens children]
      rfl

/-- The elements of a forest are opened in the order in which they begin. -/
theorem openings_tokens : ∀ f : List Node, openings (tokens f) = (heads f).map fun h => (h.1, pairs h.2)
  | [] => rfl
  | n :: rest => by
    rw [tokens, openings_nodeTokens n, openings_tokens rest, ← List.map_append, ← Markup.heads_append]
    rfl

end

theorem mem_pairs_iff {as : List Attr} {p : Pair} :
    p ∈ pairs as ↔ ∃ a ∈ as, ∃ v, a.value = some v ∧ attrName a.key = p.name ∧ escape v = p.raw := by
  obtain ⟨name, raw⟩ := p
  simp only [pairs, List.mem_filterMap, Option.map_eq_some_iff, Pair.mk.injEq]

end MarkupJsx.Jsx

namespace MarkupJsx.Markup

open Jsx (Opening Pair attrName pairs)

/-! ## The last value under a name -/

/-- The last value given for the attributes that are named so, an absent one read as empty. -/
def lastValue? (naming : Text → Text) (name : Text) (as : List Attr) : Option Text :=
  (as.filter fun a => naming a.key = name).getLast?.map fun a => a.value.getD []

variable {t : Tag}

theorem mem_elementAttrs_iff {a : Attr} :
    a ∈ Growth.elementAttrs t ↔ ∃ v, a.value = some v ∧ lastValue? id a.key t.spelled = some v := by
  rw [Growth.elementAttrs, Attr.mem_collapse_iff, List.filter_map, List.getLast?_map, lastValue?]
  show Option.map _ (t.spelled.filter fun b => b.key = a.key).getLast? = some a ↔
    ∃ v, a.value = some v ∧ Option.map _ (t.spelled.filter fun b => b.key = a.key).getLast? = some v
  cases hlast : (t.spelled.filter fun b => b.key = a.key).getLast? with
  | none => simp
  | some b =>
    have hb : b.key = a.key := by simpa using (List.mem_filter.mp (List.mem_of_getLast? hlast)).2
    obtain ⟨key, value⟩ := a
    simp only [Option.map_some, Option.some.injEq, Attr.mk.injEq]
    constructor
    · rintro ⟨-, rfl⟩
      exact ⟨_, rfl, rfl⟩
    · rintro ⟨v, rfl, rfl⟩
      exact ⟨hb, rfl⟩

theorem keys_elementAttrs (key : Text) :
    key ∈ (Growth.elementAttrs t).map (·.key) ↔ key ∈ t.spelled.map (·.key) := by
  rw [Growth.elementAttrs, Attr.key_mem_collapse_iff, List.map_map]
  rfl

/-! ## What is written of a start tag -/

/-- The tag has a key that is renamed, and another that is the new name. -/
def Clashes (t : Tag) : Prop := ∃ r ∈ Jsx.renames, r.1 ∈ t.spelled.map (·.key) ∧ r.2 ∈ t.spelled.map (·.key)

/-- No name is written twice, and each has the last value that the tag gives under it. -/
def WrittenOnce (t : Tag) (o : Opening) : Prop :=
  (o.2.map (·.name)).Nodup ∧ ∀ p ∈ o.2, ∃ v, lastValue? attrName p.name t.spelled = some v ∧ p.raw = Jsx.escape v

/-- In any case: the names of all attributes are written and no others, each with the last
    value of a key that is written so. -/
structure Writes (t : Tag) (o : Opening) : Prop where
  name : o.1 = t.name
  names : ∀ name, name ∈ o.2.map (·.name) ↔ name ∈ t.spelled.map (attrName ·.key)
  values : ∀ p ∈ o.2, ∃ key v, attrName key = p.name ∧ lastValue? id key t.spelled = some v ∧ p.raw = Jsx.escape v

def Tag.opening (t : Tag) : Opening := (t.name, pairs (Growth.elementAttrs t))

theorem names_opening (t : Tag) : t.opening.2.map (·.name) = (Growth.elementAttrs t).map (attrName ·.key) := by
  have hall : ∀ a ∈ Growth.elementAttrs t, a.value.isSome = true := by
    intro a ha
    obtain ⟨v, hv, -⟩ := mem_elementAttrs_iff.mp ha
    rw [hv]
    rfl
  show (pairs _).map (·.name) = _
  rw [Jsx.name_pairs, Jsx.writtenKeys, List.filter_eq_self.mpr hall]

/-- A pair is written for a key of the tag, with the last value of that key. -/
theorem exists_key_of_mem_opening {p : Pair} (hp : p ∈ t.opening.2) :
    ∃ key v, key ∈ t.spelled.map (·.key) ∧
      attrName key = p.name ∧ lastValue? id key t.spelled = some v ∧ p.raw = Jsx.escape v := by
  obtain ⟨a, ha, v, hv, hname, hraw⟩ := Jsx.mem_pairs_iff.mp hp
  obtain ⟨w, hw, hlast⟩ := mem_elementAttrs_iff.mp ha
  obtain rfl : v = w := Option.some.inj (hv.symm.trans hw)
  have hkey : a.key ∈ t.spelled.map (·.key) := (keys_elementAttrs a.key).mp (List.mem_map_of_mem ha)
  exact ⟨a.key, v, hkey, hname, hlast, hraw.symm⟩

/-- Keys that do not clash are written apart. -/
theorem eq_of_not_clashes (h : ¬ Clashes t) {k l : Text} (hk : k ∈ t.spelled.map (·.key)) (hl : l ∈ t.spelled.map (·.key))
    (heq : attrName k = attrName l) : k = l := by
  by_contra hne
  rcases Jsx.mem_renames_of_attrName_eq heq hne with hr | hr
  · exact h ⟨_, hr, hk, hl⟩
  · exact h ⟨_, hr, hl, hk⟩

theorem writtenOnce_of_not_clashes (h : ¬ Clashes t) : WrittenOnce t t.opening := by
  constructor
  · rw [names_opening]
    have hkeys : ((Growth.elementAttrs t).map (·.key)).Nodup := Attr.nodup_collapse _
    have hapart := hkeys.map_on fun k hk l hl heq =>
      eq_of_not_clashes h ((keys_elementAttrs k).mp hk) ((keys_elementAttrs l).mp hl) heq
    rwa [List.map_map] at hapart
  · intro p hp
    obtain ⟨key, v, hkey, hname, hlast, hraw⟩ := exists_key_of_mem_opening hp
    -- no other key is written so
    have hfilter : (t.spelled.filter fun b => attrName b.key = p.name) = t.spelled.filter fun b => id b.key = key := by
      apply List.filter_congr
      intro b hb
      rw [← hname, decide_eq_decide]
      constructor
      · intro heq
        exact eq_of_not_clashes h (List.mem_map_of_mem hb) hkey heq
      · intro heq
        exact congrArg attrName heq
    refine ⟨v, ?_, hraw⟩
    rw [lastValue?, hfilter]
    exact hlast

theorem not_writtenOnce_of_clashes (h : Clashes t) : ¬ WrittenOnce t t.opening := by
  rintro ⟨hnodup, -⟩
  obtain ⟨r, hr, hfrom, hto⟩ := h
  obtain ⟨a, ha, hakey⟩ := List.mem_map.mp ((keys_elementAttrs r.1).mpr hfrom)
  obtain ⟨b, hb, hbkey⟩ := List.mem_map.mp ((keys_elementAttrs r.2).mpr hto)
  obtain ⟨hrenamed, hkept⟩ := Jsx.attrName_renamed r hr
  rw [names_opening] at hnodup
  have hab : a = b := List.inj_on_of_nodup_map hnodup ha hb (by rw [hakey, hbkey, hrenamed, hkept])
  have hchanged : ∀ r ∈ Jsx.renames, r.1 ≠ r.2 := by decide
  exact hchanged r hr (by rw [← hakey, ← hbkey, hab])

theorem writes_opening (t : Tag) : Writes t t.opening where
  name := rfl
  names := by
    intro name
    rw [names_opening]
    have hboth : ∀ as : List Attr, as.map (attrName ·.key) = (as.map (·.key)).map attrName := by
      intro as
      rw [List.map_map]
      rfl
    rw [hboth, hboth, List.mem_map, List.mem_map]
    simp only [keys_elementAttrs]
  values := by
    intro p hp
    obtain ⟨key, v, -, hwritten⟩ := exists_key_of_mem_opening hp
    exact ⟨key, v, hwritten⟩

theorem writtenOnce_iff (t : Tag) : WrittenOnce t t.opening ↔ ¬ Clashes t := by
  constructor
  · intro honce h
    exact not_writtenOnce_of_clashes h honce
  · exact writtenOnce_of_not_clashes

/-- The tags that open an element in the JSX of a markup text are its start tags, one by one.
    Of each, the names of all attributes are written and no others. No name is written twice,
    and each with the last value given under it, unless the tag has both a key that is renamed
    and the name it gets. -/
theorem opening_tags_repeat_iff {s jsx : Text} (h : convert s = .ok jsx) :
    ∃ evs ts, events s = .ok evs ∧ Jsx.lex? jsx = some ts ∧
      List.Forall₂ (fun t o => Writes t o ∧ (WrittenOnce t o ↔ ¬ Clashes t)) (startTags evs) (Jsx.openings ts) := by
  cases hevents : events s with
  | error e =>
    rw [convert, parse, hevents] at h
    cases h
  | ok evs =>
    have hparse : parse s = .ok (Forest.ofEvents evs) := by rw [parse, hevents]; rfl
    rw [convert, hparse] at h
    cases h
    have hlexical := lexical_of_wellFormed (wellFormed_of_parse hparse)
    refine ⟨evs, _, rfl, Jsx.lex?_forest hlexical, ?_⟩
    rw [Jsx.openings_tokens, heads_ofEvents, List.map_map, List.forall₂_map_right_iff, List.forall₂_same]
    intro t _
    exact ⟨writes_opening t, writtenOnce_iff t⟩

/-- Keys that differ in case only, a key given twice, and one without a value. -/
def repeatedKeys : Text := "<b for=x FOR=y class=1 class=2><br id>".toList

theorem opening_tags_repeat_repeatedKeys :
    convert repeatedKeys = .ok "<b htmlFor=\"x\" FOR=\"y\" className=\"2\"><br id=\"\" /></b>".toList ∧
      ∃ evs ts, events repeatedKeys = .ok evs ∧
        Jsx.lex? "<b htmlFor=\"x\" FOR=\"y\" className=\"2\"><br id=\"\" /></b>".toList = some ts ∧
        List.Forall₂ (fun t o => Writes t o ∧ (WrittenOnce t o ↔ ¬ Clashes t)) (startTags evs) (Jsx.openings ts) := by
  have h : parse repeatedKeys = .ok [.element ['b']
      [⟨"for".toList, some ['x']⟩, ⟨"FOR".toList, some ['y']⟩, ⟨"class".toList, some ['2']⟩]
      [.element ['b', 'r'] [⟨"id".toList, some []⟩] []]] := by
    with_unfolding_all rfl
  have hjsx : Jsx.forest [.element ['b']
      [⟨"for".toList, some ['x']⟩, ⟨"FOR".toList, some ['y']⟩, ⟨"class".toList, some ['2']⟩]
      [.element ['b', 'r'] [⟨"id".toList, some []⟩] []]] =
      "<b htmlFor=\"x\" FOR=\"y\" className=\"2\"><br id=\"\" /></b>".toList := by decide +kernel
  have hconvert : convert repeatedKeys = .ok "<b htmlFor=\"x\" FOR=\"y\" className=\"2\"><br id=\"\" /></b>".toList := by
    rw [convert, h, ← hjsx, Except.map]
  exact ⟨hconvert, opening_tags_repeat_iff hconvert⟩

/-- The class of an element, spelled once as in markup and once as in JSX. -/
def twoClasses : Text := "<p class=\"a\" className=\"b\">x</p>".toList

/-- Both are written under the one name. -/
theorem class_written_twice :
    convert twoClasses = .ok "<p className=\"a\" className=\"b\">x</p>".toList ∧
      ∃ ts, Jsx.lex? "<p className=\"a\" className=\"b\">x</p>".toList = some ts ∧
        ∃ o ∈ Jsx.openings ts, ¬ (o.2.map (·.name)).Nodup := by
  have h : parse twoClasses =
      .ok [.element ['p'] [⟨"class".toList, some ['a']⟩, ⟨"className".toList, some ['b']⟩] [.text ['x']]] := by
    with_unfolding_all rfl
  have hjsx : Jsx.forest [.element ['p'] [⟨"class".toList, some ['a']⟩, ⟨"className".toList, some ['b']⟩] [.text ['x']]] =
      "<p className=\"a\" className=\"b\">x</p>".toList := by decide +kernel
  have hconvert : convert twoClasses = .ok "<p className=\"a\" className=\"b\">x</p>".toList := by
    rw [convert, h, ← hjsx, Except.map]
  have hlex := Jsx.lex?_forest (lexical_of_wellFormed (wellFormed_of_parse h))
  rw [hjsx] at hlex
  refine ⟨hconvert, _, hlex, (['p'], [⟨"className".toList, ['a']⟩, ⟨"className".toList, ['b']⟩]), ?_, ?_⟩
  · decide +kernel
  · decide +kernel

end MarkupJsx.Markup
