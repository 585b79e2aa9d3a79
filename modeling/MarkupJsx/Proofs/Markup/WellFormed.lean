/-
  MarkupJsx.Proofs.Markup.WellFormed — the names, keys and values of parsed elements, and the
  balance of the JSX that is written for them.

  An element is only made by a start tag. Its name is the lower case of a letter and of
  characters that end no name, and lowering makes none of those (`isParsedName_of_reports`). Its
  keys are names of attributes as the tag has them, each once, and each has a value
  (`wellFormed_of_parse`). So every document is lexical, however its markup is broken, and what
  is written for it is a balanced row of tokens (`parsed_forest_wellFormed`).
-/

import MarkupJsx.Conversion
import MarkupJsx.Proofs.Jsx.Reader
import MarkupJsx.Proofs.Markup.Attributes
import MarkupJsx.Proofs.Markup.Spelling
import MarkupJsx.Proofs.Text.Lowercase

namespace MarkupJsx.Markup

open Text (isLetter)

/-! ## Names -/

/-- The characters that end a name in a start tag. -/
def nameEnds : Text := ['\t', '\n', '\x0c', '\r', ' ', '/', '>', '\x00']

/-- A small letter comes first, and nothing that ends a name is in it. -/
def IsParsedName (name : Text) : Prop :=
  (∃ c tail, name = c :: tail ∧ 'a' ≤ c ∧ c ≤ 'z') ∧ ∀ c ∈ nameEnds, c ∉ name

theorem nameEnds_below_letters : ∀ d ∈ nameEnds, d.toNat < 0x41 ∧ isLetter d = false ∧ Tag.isNameChar d = false :=
  Text.forall_mem_of_all (by decide)

/-- The name of a reported tag is the lower case of a letter and characters of names. -/
theorem name_of_reports {s : Text} {t : Tag} (h : Reports s (.startTag t)) :
    ∃ c tail, isLetter c = true ∧ (∀ y ∈ tail, Tag.isNameChar y = true) ∧ t.name = Text.lower (c :: tail) := by
  obtain ⟨_, c, more, rest, -, hc, hscan⟩ := startTag_of_reports h
  obtain ⟨-, -, -, -, -, hname⟩ := Tag.scan_whole hscan
  exact ⟨c, _, hc, fun _ => List.mem_takeWhile_imp, hname⟩

theorem isParsedName_of_reports {s : Text} {t : Tag} (h : Reports s (.startTag t)) : IsParsedName t.name := by
  obtain ⟨c, tail, hc, htail, hname⟩ := name_of_reports h
  rw [hname]
  refine ⟨?_, fun d hd hmem => ?_⟩
  · obtain ⟨x, rest, hlower, hx⟩ := Text.lower_of_isLetter tail hc
    exact ⟨x, rest, hlower, hx⟩
  · -- what ends a name lies below the letters, so it would have been in the name as written
    obtain ⟨hbelow, hletter, hchar⟩ := nameEnds_below_letters d hd
    rcases List.mem_cons.mp (Text.mem_of_mem_lower hmem hbelow) with rfl | hmem
    · rw [hc] at hletter
      cases hletter
    · rw [htail d hmem] at hchar
      cases hchar

/-! ## Keys -/

theorem not_mem_of_isKey {k : Text} (h : IsKey k) : '/' ∉ k ∧ '>' ∉ k := by
  obtain ⟨x, tail, rfl, hx, htail⟩ := h
  have out : ∀ d, Tag.startsKey d = false → d ∉ x :: tail := by
    intro d hd hmem
    rcases List.mem_cons.mp hmem with rfl | hmem
    · rw [hx] at hd
      cases hd
    · have := htail d hmem
      simp [Tag.isKeyChar, hd] at this
  exact ⟨out '/' rfl, out '>' rfl⟩

/-- The keys of an element are names of attributes in the text of its tag. -/
theorem key_of_elementAttrs {s : Text} {t : Tag} (h : Reports s (.startTag t)) {a : Attr}
    (ha : a ∈ Growth.elementAttrs t) : a.key ∈ Tag.declaredNames t.source := by
  obtain ⟨b, hb, rfl⟩ := List.mem_map.mp (Attr.mem_of_mem_collapse ha)
  rw [← (spelled_keys_values (declaredNames_of_reports h)).1]
  exact List.mem_map.mpr ⟨b, hb, rfl⟩

theorem value_of_elementAttrs {t : Tag} {a : Attr} (ha : a ∈ Growth.elementAttrs t) : a.value ≠ none := by
  obtain ⟨b, -, rfl⟩ := List.mem_map.mp (Attr.mem_of_mem_collapse ha)
  exact Option.some_ne_none _

/-! ## Elements -/

/-- What a start tag can make: each key is a key, stands once, and has a value. -/
def WellFormed : Node → Prop
  | .text _ => True
  | .element name attrs _ =>
    IsParsedName name ∧ (∀ a ∈ attrs, IsKey a.key ∧ a.value ≠ none) ∧ (attrs.map (·.key)).Nodup

theorem makes_wellFormed {s : Text} {t : Tag} (h : Reports s (.startTag t)) : Growth.Makes WellFormed t := by
  have hattrs : ∀ a ∈ Growth.elementAttrs t, IsKey a.key ∧ a.value ≠ none := fun a ha =>
    ⟨isKey_of_declaredNames _ (key_of_elementAttrs h ha), value_of_elementAttrs ha⟩
  have hall : ∀ children, WellFormed (.element t.name (Growth.elementAttrs t) children) := fun _ =>
    ⟨isParsedName_of_reports h, hattrs, Attr.nodup_collapse _⟩
  unfold Growth.Makes
  split
  · exact hall []
  · exact fun children _ => hall children

theorem wellFormed_of_parse {s : Text} {f : Forest} (h : parse s = .ok f) : Every WellFormed f :=
  every_of_parse (fun _ => trivial) (fun _ => makes_wellFormed) h

theorem lexical_of_wellFormed {f : Forest} (h : Every WellFormed f) : Every Jsx.Lexical f := by
  intro n hn
  have hform := h n hn
  cases n with
  | text t => trivial
  | element name attrs children =>
    obtain ⟨⟨⟨c, tail, hname, -⟩, hends⟩, hattrs, -⟩ := hform
    refine ⟨by simp [hname], fun d hd => ⟨?_, ?_, ?_⟩, fun a ha => (hattrs a ha).1⟩
    · rintro rfl; exact hends ' ' (by decide) hd
    · rintro rfl; exact hends '/' (by decide) hd
    · rintro rfl; exact hends '>' (by decide) hd

/-- Whatever the markup, the elements of a document have names and keys that nothing ends early,
    keys of their own and a value for each. Its JSX is taken apart from left to right into
    tags and texts without a `<`, and the tags are balanced. -/
theorem parsed_forest_wellFormed {s : Text} {f : Forest} (h : parse s = .ok f) :
    (∀ name attrs children, .element name attrs children ∈ nodes f →
        ((∃ c tail, name = c :: tail ∧ 'a' ≤ c ∧ c ≤ 'z') ∧
            ∀ c ∈ ['\t', '\n', '\x0c', '\r', ' ', '/', '>', '\x00'], c ∉ name) ∧
          (∀ a ∈ attrs, IsKey a.key ∧ a.value ≠ none) ∧ (attrs.map (·.key)).Nodup) ∧
      ∃ jsx ts, convert s = .ok jsx ∧ Jsx.lex? jsx = some ts ∧ ts.flatMap Jsx.Token.written = jsx ∧
        (∀ raw, .text raw ∈ ts → '<' ∉ raw) ∧ Jsx.Balanced ts := by
  have hform := wellFormed_of_parse h
  have hlexical := lexical_of_wellFormed hform
  refine ⟨fun name attrs children hn => hform _ hn, Jsx.forest f, Jsx.tokens f, by rw [convert, h]; rfl,
    Jsx.lex?_forest hlexical, Jsx.written_tokens f, fun raw hraw => ?_, (Jsx.describes_tokens f).balanced⟩
  exact ((Jsx.row_tokens f hlexical).legible _ hraw).2

/-- `<A<b "=x B=1 B=2>c</p><br></br></a<b`: a name and a key of odd characters, a key given
    twice, end tags that close nothing, and one that is cut off. -/
def brokenTag : Text :=
  ['<', 'A', '<', 'b', ' ', '"', '=', 'x', ' ', 'B', '=', '1', ' ', 'B', '=', '2', '>', 'c', '<', '/', 'p', '>',
   '<', 'b', 'r', '>', '<', '/', 'b', 'r', '>', '<', '/', 'a', '<', 'b']

theorem parsed_forest_wellFormed_brokenTag :
    parse brokenTag = .ok [.element ['a', '<', 'b'] [⟨['"'], some ['x']⟩, ⟨['B'], some ['2']⟩]
      [.text ['c'], .element ['b', 'r'] [] [], .text ['<', '/', 'a', '<', 'b']]] ∧
      ∃ jsx ts, convert brokenTag = .ok jsx ∧ Jsx.lex? jsx = some ts ∧ ts.flatMap Jsx.Token.written = jsx ∧
        (∀ raw, .text raw ∈ ts → '<' ∉ raw) ∧ Jsx.Balanced ts := by
  have h : parse brokenTag = .ok [.element ['a', '<', 'b'] [⟨['"'], some ['x']⟩, ⟨['B'], some ['2']⟩]
      [.text ['c'], .element ['b', 'r'] [] [], .text ['<', '/', 'a', '<', 'b']]] := by
    with_unfolding_all rfl
  exact ⟨h, (parsed_forest_wellFormed h).2⟩

end MarkupJsx.Markup
