/-
  MarkupJsx.Proofs.Jsx.Reader — JSX read back into the forest that it is written for.

  A forest is lexical when no name and no key in it holds a character that would end it early.
  Texts and values may be anything, and so may be the place of an element. What is written for
  a lexical forest is a row of tokens (`row_tokens`, `written_tokens`) that describes its
  normal form (`describes_tokens`). The reader takes JSX apart and puts the tokens together
  with a stack of open elements. It finds that normal form again (`read?_forest`), so the JSX
  of a lexical forest determines its normal form, and what its texts and values hold has no
  part in which tags are found (`marks_tokens`).
-/

import MarkupJsx.Proofs.Jsx.Normal
import MarkupJsx.Proofs.Jsx.Token

namespace MarkupJsx.Jsx

open Markup (Attr Node Forest Every IsKey OpenElement tagEnd)

/-! ## Lexical forests -/

/-- No name and no key holds a character that ends it. -/
def Lexical : Node → Prop
  | .text _ => True
  | .element name as _ => name ≠ [] ∧ (∀ c ∈ name, c ≠ ' ' ∧ c ≠ '/' ∧ c ≠ '>') ∧ ∀ a ∈ as, IsKey a.key

theorem isKey_attrName {key : Text} (h : IsKey key) : IsKey (attrName key) := by
  have hrenamed : ∀ r ∈ renames, ∃ c tail, r.2 = c :: tail ∧ Markup.Tag.startsKey c = true ∧
      ∀ d ∈ tail, Markup.Tag.isKeyChar d = true := by
    intro r hr
    simp only [renames, List.mem_cons, List.not_mem_nil, or_false] at hr
    rcases hr with rfl | rfl <;> exact ⟨_, _, rfl, rfl, Text.forall_mem_of_all (by decide)⟩
  rcases attrName_cases key with ⟨r, hr, heq⟩ | heq
  · rw [heq]; exact hrenamed r hr
  · rwa [heq]

/-! ## The tokens of a forest -/

/-- The attributes that are written in a tag. -/
def pairs (as : List Attr) : List Pair := as.filterMap fun a => a.value.map fun v => ⟨attrName a.key, escape v⟩

/-- The attribute that a pair stands for. -/
def Pair.attr (p : Pair) : Attr := ⟨p.name, some (unescape p.raw)⟩

theorem written_pairs (as : List Attr) : (pairs as).flatMap Pair.written = attrs as := by
  induction as with
  | nil => rfl
  | cons a as ih =>
    obtain ⟨key, value⟩ := a
    unfold pairs attrs at ih
    cases value with
    | none => simpa [pairs, attrs, attr?] using ih
    | some v => simpa [pairs, attrs, attr?, Pair.written] using ih

theorem attr_pairs (as : List Attr) : (pairs as).map Pair.attr = normAttrs as := by
  induction as with
  | nil => rfl
  | cons a as ih =>
    obtain ⟨key, value⟩ := a
    unfold pairs normAttrs at ih
    cases value with
    | none => simpa [pairs, normAttrs] using ih
    | some v => simpa [pairs, normAttrs, Pair.attr, unescape_escape] using ih

theorem legible_pairs {as : List Attr} (h : ∀ a ∈ as, IsKey a.key) : ∀ p ∈ pairs as, p.Legible := by
  intro p hp
  obtain ⟨a, ha, hap⟩ := List.mem_filterMap.mp hp
  obtain ⟨v, -, rfl⟩ := Option.map_eq_some_iff.mp hap
  exact ⟨isKey_attrName (h a ha), (not_mem_escape v).2.2⟩

/-- A text in front of a row of tokens: it runs on into a text that begins the row. -/
def pushRaw (raw : Text) : List Token → List Token
  | .text raw' :: ts => .text (raw ++ raw') :: ts
  | ts => if raw = [] then ts else .text raw :: ts

mutual

/-- The tokens of a node in front of those of the nodes behind it. -/
def nodeTokens : Node → List Token → List Token
  | .text t, ts => pushRaw (escape t.trim) ts
  | .element name as children, ts =>
    if children.isEmpty && voidElements.contains name then .single name (pairs as) :: ts
    else .opener name (pairs as) :: tokens children ++ .closer name :: ts

def tokens : List Node → List Token
  | [] => []
  | n :: rest => nodeTokens n (tokens rest)

end

/-! ## What is written -/

theorem written_pushRaw (raw : Text) (ts : List Token) :
    (pushRaw raw ts).flatMap Token.written = raw ++ ts.flatMap Token.written := by
  unfold pushRaw
  split
  · simp [Token.written]
  · split
    · rename_i hnil
      rw [hnil, List.nil_append]
    · simp [Token.written]

mutual

theorem written_nodeTokens : ∀ (n : Node) (ts : List Token),
    (nodeTokens n ts).flatMap Token.written = node n ++ ts.flatMap Token.written
  | .text t, ts => written_pushRaw _ ts
  | .element name as children, ts => by
    rw [nodeTokens, node]
    split
    · simp [Token.written, written_pairs, tagEnd]
    · simp [Token.written, written_pairs, tagEnd, written_tokens children]

/-- A forest is written as its tokens are. -/
theorem written_tokens : ∀ f : List Node, (tokens f).flatMap Token.written = forest f
  | [] => rfl
  | n :: rest => by rw [tokens, written_nodeTokens n, written_tokens rest, forest]

end

/-! ## A row of tokens -/

theorem row_pushRaw {raw : Text} {ts : List Token} (hlt : '<' ∉ raw) (h : Row ts) : Row (pushRaw raw ts) := by
  unfold pushRaw
  split
  · cases h with
    | cons hlegible htext hts =>
      refine .cons ⟨?_, ?_⟩ htext hts
      · simp [hlegible.1]
      · simp [hlt, hlegible.2]
  · rename_i hnot
    split
    · exact h
    · rename_i hne
      refine .cons ⟨hne, hlt⟩ (fun _ t ht => ?_) h
      cases t with
      | text raw' =>
        obtain ⟨us, rfl⟩ := List.head?_eq_some_iff.mp ht
        exact absurd rfl (hnot raw' us)
      | opener => rfl
      | single => rfl
      | closer => rfl

theorem beginsWithTag_cons {t : Token} {ts : List Token} (h : t.isText = false) : BeginsWithTag (t :: ts) := by
  intro u hu
  cases hu
  exact h

mutual

theorem row_nodeTokens : ∀ (n : Node) {ts : List Token}, Every Lexical [n] → Row ts → Row (nodeTokens n ts)
  | .text t, ts, _, hts => row_pushRaw (not_mem_escape t.trim).1 hts
  | .element name as children, ts, h, hts => by
    obtain ⟨⟨-, hname, hkeys⟩, hchildren⟩ := Markup.every_element.mp h
    have hchars : ∀ c ∈ name, isTagChar c = true := by
      intro c hc
      obtain ⟨h1, h2, h3⟩ := hname c hc
      simp [isTagChar, h1, h2, h3]
    have hgt : '>' ∉ name := fun hmem => (hname '>' hmem).2.2 rfl
    have hpairs := legible_pairs hkeys
    rw [nodeTokens]
    split
    · exact .cons ⟨hchars, hpairs⟩ (fun hf => (by cases hf)) hts
    · have hcloser : Row (.closer name :: ts) := .cons hgt (fun hf => (by cases hf)) hts
      have hinner := (row_tokens children hchildren).append hcloser (beginsWithTag_cons rfl)
      exact .cons ⟨hchars, hpairs⟩ (fun hf => (by cases hf)) hinner

/-- The tokens of a lexical forest are told apart when they are written. -/
theorem row_tokens : ∀ f : List Node, Every Lexical f → Row (tokens f)
  | [], _ => .nil
  | n :: rest, h => by
    obtain ⟨hn, hrest⟩ := Markup.every_cons.mp h
    exact row_nodeTokens n hn (row_tokens rest hrest)

end

theorem lex?_forest {f : Forest} (h : Every Lexical f) : lex? (forest f) = some (tokens f) :=
  lex?_eq_some_iff.mpr ⟨row_tokens f h, written_tokens f⟩

/-! ## What the tokens describe -/

/-- The forest that a balanced row of tokens describes. -/
inductive Describes : List Token → Forest → Prop
  | nil : Describes [] []
  | text {ts : List Token} {f : Forest} (raw : Text) :
      Describes ts f → Describes (.text raw :: ts) (.text (unescape raw) :: f)
  | single {ts : List Token} {f : Forest} (name : Text) (ps : List Pair) :
      Describes ts f → Describes (.single name ps :: ts) (.element name (ps.map Pair.attr) [] :: f)
  | element {inner ts : List Token} {children f : Forest} (name : Text) (ps : List Pair) :
      Describes inner children → Describes ts f →
        Describes (.opener name ps :: inner ++ .closer name :: ts) (.element name (ps.map Pair.attr) children :: f)

theorem Describes.balanced {ts : List Token} {f : Forest} (h : Describes ts f) : Balanced ts := by
  induction h with
  | nil => exact .nil
  | text raw _ ih => exact .text raw ih
  | single name ps _ ih => exact .single name ps ih
  | element name ps _ _ ihInner ih => exact .element name ps ihInner ih

theorem describes_pushRaw {t : Text} {ts : List Token} {f : Forest} (h : Describes ts f) :
    Describes (pushRaw (escape t) ts) (pushText t f) := by
  have hfront : ∀ {ts : List Token} {f : Forest}, Describes ts f →
      Describes (if escape t = [] then ts else .text (escape t) :: ts) (if t = [] then f else .text t :: f) := by
    intro ts f h
    have hread : unescape (escape t) = t := unescape_escape t
    by_cases ht : t = []
    · subst ht
      exact h
    · have hne : escape t ≠ [] := by
        intro hnil
        rw [hnil] at hread
        exact ht hread.symm
      have := Describes.text (escape t) h
      rw [hread] at this
      simpa only [hne, ht, if_false] using this
  cases h with
  | nil => exact hfront .nil
  | single name ps h => exact hfront (.single name ps h)
  | element name ps hInner h => exact hfront (.element name ps hInner h)
  | text raw h =>
    have := Describes.text (escape t ++ raw) h
    rwa [unescape_escape_append] at this

mutual

theorem describes_nodeTokens : ∀ (n : Node) {ts : List Token} {f : Forest}, Describes ts f →
    Describes (nodeTokens n ts) (normNode n f)
  | .text t, _, _, h => describes_pushRaw h
  | .element name as children, ts, f, h => by
    rw [nodeTokens, normNode, ← attr_pairs]
    split
    · rename_i hself
      obtain rfl : children = [] := by
        simp only [Bool.and_eq_true, List.isEmpty_iff] at hself
        exact hself.1
      exact .single name (pairs as) h
    · exact .element name (pairs as) (describes_tokens children) h

/-- The tokens of a forest describe its normal form. -/
theorem describes_tokens : ∀ f : List Node, Describes (tokens f) (norm f)
  | [] => .nil
  | n :: rest => describes_nodeTokens n (describes_tokens rest)

end

/-! ## The reader -/

/-- Put tokens together: the elements that are open, innermost first, and the nodes so far in
    the innermost one. A closing tag must have the name of the innermost open element. -/
def assemble? : List OpenElement → Forest → List Token → Option Forest
  | [], siblings, [] => some siblings
  | _ :: _, _, [] => none
  | es, siblings, .text raw :: ts => assemble? es (siblings ++ [.text (unescape raw)]) ts
  | es, siblings, .single name ps :: ts => assemble? es (siblings ++ [.element name (ps.map Pair.attr) []]) ts
  | es, siblings, .opener name ps :: ts => assemble? (⟨name, ps.map Pair.attr, siblings⟩ :: es) [] ts
  | [], _, .closer _ :: _ => none
  | e :: es, siblings, .closer name :: ts =>
    if name = e.name then assemble? es (e.before ++ [.element e.name e.attrs siblings]) ts else none

/-- Read a text of JSX, to its end. -/
def read? (s : Text) : Option Forest := (lex? s).bind (assemble? [] [])

theorem assemble?_append {ts : List Token} {f : Forest} (h : Describes ts f) (es : List OpenElement) (siblings : Forest)
    (more : List Token) : assemble? es siblings (ts ++ more) = assemble? es (siblings ++ f) more := by
  induction h generalizing es siblings more with
  | nil => rw [List.nil_append, List.append_nil]
  | text raw _ ih => rw [List.cons_append, assemble?, ih, List.append_assoc, List.singleton_append]
  | single name ps _ ih => rw [List.cons_append, assemble?, ih, List.append_assoc, List.singleton_append]
  | @element inner ts children f name ps _ _ ihInner ih =>
    have hshape : (.opener name ps :: inner ++ .closer name :: ts) ++ more =
        .opener name ps :: (inner ++ .closer name :: (ts ++ more)) := by simp
    rw [hshape, assemble?, ihInner, assemble?, if_pos rfl, ih, List.nil_append, List.append_assoc, List.singleton_append]

theorem read?_forest {f : Forest} (h : Every Lexical f) : read? (forest f) = some (norm f) := by
  have hall := assemble?_append (describes_tokens f) [] [] []
  rw [List.append_nil, List.nil_append] at hall
  rw [read?, lex?_forest h, Option.bind_some, hall, assemble?]

/-! ## Tags without their values -/

/-- What a tag says but for the values in it. -/
inductive Mark where
  | opener (name : Text) (keys : List Text)
  | single (name : Text) (keys : List Text)
  | closer (name : Text)
  deriving DecidableEq, Repr

def Token.mark? : Token → Option Mark
  | text _ => none
  | opener name ps => some (.opener name (ps.map (·.name)))
  | single name ps => some (.single name (ps.map (·.name)))
  | closer name => some (.closer name)

/-- The keys that are written, as they are written. -/
def writtenKeys (as : List Attr) : List Text := (as.filter (·.value.isSome)).map (attrName ·.key)

mutual

/-- The tags of a node: neither texts nor values have a part in them. -/
def nodeOutline : Node → List Mark
  | .text _ => []
  | .element name as children =>
    if children.isEmpty && voidElements.contains name then [.single name (writtenKeys as)]
    else .opener name (writtenKeys as) :: outline children ++ [.closer name]

def outline : List Node → List Mark
  | [] => []
  | n :: rest => nodeOutline n ++ outline rest

end

theorem name_pairs (as : List Attr) : (pairs as).map (·.name) = writtenKeys as := by
  induction as with
  | nil => rfl
  | cons a as ih =>
    obtain ⟨key, value⟩ := a
    unfold pairs writtenKeys at ih
    cases value with
    | none => simpa [pairs, writtenKeys] using ih
    | some v => simpa [pairs, writtenKeys] using ih

theorem marks_pushRaw (raw : Text) (ts : List Token) : (pushRaw raw ts).filterMap Token.mark? = ts.filterMap Token.mark? := by
  unfold pushRaw
  split
  · rfl
  · split <;> rfl

mutual

theorem marks_nodeTokens : ∀ (n : Node) (ts : List Token),
    (nodeTokens n ts).filterMap Token.mark? = nodeOutline n ++ ts.filterMap Token.mark?
  | .text t, ts => marks_pushRaw _ ts
  | .element name as children, ts => by
    rw [nodeTokens, nodeOutline]
    split
    · simp [Token.mark?, name_pairs]
    · simp [Token.mark?, name_pairs, marks_tokens children]

theorem marks_tokens : ∀ f : List Node, (tokens f).filterMap Token.mark? = outline f
  | [] => rfl
  | n :: rest => by rw [tokens, marks_nodeTokens n, marks_tokens rest, outline]

end

/-- The JSX of a lexical forest determines the forest, as far as its normal form: the reader
    takes all of it apart into a balanced row of tokens, whose tags are those of the outline,
    and finds the normal form. So two such forests with the same JSX have the same normal
    form. -/
theorem jsx_determines_tree {f : Forest} (h : Every Lexical f) :
    (∃ ts, lex? (forest f) = some ts ∧ ts.flatMap Token.written = forest f ∧ Balanced ts ∧
        ts.filterMap Token.mark? = outline f) ∧
      read? (forest f) = some (norm f) ∧
      ∀ f', Every Lexical f' → forest f' = forest f → norm f' = norm f := by
  refine ⟨⟨tokens f, lex?_forest h, written_tokens f, (describes_tokens f).balanced, marks_tokens f⟩, read?_forest h, ?_⟩
  intro f' h' heq
  have hread := read?_forest h'
  rw [heq, read?_forest h] at hread
  exact (Option.some.inj hread).symm

/-- Keys that begin like a value and like a tag, values and texts that look like markup, a text
    that vanishes, and a void name with such a text in it. -/
def trickyForest : Forest :=
  [.text "</b> <br />".toList, .text [' '],
    .element "b\"=".toList [⟨['=', '"'], some "\" /><b x=\"&quot;".toList⟩, ⟨"class".toList, none⟩, ⟨['<'], some []⟩]
      [.text ['a', ' '], .text "&lt;".toList, .element "br".toList [] [.text [' ']]],
    .element "br".toList [⟨"for".toList, some ['>']⟩] []]

theorem jsx_determines_tree_tricky : Every Lexical trickyForest ∧
    read? (forest trickyForest) = some
      [.text "</b> <br />".toList,
        .element "b\"=".toList [⟨['=', '"'], some "\" /><b x=\"&quot;".toList⟩, ⟨['<'], some []⟩]
          [.text "a&lt;".toList, .element "br".toList [] []],
        .element "br".toList [⟨"htmlFor".toList, some ['>']⟩] []] := by
  have hkey : ∀ k ∈ [['=', '"'], "class".toList, ['<'], "for".toList], IsKey k := by
    intro k hk
    simp only [List.mem_cons, List.not_mem_nil, or_false] at hk
    rcases hk with rfl | rfl | rfl | rfl <;> exact ⟨_, _, rfl, rfl, Text.forall_mem_of_all (by decide)⟩
  have h : Every Lexical trickyForest := by
    intro n hn
    simp only [trickyForest, Markup.nodes, Markup.withInner, List.cons_append, List.nil_append, List.append_nil,
      List.mem_cons, List.not_mem_nil, or_false] at hn
    rcases hn with rfl | rfl | rfl | rfl | rfl | rfl | rfl | rfl
    · trivial
    · trivial
    · exact ⟨by decide, Text.forall_mem_of_all (by decide), fun a ha => hkey _ (by
        simp only [List.mem_cons, List.not_mem_nil, or_false] at ha; rcases ha with rfl | rfl | rfl <;> simp)⟩
    · trivial
    · trivial
    · exact ⟨by decide, Text.forall_mem_of_all (by decide), fun a ha => (by cases ha)⟩
    · trivial
    · exact ⟨by decide, Text.forall_mem_of_all (by decide), fun a ha => hkey _ (by
        simp only [List.mem_cons, List.not_mem_nil, or_false] at ha; subst ha; simp)⟩
  exact ⟨h, (jsx_determines_tree h).2.1⟩

end MarkupJsx.Jsx
