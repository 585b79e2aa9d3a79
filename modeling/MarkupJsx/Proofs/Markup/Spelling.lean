/-
  MarkupJsx.Proofs.Markup.Spelling — the attributes of a start tag keep the spelling of
  their names.

  The reader of a document lower-cases the names of attributes; the names as written come
  from a second reading of the tag's own text. The two always agree (`declaredNames_of_scan`),
  so that no attribute ever falls back to its lower-cased name: `spelled_of_reports`, for
  every start tag that the reading of any document reports, refused or not.
-/

import MarkupJsx.Proofs.Markup.Rest

namespace MarkupJsx.Markup

open Text (isLetter)

namespace Tag

theorem consumed_append {s rest : Text} (h : rest <:+ s) : consumed s rest ++ rest = s := by
  obtain ⟨u, rfl⟩ := h
  simp [consumed]

/-- The place behind a tag's name, past the gap. -/
def firstAttr (c : Char) (rest : Text) : Cursor :=
  let behind := Cursor.skip isNameChar ⟨c, rest⟩
  Cursor.skipGap behind.before behind.rest

theorem firstAttr_suffix (c : Char) (rest : Text) : (firstAttr c rest).rest <:+ rest :=
  (Cursor.skipGap_suffix ..).trans (Cursor.skip_suffix isNameChar ⟨c, rest⟩)

/-- A tag that is reported: its attributes as written up to its end, decoded, and its text
    up to there. -/
theorem scan_whole {c : Char} {rest after : Text} {t : Tag} (h : scan c rest = .ok (.whole t after)) :
    ∃ e, isTagEnd e ∧ (attrsFrom (firstAttr c rest)).2.rest = e ++ after ∧
      (attrsFrom (firstAttr c rest)).1.mapM decodeAttr = .ok t.attrs ∧
      t.source = consumed ('<' :: c :: rest) after ∧ t.name = Text.lower (c :: rest.takeWhile isNameChar) := by
  unfold scan at h
  dsimp only at h
  rw [show Cursor.skipGap _ _ = firstAttr c rest from rfl] at h
  cases hd : (attrsFrom (firstAttr c rest)).1.mapM decodeAttr with
  | error x =>
    rw [hd] at h
    split at h
    · cases h
    · cases h
    · cases h
    · split at h <;> cases h
  | ok attrs =>
    rw [hd] at h
    split at h
    · cases h
    · rename_i hstop; cases h; exact ⟨['>'], Or.inl rfl, hstop, rfl, rfl, rfl⟩
    · rename_i hstop; cases h; exact ⟨['/', '>'], Or.inr rfl, hstop, rfl, rfl, rfl⟩
    · split at h <;> cases h

/-- The text of a reported tag, in front of what follows it. -/
theorem source_of_scan {c : Char} {rest after : Text} {t : Tag} (h : scan c rest = .ok (.whole t after)) :
    ∃ inner, rest = inner ++ after ∧ t.source = '<' :: c :: inner ∧ '>' ∈ inner := by
  obtain ⟨e, he, hstop, -, hsource, -⟩ := scan_whole h
  have hsuffix : e ++ after <:+ rest := hstop ▸ (attrsFrom_suffix _).trans (firstAttr_suffix c rest)
  obtain ⟨inner, rfl⟩ := (List.suffix_append e after).trans hsuffix
  refine ⟨inner, rfl, ?_, mem_of_isTagEnd_suffix he (List.suffix_append_self_iff.mp hsuffix)⟩
  rw [hsource]
  exact List.append_cancel_right (consumed_append (List.suffix_append ('<' :: c :: inner) after))

/-- The names in the tag's own text are those that were read in the document. -/
theorem declaredNames_of_scan {c : Char} {rest after : Text} {t : Tag} (hc : isLetter c = true)
    (h : scan c rest = .ok (.whole t after)) :
    declaredNames t.source = (attrsFrom (firstAttr c rest)).1.map (·.key) := by
  obtain ⟨e, he, hstop, -⟩ := scan_whole h
  obtain ⟨inner, rfl, hsource, hgt⟩ := source_of_scan h
  have hname : Cursor.skip isNameChar ⟨c, inner ++ after⟩ = (Cursor.skip isNameChar ⟨c, inner⟩).extend after :=
    Cursor.skip_extend (c := ⟨c, inner⟩) hgt rfl
  have hfirst : firstAttr c (inner ++ after) = (firstAttr c inner).extend after := by
    unfold firstAttr
    rw [hname]
    exact Cursor.skipGap_extend (Text.mem_dropWhile hgt rfl)
  rw [hfirst] at hstop ⊢
  rw [← keysFrom_eq_attrsFrom he hstop, hsource, declaredNames, if_pos hc]
  exact (keysFrom_skipGap _ _).symm

/-! ## Lower-cased names -/

theorem decodeAttr_key {a b : Attr} (h : decodeAttr a = .ok b) : b.key = a.key.lower := by
  unfold decodeAttr at h
  split at h
  · cases h; rfl
  · rename_i v _
    cases hv : Entity.decodeValue v with
    | error x => rw [hv] at h; cases h
    | ok w => rw [hv] at h; cases h; rfl

theorem mapM_decodeAttr_cons {a : Attr} {as bs : List Attr} (h : (a :: as).mapM decodeAttr = .ok bs) :
    ∃ b rest, decodeAttr a = .ok b ∧ as.mapM decodeAttr = .ok rest ∧ bs = b :: rest := by
  rw [List.mapM_cons] at h
  cases ha : decodeAttr a with
  | error x => rw [ha] at h; cases h
  | ok b =>
    cases has : as.mapM decodeAttr with
    | error x => rw [ha, has] at h; cases h
    | ok rest => rw [ha, has] at h; cases h; exact ⟨b, rest, rfl, rfl, rfl⟩

theorem decoded_keys {as bs : List Attr} (h : as.mapM decodeAttr = .ok bs) :
    (as.map (·.key)).map Text.lower = bs.map (·.key) := by
  induction as generalizing bs with
  | nil => cases h; rfl
  | cons a as ih =>
    obtain ⟨b, rest, hb, hrest, rfl⟩ := mapM_decodeAttr_cons h
    rw [List.map_cons, List.map_cons, List.map_cons, ih hrest, decodeAttr_key hb]

/-- With names that lower-case to the keys, each attribute takes its name. -/
theorem zipWith_spelled {names : List Text} {as : List Attr} (h : names.map Text.lower = as.map (·.key)) :
    names.zipWith (fun name a => if name.lower = a.key then ⟨name, a.value⟩ else a) as =
      names.zipWith (fun name a => Attr.mk name a.value) as := by
  induction names generalizing as with
  | nil => rfl
  | cons n names ih =>
    cases as with
    | nil => rfl
    | cons a as =>
      rw [List.map_cons, List.map_cons, List.cons.injEq] at h
      rw [List.zipWith_cons_cons, List.zipWith_cons_cons, if_pos h.1, ih h.2]

theorem spelled_eq {t : Tag} (h : (declaredNames t.source).map Text.lower = t.attrs.map (·.key)) :
    t.spelled = (declaredNames t.source).zipWith (fun name a => Attr.mk name a.value) t.attrs := by
  have hlen : (declaredNames t.source).length = t.attrs.length := by simpa using congrArg List.length h
  unfold spelled
  rw [if_pos hlen, zipWith_spelled h]

theorem respelled {names : List Text} {as : List Attr} (h : names.length = as.length) :
    (names.zipWith (fun name a => Attr.mk name a.value) as).map (·.key) = names ∧
      (names.zipWith (fun name a => Attr.mk name a.value) as).map (·.value) = as.map (·.value) := by
  induction names generalizing as with
  | nil =>
    cases as with
    | nil => exact ⟨rfl, rfl⟩
    | cons a as => cases h
  | cons n names ih =>
    cases as with
    | nil => cases h
    | cons a as =>
      obtain ⟨hkeys, hvalues⟩ := ih (Nat.succ.inj h)
      rw [List.zipWith_cons_cons, List.map_cons, List.map_cons, List.map_cons, hkeys, hvalues]
      exact ⟨rfl, rfl⟩

theorem declaredNames_inOrder (tag : Text) : InOrder (declaredNames tag) tag := by
  unfold declaredNames
  split
  · rename_i c rest
    split
    · have hs : (Cursor.skip isNameChar ⟨c, rest⟩).rest <:+ '<' :: c :: rest :=
        (Cursor.skip_suffix isNameChar ⟨c, rest⟩).trans ((List.suffix_cons c rest).trans (List.suffix_cons '<' _))
      exact (keysFrom_inOrder _).of_suffix hs
    · exact .nil _
  · exact .nil _

end Tag

/-! ## Every reported start tag -/

/-- The text of a reported tag stands in the document. -/
theorem source_of_reports {s : Text} {t : Tag} (h : Reports s (.startTag t)) : t.source <:+: s := by
  obtain ⟨final, c, more, rest, hreach, -, hscan⟩ := startTag_of_reports h
  obtain ⟨inner, rfl, hsource, -⟩ := Tag.source_of_scan hscan
  have hprefix : t.source <+: '<' :: c :: (inner ++ rest) := ⟨rest, by rw [hsource]; rfl⟩
  exact hprefix.isInfix.trans (suffix_of_reaches hreach).isInfix

/-- The two readings of a start tag agree, name by name and in number. -/
theorem declaredNames_of_reports {s : Text} {t : Tag} (h : Reports s (.startTag t)) :
    (Tag.declaredNames t.source).map Text.lower = t.attrs.map (·.key) := by
  obtain ⟨_, c, more, rest, -, hc, hscan⟩ := startTag_of_reports h
  obtain ⟨-, -, -, hdecoded, -⟩ := Tag.scan_whole hscan
  rw [Tag.declaredNames_of_scan hc hscan, Tag.decoded_keys hdecoded]

/-- The names and values of a tag's attributes, where the two readings agree. -/
theorem spelled_keys_values {t : Tag} (h : (Tag.declaredNames t.source).map Text.lower = t.attrs.map (·.key)) :
    t.spelled.map (·.key) = Tag.declaredNames t.source ∧ t.spelled.map (·.value) = t.attrs.map (·.value) := by
  have hlen : (Tag.declaredNames t.source).length = t.attrs.length := by simpa using congrArg List.length h
  rw [Tag.spelled_eq h]
  exact Tag.respelled hlen

/-- A reported start tag is text of the document, and its names as written agree with the
    reported ones in number and one by one. So its attributes are the reported ones, with
    their values and in their order, each under its name as the document spells it. -/
theorem spelled_of_reports {s : Text} {t : Tag} (h : Reports s (.startTag t)) :
    t.source <:+: s ∧ (Tag.declaredNames t.source).length = t.attrs.length ∧
      (Tag.declaredNames t.source).map Text.lower = t.attrs.map (·.key) ∧
      t.spelled = (Tag.declaredNames t.source).zipWith (fun name a => ⟨name, a.value⟩) t.attrs ∧
      t.spelled.map (·.key) = Tag.declaredNames t.source ∧ t.spelled.map (·.value) = t.attrs.map (·.value) ∧
      InOrder (t.spelled.map (·.key)) t.source := by
  have hkeys := declaredNames_of_reports h
  have hlen : (Tag.declaredNames t.source).length = t.attrs.length := by simpa using congrArg List.length hkeys
  obtain ⟨hnames, hvalues⟩ := spelled_keys_values hkeys
  exact ⟨source_of_reports h, hlen, hkeys, Tag.spelled_eq hkeys, hnames, hvalues,
    hnames ▸ Tag.declaredNames_inOrder t.source⟩

/-- The tag `<a B='c' d>`. -/
def mixedTag : Tag :=
  ⟨['<', 'a', ' ', 'B', '=', '\'', 'c', '\'', ' ', 'd', '>'], ['a'], [⟨['b'], some ['c']⟩, ⟨['d'], none⟩], false⟩

theorem spelled_mixedTag : Reports mixedTag.source (.startTag mixedTag) ∧
    mixedTag.spelled.map (·.key) = [['B'], ['d']] := by
  have h : Reports mixedTag.source (.startTag mixedTag) := by
    have hstep : step false none '<' mixedTag.source.tail = .ok (.on [.startTag mixedTag] none []) := by
      with_unfolding_all rfl
    exact .step .start hstep List.mem_cons_self
  exact ⟨h, (spelled_of_reports h).2.2.2.2.1.trans (by with_unfolding_all rfl)⟩

end MarkupJsx.Markup
