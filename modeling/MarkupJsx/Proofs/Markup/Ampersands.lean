/-
  MarkupJsx.Proofs.Markup.Ampersands — texts in which no ampersand begins a reference.

  Such an ampersand is literal only in part. Where a name stands behind it, a semicolon that
  ends the name is lost; and at the end of a document an ampersand in front of a last letter
  is. A text is taken up piece by piece, a character, an ampersand or a name at a time
  (`ReadsPiece`), and so it is read as what is heard of it (`heard`, `read_text`).

  Where a number sign stands behind it, it stops a pass. The first pass stops at the first
  such place and leaves it all to the last one when no semicolon is to come, which stops
  there too; if one is to come, the last pass begins behind the two, and stops at the next
  such place. Whatever is left there is text, be it markup or not: `divide` tells the part
  that is read from the part that is not (`read_divided`).
-/

import Mathlib.Data.List.Infix
import MarkupJsx.Proofs.Markup.Reading
import MarkupJsx.Proofs.Text.Trim

namespace MarkupJsx.Markup

open Text (isBlank isLetter isDigit isHexDigit isAlphanumeric)
open Entity (isNameChar)

/-! ## References -/

def startsName (s : Text) : Bool := s.head?.any isLetter

/-- The longest name at the head of a text. -/
def nameRun (s : Text) : Text := if startsName s then s.takeWhile isNameChar else []

/-- A decimal digit, or an x and a hexadecimal one. -/
def startsNumber : Text → Bool
  | [] => false
  | d :: more => isDigit d || ((d == 'x' || d == 'X') && more.head?.any isHexDigit)

/-- An ampersand in front of this text begins a reference to a character: by number, or by a
    known name that the run of name characters is or begins with. -/
def Refers (s : Text) : Prop :=
  (s.head? = some '#' ∧ startsNumber s.tail = true) ∨ ∃ name, name <+: nameRun s ∧ (Entity.find? name).isSome = true

instance : DecidablePred Refers := fun s =>
  decidable_of_iff
    ((s.head? = some '#' ∧ startsNumber s.tail = true) ∨ ∃ name ∈ (nameRun s).inits, (Entity.find? name).isSome = true)
    (by simp only [Refers, List.mem_inits])

/-- No ampersand of the text begins a reference. -/
def RefersNowhere : Text → Prop
  | [] => True
  | c :: s => (c = '&' → ¬Refers s) ∧ RefersNowhere s

instance decidableRefersNowhere : DecidablePred RefersNowhere
  | [] => isTrue trivial
  | c :: s =>
    have := decidableRefersNowhere s
    inferInstanceAs (Decidable ((c = '&' → ¬Refers s) ∧ RefersNowhere s))

variable {s t u v rest : Text} {c : Char}

theorem RefersNowhere.of_append (h : RefersNowhere (s ++ t)) : RefersNowhere t := by
  induction s with
  | nil => exact h
  | cons c s ih => exact ih h.2

theorem nameRun_prefix_append (s t : Text) : nameRun s <+: nameRun (s ++ t) := by
  cases s with
  | nil => exact List.nil_prefix
  | cons d s =>
    unfold nameRun
    split
    · rename_i hd
      rw [if_pos (show startsName (d :: s ++ t) = true from hd)]
      exact Text.takeWhile_prefix_append ..
    · exact List.nil_prefix

theorem startsNumber_append (h : startsNumber s = true) (t : Text) : startsNumber (s ++ t) = true := by
  match s, h with
  | [d], h =>
    have hd : isDigit d = true := by simpa [startsNumber] using h
    simp [startsNumber, hd]
  | d :: e :: more, h => exact h

/-- What begins a reference does so whatever follows. -/
theorem Refers.append (h : Refers s) (t : Text) : Refers (s ++ t) := by
  rcases h with ⟨hsign, hnumber⟩ | ⟨name, hname, hfind⟩
  · obtain ⟨d, s, rfl⟩ := List.exists_cons_of_ne_nil (show s ≠ [] by rintro rfl; cases hsign)
    exact .inl ⟨hsign, startsNumber_append hnumber t⟩
  · exact .inr ⟨name, hname.trans (nameRun_prefix_append s t), hfind⟩

theorem RefersNowhere.of_prefix (h : RefersNowhere (s ++ t)) : RefersNowhere s := by
  induction s with
  | nil => trivial
  | cons c s ih => exact ⟨fun hc hr => h.1 hc (hr.append t), ih h.2⟩

/-- Where no number starts none is scanned, in front of a tag or the end. -/
theorem scan?_of_not_startsNumber (h : startsNumber s = false) (hrest : ∀ c ∈ rest.head?, c = '<') :
    Entity.Numeric.scan? (s ++ rest) = none := by
  cases s with
  | nil =>
    cases rest with
    | nil => rfl
    | cons d rest =>
      obtain rfl := hrest d rfl
      rfl
  | cons d more =>
    simp only [startsNumber, Bool.or_eq_false_iff] at h
    obtain ⟨hdigit, hhex⟩ := h
    unfold Entity.Numeric.scan?
    simp only [List.cons_append]
    split
    · rename_i hx
      have hd : d = 'x' ∨ d = 'X' := by simpa using hx
      have hends : Text.Ends isHexDigit (more ++ rest) := by
        cases more with
        | nil => exact fun c hc => by rw [hrest c hc]; rfl
        | cons e more => rcases hd with rfl | rfl <;> simpa using hhex
      rw [Text.takeWhile_of_ends hends]
      rfl
    · simp only [hdigit, Bool.false_eq_true, if_false]

/-! ## Names -/

/-- The text is one letter. -/
def isLoneLetter : Text → Bool
  | [c] => isLetter c
  | _ => false

/-- What is heard of a text in which no ampersand begins a reference, `named` when it goes on
    a name behind an ampersand, and `last` when it is the end of the document. -/
def heard (last : Bool) : Bool → Text → Text
  | _, [] => []
  | named, c :: s =>
    if c = '&' then (if last && isLoneLetter s then [] else ['&']) ++ heard last (startsName s) s
    else if named && c == ';' then heard last false s
    else c :: heard last (named && isNameChar c) s

variable {last named final : Bool}

theorem heard_char (h : c ≠ '&') : heard last false (c :: s) = c :: heard last false s := by
  simp [heard, h]

theorem heard_ampersand (h : (last && isLoneLetter s) = false) :
    heard last named ('&' :: s) = '&' :: heard last (startsName s) s := by
  simp only [heard, if_true, h, Bool.false_eq_true, if_false, List.singleton_append]

theorem isNameChar_of_isLetter (h : isLetter c = true) : isNameChar c = true := by
  simp [isNameChar, isAlphanumeric, h]

theorem ne_of_isNameChar (h : isNameChar c = true) : c ≠ '&' ∧ c ≠ ';' ∧ c ≠ '<' := by
  refine ⟨?_, ?_, ?_⟩ <;> rintro rfl <;> exact absurd h (by decide)

/-- A name behind an ampersand that does not begin a reference: neither it nor what it begins
    with is known. -/
theorem exists_name (h : startsName s = true) (hrefers : ¬Refers s) :
    ∃ d name after, s = d :: (name ++ after) ∧ isLetter d = true ∧ (∀ c ∈ name, isNameChar c = true) ∧
      Text.Ends isNameChar after ∧ ∀ p, p <+: d :: name → Entity.find? p = none := by
  cases s with
  | nil => cases h
  | cons d more =>
    have hrun : nameRun (d :: more) = d :: more.takeWhile isNameChar := by
      rw [nameRun, if_pos h, List.takeWhile_cons_of_pos (isNameChar_of_isLetter h)]
    have hchars : ∀ c ∈ more.takeWhile isNameChar, isNameChar c = true := List.all_eq_true.mp (List.all_takeWhile ..)
    refine ⟨d, more.takeWhile isNameChar, more.dropWhile isNameChar, ?_, h, hchars, Text.ends_dropWhile _, fun p hp => ?_⟩
    · rw [List.takeWhile_append_dropWhile]
    · cases hfind : Entity.find? p with
      | none => rfl
      | some t => exact absurd (.inr ⟨p, hrun ▸ hp, by rw [hfind]; rfl⟩) hrefers

theorem heard_name (hname : ∀ c ∈ s, isNameChar c = true) (t : Text) :
    heard last true (s ++ t) = s ++ heard last true t := by
  induction s with
  | nil => rfl
  | cons c s ih =>
    obtain ⟨hc, hs⟩ := List.forall_mem_cons.mp hname
    obtain ⟨hamp, hsemi, -⟩ := ne_of_isNameChar hc
    simp [heard, hamp, hsemi, hc, ih hs]

/-- Behind a name a semicolon is lost. -/
theorem heard_behind_name (h : Text.Ends isNameChar s) :
    heard last true s = heard last false (Entity.dropSemicolon s) := by
  cases s with
  | nil => rfl
  | cons c s =>
    have hc : isNameChar c = false := Text.ends_cons.mp h
    by_cases hsemi : c = ';'
    · subst hsemi
      simp [heard, Entity.dropSemicolon]
    · have hdrop : Entity.dropSemicolon (c :: s) = c :: s := by simp [Entity.dropSemicolon, hsemi]
      rw [hdrop]
      simp [heard, hsemi, hc]

/-- At the end of the document. -/
theorem heard_last_name {d : Char} {name : Text} (hd : isLetter d = true) (hname : ∀ c ∈ name, isNameChar c = true) :
    heard true false ('&' :: d :: name) = if name = [] then [d] else '&' :: d :: name := by
  have hall : ∀ c ∈ d :: name, isNameChar c = true := List.forall_mem_cons.mpr ⟨isNameChar_of_isLetter hd, hname⟩
  have hrun : heard true true (d :: name) = d :: name := by
    have h : heard true true (d :: name ++ []) = d :: name ++ heard true true [] := heard_name hall []
    rw [List.append_nil] at h
    exact h.trans (List.append_nil _)
  have hstarts : startsName (d :: name) = true := hd
  cases name with
  | nil =>
    simp only [heard, if_true, hstarts, isLoneLetter, hd, Bool.and_self, List.nil_append] at hrun ⊢
    exact hrun
  | cons e name => rw [heard_ampersand rfl, hstarts, hrun, if_neg (List.cons_ne_nil e name)]

/-! ## Marks -/

/-- What stands before the first ampersand with a number sign behind it, and what behind the
    two. -/
def cutMark? : Text → Option (Text × Text)
  | [] => none
  | c :: s => if c = '&' ∧ s.head? = some '#' then some ([], s.tail) else (cutMark? s).map fun (u, v) => (c :: u, v)

theorem cutMark?_cons (h : cutMark? (c :: s) = none) : ¬(c = '&' ∧ s.head? = some '#') ∧ cutMark? s = none := by
  unfold cutMark? at h
  split at h
  · cases h
  · rename_i hc
    exact ⟨hc, Option.map_eq_none_iff.mp h⟩

theorem cutMark?_of_append (h : cutMark? (s ++ t) = none) : cutMark? t = none := by
  induction s with
  | nil => exact h
  | cons c s ih => exact ih (cutMark?_cons h).2

theorem cutMark?_eq_some (h : cutMark? s = some (u, v)) : s = u ++ '&' :: '#' :: v ∧ cutMark? u = none := by
  induction s generalizing u with
  | nil => cases h
  | cons c s ih =>
    unfold cutMark? at h
    split at h
    · rename_i hc
      obtain ⟨rfl, hsign⟩ := hc
      obtain ⟨d, s, rfl⟩ := List.exists_cons_of_ne_nil (show s ≠ [] by rintro rfl; cases hsign)
      obtain rfl : d = '#' := Option.some.inj hsign
      cases h
      exact ⟨rfl, rfl⟩
    · rename_i hc
      obtain ⟨⟨u', v'⟩, hcut, heq⟩ := Option.map_eq_some_iff.mp h
      obtain ⟨rfl, rfl⟩ := Prod.mk.inj heq
      obtain ⟨rfl, hnone⟩ := ih hcut
      refine ⟨rfl, ?_⟩
      have hhead : ¬(c = '&' ∧ u'.head? = some '#') := by
        rintro ⟨rfl, hsign⟩
        refine hc ⟨rfl, ?_⟩
        rw [List.head?_append, hsign]
        rfl
      rw [cutMark?, if_neg hhead, hnone]
      rfl

theorem isLoneLetter_append (s t : Text) : isLoneLetter (s ++ '&' :: '#' :: t) = false := by
  match s with
  | [] | [_] | _ :: _ :: _ => rfl

theorem startsName_append (s t : Text) : startsName (s ++ '&' :: t) = startsName s := by
  cases s <;> rfl

/-- A mark is heard, and parts what is heard. -/
theorem heard_mark (s t : Text) (last named : Bool) :
    heard last named (s ++ '&' :: '#' :: t) = heard false named s ++ '&' :: '#' :: heard last false t := by
  induction s generalizing named with
  | nil =>
    have hsign : isLoneLetter ('#' :: t) = false := by cases t <;> rfl
    have hstarts : startsName ('#' :: t) = false := rfl
    rw [List.nil_append, heard_ampersand (by rw [hsign, Bool.and_false]), hstarts, heard_char (by decide)]
    rfl
  | cons c s ih =>
    have hlone := isLoneLetter_append s t
    by_cases hamp : c = '&'
    · subst hamp
      rw [List.cons_append, heard_ampersand (by rw [hlone, Bool.and_false]), heard_ampersand rfl,
        startsName_append, ih]
      rfl
    · simp only [List.cons_append, heard, hamp, if_false, ih]
      split <;> rfl

/-- A text as it is divided when a text is behind it: the part that is read, and the part that
    is not. -/
def divide (behind t : Text) : Text × Text :=
  match cutMark? t with
  | none => (t, [])
  | some (u, v) =>
    if ';' ∈ v ++ behind then
      match cutMark? v with
      | none => (t, [])
      | some (u', v') => (u ++ '&' :: '#' :: u', '&' :: '#' :: v')
    else (u, '&' :: '#' :: v)

theorem append_divide (behind t : Text) : (divide behind t).1 ++ (divide behind t).2 = t := by
  unfold divide
  split
  · exact List.append_nil t
  · rename_i u v hcut
    obtain ⟨rfl, -⟩ := cutMark?_eq_some hcut
    split
    · split
      · exact List.append_nil _
      · rename_i u' v' hcut'
        obtain ⟨rfl, -⟩ := cutMark?_eq_some hcut'
        simp
    · rfl

/-! ## Reading texts -/

namespace Growth

variable {g : Growth}

theorem isPlain_of_isNameChar (h : isNameChar c = true) : isPlain c = true := by
  obtain ⟨hamp, -, hlt⟩ := ne_of_isNameChar h
  exact isPlain_iff.mpr ⟨hlt, hamp⟩

/-- A name that something ends is read with what ends it. -/
theorem read_name {d : Char} {name : Text} (hd : isLetter d = true) (hname : ∀ c ∈ name, isNameChar c = true)
    (hends : Text.Ends isNameChar s) (hne : s ≠ []) (hfind : Entity.find? (d :: name) = none) :
    g.read final ('&' :: d :: (name ++ s)) = (g.write ('&' :: d :: name)).read final (Entity.dropSemicolon s) := by
  have hall : ∀ c ∈ d :: name, isNameChar c = true := List.forall_mem_cons.mpr ⟨isNameChar_of_isLetter hd, hname⟩
  obtain ⟨e, more, rfl⟩ := List.exists_cons_of_ne_nil hne
  have hin : Entity.nameInText? (d :: (name ++ e :: more)) = some (d :: name, e :: more) := by
    have htake := Text.takeWhile_run hall hends
    have hdrop := Text.dropWhile_run hall hends
    rw [List.cons_append] at htake hdrop
    simp only [Entity.nameInText?, hd, if_true, htake, hdrop]
  rw [read_named hd hin, Entity.named, hfind]
  rfl

/-- At the end of the document nothing ends a name. It goes up to its last hyphen or period,
    or it is none. -/
theorem nameInText?_last {d : Char} {name : Text} (hd : isLetter d = true) (hname : ∀ c ∈ name, isNameChar c = true) :
    Entity.nameInText? (d :: name) = none ∨
      ∃ before x tail, Entity.nameInText? (d :: name) = some (before, x :: tail) ∧ d :: name = before ++ x :: tail ∧
        name ≠ [] := by
  have hall : ∀ c ∈ d :: name, isNameChar c = true := List.forall_mem_cons.mpr ⟨isNameChar_of_isLetter hd, hname⟩
  have hdrop : (d :: name).dropWhile isNameChar = [] := by simpa using Text.dropWhile_run hall Text.ends_nil
  cases hlast : (d :: name).reverse.dropWhile isAlphanumeric with
  | nil => exact .inl (by simp only [Entity.nameInText?, hd, if_true, hdrop, hlast])
  | cons x before =>
    obtain ⟨tail, hsplit⟩ : ∃ tail, d :: name = before.reverse ++ x :: tail := by
      have hreverse := List.takeWhile_append_dropWhile (p := isAlphanumeric) (l := (d :: name).reverse)
      rw [hlast] at hreverse
      exact ⟨((d :: name).reverse.takeWhile isAlphanumeric).reverse, by simpa using (congrArg List.reverse hreverse).symm⟩
    refine .inr ⟨before.reverse, x, tail, ?_, hsplit, ?_⟩
    · simp only [Entity.nameInText?, hd, if_true, hdrop, hlast]
      rw [hsplit, List.drop_left' (List.length_reverse ..)]
    · rintro rfl
      have halphanumeric : isAlphanumeric d = true := by simp [isAlphanumeric, hd]
      simp [halphanumeric] at hlast

/-- So it is read as it stands; only of a single letter the ampersand is lost. -/
theorem read_last_name {d : Char} {name : Text} (hd : isLetter d = true) (hname : ∀ c ∈ name, isNameChar c = true)
    (hfind : ∀ p, p <+: d :: name → Entity.find? p = none) :
    g.read final ('&' :: d :: name) = .ok (g.write (if name = [] then [d] else '&' :: d :: name)) := by
  rcases nameInText?_last hd hname with hin | ⟨before, x, tail, hin, hsplit, hmany⟩
  · have hstep (final : Bool) : Markup.step final none '&' (d :: name) =
        .ok (if final && name.isEmpty then .stop [] (d :: name) else .stop [] ('&' :: d :: name)) := by
      rw [step_letter hd, hin]
    cases name with
    | cons e name => exact read_of_stops fun final => by rw [hstep final, List.isEmpty_cons, Bool.and_false]; rfl
    | nil =>
      have hread : g.read true ['&', d] = .ok (g.write [d]) := read_of_stop_last (hstep true) (List.cons_ne_nil d [])
      cases final with
      | true => exact hread
      | false => exact (read_of_stop_first (hstep false)).trans hread
  · have hall : ∀ c ∈ d :: name, isNameChar c = true := List.forall_mem_cons.mpr ⟨isNameChar_of_isLetter hd, hname⟩
    have hrest : ∀ c ∈ x :: tail, isNameChar c = true := fun c hc =>
      hall c (by rw [hsplit]; exact List.mem_append_right _ hc)
    have hplain : ∀ c ∈ x :: tail, isPlain c = true := fun c hc => isPlain_of_isNameChar (hrest c hc)
    have hkept : Entity.dropSemicolon (x :: tail) = x :: tail := by
      simp [Entity.dropSemicolon, (ne_of_isNameChar (hrest x (List.mem_cons_self ..))).2.1]
    have hunknown : Entity.find? before = none := hfind _ (by rw [hsplit]; exact List.prefix_append ..)
    have hread : (g.write ('&' :: before)).read final (x :: tail) = .ok (g.write ('&' :: d :: name)) := by
      rw [← List.append_nil (x :: tail), read_plain hplain, read_nil, write_write, List.cons_append, ← hsplit]
    rw [read_named hd hin, hkept, Entity.named, hunknown, if_neg hmany]
    exact hread

theorem opensNoReference_append (hname : startsName s = false) (hsign : s.head? ≠ some '#')
    (hrest : ∀ c ∈ rest.head?, c = '<' ∨ c = '&') : OpensNoReference (s ++ rest) := by
  cases s with
  | nil =>
    intro d hd
    rcases hrest d hd with rfl | rfl <;> exact ⟨rfl, by decide⟩
  | cons d s =>
    intro e he
    obtain rfl : d = e := Option.some.inj he
    exact ⟨hname, fun heq => hsign (by rw [heq]; rfl)⟩

theorem dropSemicolon_append (hrest : ∀ c ∈ rest.head?, c ≠ ';') :
    Entity.dropSemicolon (s ++ rest) = Entity.dropSemicolon s ++ rest := by
  cases s with
  | nil =>
    cases rest with
    | nil => rfl
    | cons d rest => simp [Entity.dropSemicolon, hrest d rfl]
  | cons c s => by_cases hc : c = ';' <;> simp [Entity.dropSemicolon, hc]

theorem exists_append_dropSemicolon (s : Text) : ∃ p, s = p ++ Entity.dropSemicolon s := by
  unfold Entity.dropSemicolon
  split
  · exact ⟨[';'], rfl⟩
  · exact ⟨[], rfl⟩

/-- A piece of the text `s` is read and heard as `w`, and `q` is what is still to come of it
    in front of the rest. -/
structure ReadsPiece (final : Bool) (rest s w q : Text) : Prop where
  before : ∃ c p, s = c :: p ++ q
  read (g : Growth) : g.read final (s ++ rest) = (g.write w).read final (q ++ rest)
  heard : heard rest.isEmpty false s = w ++ heard rest.isEmpty false q

theorem readsPiece_char (hc : isPlain c = true) : ReadsPiece final rest (c :: s) [c] s where
  before := ⟨c, [], rfl⟩
  read _ := read_char hc (s ++ rest)
  heard := heard_char (isPlain_iff.mp hc).2

theorem readsPiece_ampersand (hname : startsName s = false) (hsign : s.head? ≠ some '#')
    (hrest : ∀ c ∈ rest.head?, c = '<' ∨ c = '&') : ReadsPiece final rest ('&' :: s) ['&'] s where
  before := ⟨'&', [], rfl⟩
  read _ := read_ampersand (opensNoReference_append hname hsign hrest)
  heard := by
    have hlone : isLoneLetter s = false := by
      match s, hname with
      | [], _ => rfl
      | [_], h => exact h
      | _ :: _ :: _, _ => rfl
    rw [heard_ampersand (by rw [hlone, Bool.and_false]), hname]
    rfl

/-- A name with something behind it, be it the end of the text; or one at the end of the
    document. -/
theorem readsPiece_name (hname : startsName s = true) (hrefers : ¬Refers s)
    (hrest : ∀ c ∈ rest.head?, c = '<' ∨ c = '&') : ∃ w q, ReadsPiece final rest ('&' :: s) w q := by
  obtain ⟨d, name, after, rfl, hd, hchars, hends, hfind⟩ := exists_name hname hrefers
  by_cases hlast : after ++ rest = []
  · obtain ⟨rfl, rfl⟩ := List.append_eq_nil_iff.mp hlast
    refine ⟨_, [], ⟨'&', d :: name, by simp⟩, fun g => ?_, (List.append_nil _).symm⟩
    simp only [List.append_nil, List.isEmpty_nil]
    rw [read_last_name hd hchars hfind, heard_last_name hd hchars, read_nil]
  · have hbehind : Text.Ends isNameChar (after ++ rest) := by
      refine hends.append fun c hc => ?_
      rcases hrest c hc with rfl | rfl <;> rfl
    have hlone : (rest.isEmpty && isLoneLetter (d :: (name ++ after))) = false := by
      cases hmore : name ++ after with
      | cons _ _ => exact Bool.and_false _
      | nil =>
        have hnil := (List.append_eq_nil_iff.mp hmore).2
        have hne : rest ≠ [] := fun hrest => hlast (by rw [hnil, hrest]; rfl)
        simp [hne]
    have hall : ∀ c ∈ d :: name, isNameChar c = true := List.forall_mem_cons.mpr ⟨isNameChar_of_isLetter hd, hchars⟩
    have hdrop : Entity.dropSemicolon (after ++ rest) = Entity.dropSemicolon after ++ rest :=
      dropSemicolon_append fun c hc => by rcases hrest c hc with rfl | rfl <;> decide
    obtain ⟨p, hp⟩ := exists_append_dropSemicolon after
    refine ⟨'&' :: d :: name, Entity.dropSemicolon after, ⟨'&', d :: name ++ p, ?_⟩, fun g => ?_, ?_⟩
    · simp [← hp]
    · rw [List.cons_append, List.cons_append, List.append_assoc,
        read_name hd hchars hbehind hlast (hfind _ List.prefix_rfl), hdrop]
    · rw [heard_ampersand hlone, hname, ← List.cons_append, heard_name hall, heard_behind_name hends]
      rfl

theorem exists_readsPiece (hc : c ≠ '<') (hrefers : RefersNowhere (c :: s)) (hmark : cutMark? (c :: s) = none)
    (hrest : ∀ c ∈ rest.head?, c = '<' ∨ c = '&') : ∃ w q, ReadsPiece final rest (c :: s) w q := by
  by_cases hamp : c = '&'
  · subst hamp
    cases hname : startsName s with
    | true => exact readsPiece_name hname (hrefers.1 rfl) hrest
    | false => exact ⟨_, _, readsPiece_ampersand hname (fun h => (cutMark?_cons hmark).1 ⟨rfl, h⟩) hrest⟩
  · exact ⟨_, _, readsPiece_char (isPlain_iff.mpr ⟨hc, hamp⟩)⟩

/-- A text without a mark is read as what is heard of it, up to a tag, an ampersand or the
    end of the document. -/
theorem read_text (hlt : '<' ∉ s) (hrefers : RefersNowhere s) (hmark : cutMark? s = none)
    (hrest : ∀ c ∈ rest.head?, c = '<' ∨ c = '&') :
    g.read final (s ++ rest) = (g.write (heard rest.isEmpty false s)).read final rest := by
  -- piece by piece, as every piece leaves less of the text
  induction hn : s.length using Nat.strongRecOn generalizing s g with
  | ind n ih =>
    cases s with
    | nil => simp [heard]
    | cons c s =>
      have hc : c ≠ '<' := fun h => hlt (by rw [h]; exact List.mem_cons_self ..)
      obtain ⟨w, q, ⟨d, p, hsplit⟩, hread, hheard⟩ := exists_readsPiece hc hrefers hmark hrest
      rw [hread, hheard]
      rw [hsplit] at hlt hrefers hmark hn
      have hlength : q.length < n := by
        simp only [List.length_append, List.length_cons] at hn
        omega
      have hltq : '<' ∉ q := fun h => hlt (List.mem_append_right _ h)
      rw [ih q.length hlength hltq hrefers.of_append (cutMark?_of_append hmark) rfl, write_write]

/-! ## Reading marks -/

theorem step_mark (hnumber : Entity.Numeric.scan? s = none) (final : Bool) :
    Markup.step final none '&' ('#' :: s) =
      .ok (if ';' ∈ s then .stop [.text ['&', '#']] s else .stop [] ('&' :: '#' :: s)) := by
  simp only [step_ampersand, referenceStep, Entity.numericInText?, hnumber, List.contains_iff_mem]

/-- The last pass stops at a mark, and takes all that is left for text. -/
theorem read_mark_last (hnumber : Entity.Numeric.scan? s = none) :
    g.read true ('&' :: '#' :: s) = .ok (g.write ('&' :: '#' :: s)) := by
  have hstep := step_mark hnumber true
  by_cases hsemi : ';' ∈ s
  · rw [if_pos hsemi] at hstep
    rw [read_of_stop_last hstep (List.ne_nil_of_mem hsemi), List.foldl_cons, List.foldl_nil]
    exact congrArg Except.ok (write_write g ['&', '#'] s)
  · rw [if_neg hsemi] at hstep
    exact read_of_stop_last hstep (List.cons_ne_nil _ _)

/-- So does the first pass when no semicolon is to come. Otherwise the last pass begins behind
    the mark. -/
theorem read_mark_first (hnumber : Entity.Numeric.scan? s = none) :
    g.read false ('&' :: '#' :: s) =
      if ';' ∈ s then (g.write ['&', '#']).read true s else .ok (g.write ('&' :: '#' :: s)) := by
  have hstep := step_mark hnumber false
  split
  · rename_i hsemi
    rw [if_pos hsemi] at hstep
    exact read_of_stop_first hstep
  · rename_i hsemi
    rw [if_neg hsemi] at hstep
    exact (read_of_stop_first hstep).trans (read_mark_last hnumber)

/-- A mark in a text without references is not followed by a number. -/
theorem scan?_of_mark (h : RefersNowhere (u ++ '&' :: '#' :: v)) (hrest : ∀ c ∈ rest.head?, c = '<') :
    Entity.Numeric.scan? (v ++ rest) = none := by
  refine scan?_of_not_startsNumber ?_ hrest
  cases hnumber : startsNumber v with
  | false => rfl
  | true => exact absurd (.inl ⟨rfl, hnumber⟩) (h.of_append.1 rfl)

/-- A text without references is read as what is heard of it, and then one of the passes goes
    on with the markup behind it; or it is divided, and all is text that is not read. -/
theorem read_divided (hlt : '<' ∉ t) (hrefers : RefersNowhere t) (hrest : ∀ c ∈ rest.head?, c = '<') :
    ((divide rest t).2 = [] ∧ ∃ final, g.read false (t ++ rest) = (g.write (heard rest.isEmpty false t)).read final rest) ∨
    ((divide rest t).2 ≠ [] ∧
      g.read false (t ++ rest) = .ok (g.write (heard false false (divide rest t).1 ++ (divide rest t).2 ++ rest))) := by
  have hends : ∀ c ∈ rest.head?, c = '<' ∨ c = '&' := fun c hc => .inl (hrest c hc)
  unfold divide
  cases hcut : cutMark? t with
  | none => exact .inl ⟨rfl, false, read_text hlt hrefers hcut hends⟩
  | some uv =>
    obtain ⟨u, v⟩ := uv
    obtain ⟨rfl, hu⟩ := cutMark?_eq_some hcut
    have hnumber := scan?_of_mark hrefers hrest
    have hltu : '<' ∉ u := fun h => hlt (List.mem_append_left _ h)
    have hltv : '<' ∉ v := fun h => hlt (by simp [h])
    -- up to the first mark the first pass reads it all
    have hfirst : g.read false (u ++ '&' :: '#' :: v ++ rest) =
        (g.write (heard false false u)).read false ('&' :: '#' :: (v ++ rest)) := by
      rw [List.append_assoc, read_text hltu hrefers.of_prefix hu (by simp)]
      rfl
    rw [hfirst, read_mark_first hnumber]
    by_cases hsemi : ';' ∈ v ++ rest
    swap
    · simp only [if_neg hsemi]
      exact .inr ⟨List.cons_ne_nil _ _, by simp⟩
    simp only [if_pos hsemi]
    have hrefersv : RefersNowhere v := hrefers.of_append.2.2
    cases hcut' : cutMark? v with
    | none =>
      refine .inl ⟨rfl, true, ?_⟩
      rw [read_text hltv hrefersv hcut' hends, heard_mark]
      simp
    | some uv' =>
      obtain ⟨u', v'⟩ := uv'
      obtain ⟨rfl, hu'⟩ := cutMark?_eq_some hcut'
      refine .inr ⟨List.cons_ne_nil _ _, ?_⟩
      have hltu' : '<' ∉ u' := fun h => hltv (List.mem_append_left _ h)
      have hsecond : Entity.Numeric.scan? (v' ++ rest) = none := scan?_of_mark hrefersv hrest
      rw [List.append_assoc, read_text hltu' hrefersv.of_prefix hu' (by simp), List.cons_append, List.cons_append,
        read_mark_last hsecond, heard_mark]
      simp

end Growth

end MarkupJsx.Markup
