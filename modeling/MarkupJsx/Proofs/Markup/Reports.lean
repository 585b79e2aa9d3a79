/-
  MarkupJsx.Proofs.Markup.Reports — what the reading of a document reports on its way.

  A reading that is refused in the end has reported events all the same. `Reaches` are the
  places that a reading comes to, pass by pass, and `Reports` the events of the steps taken
  there; a reading that succeeds has no others (`reports_of_events`). A start tag is
  reported only where its text stands (`startTag_of_reports`).
-/

import MarkupJsx.Markup.Pass

namespace MarkupJsx.Markup

open Text (isLetter)

def Step.events : Step → List Event
  | on events _ _ => events
  | stop events _ => events

/-- The places that reading `s` comes to: in the last pass or not, in which mode, and with
    which text to come. -/
inductive Reaches (s : Text) : Bool → Option RawElement → Text → Prop
  | start : Reaches s false none s
  | on {final : Bool} {mode mode' : Option RawElement} {c : Char} {tail rest : Text} {events : List Event} :
      Reaches s final mode (c :: tail) → step final mode c tail = .ok (.on events mode' rest) → Reaches s final mode' rest
  /-- Where the first pass stops, the second begins. -/
  | again {mode : Option RawElement} {c : Char} {tail rest : Text} {events : List Event} :
      Reaches s false mode (c :: tail) → step false mode c tail = .ok (.stop events rest) → Reaches s true mode rest

inductive Reports (s : Text) : Event → Prop
  | step {final : Bool} {mode : Option RawElement} {c : Char} {tail : Text} {k : Step} {e : Event} :
      Reaches s final mode (c :: tail) → step final mode c tail = .ok k → e ∈ k.events → Reports s e
  /-- What is left in the end is text. -/
  | left {c : Char} {tail rest : Text} {events : List Event} :
      Reaches s true none (c :: tail) → step true none c tail = .ok (.stop events rest) → Reports s (.text rest)

/-! ## A reading that succeeds -/

/-- A pass reports its events, and stops at a place that the reading comes to. -/
theorem reports_of_pass {s t : Text} {final : Bool} {mode : Option RawElement} {p : Pass}
    (hr : Reaches s final mode t) (hp : pass final mode t = .ok p) :
    (∀ e ∈ p.events, Reports s e) ∧
      (p.rest = [] ∨ ∃ c tail events, Reaches s final p.mode (c :: tail) ∧
        step final p.mode c tail = .ok (.stop events p.rest)) := by
  fun_induction pass final mode t generalizing p with
  | case1 mode =>
    cases hp
    exact ⟨fun e he => (by cases he), Or.inl rfl⟩
  | case2 => cases hp
  | case3 mode c tail events rest h =>
    cases hp
    exact ⟨fun e he => .step hr h he, Or.inr ⟨c, tail, events, hr, h⟩⟩
  | case4 mode c tail events mode' rest h hlt ih =>
    obtain ⟨q, hq, rfl⟩ : ∃ q, pass final mode' rest = .ok q ∧ Pass.after events q = p := by
      cases hq : pass final mode' rest with
      | error e => rw [hq] at hp; cases hp
      | ok q => rw [hq] at hp; exact ⟨q, rfl, Except.ok.inj hp⟩
    obtain ⟨hevents, hstop⟩ := ih (.on hr h) hq
    refine ⟨fun e he => ?_, hstop⟩
    rcases List.mem_append.mp he with he | he
    · exact .step hr h he
    · exact hevents e he

theorem pass_nil (final : Bool) (mode : Option RawElement) : pass final mode [] = .ok ⟨[], mode, []⟩ := by
  rw [pass]

theorem reports_of_events {s : Text} {evs : List Event} (h : events s = .ok evs) : ∀ e ∈ evs, Reports s e := by
  cases h1 : pass false none s with
  | error e => simp [events, h1, bind, Except.bind] at h
  | ok first =>
    cases h2 : pass true first.mode first.rest with
    | error e => simp [events, h1, h2, bind, Except.bind] at h
    | ok second =>
      simp only [events, h1, h2, bind, Except.bind, pure, Except.pure, Except.ok.injEq] at h
      subst h
      obtain ⟨hfirst, hstop⟩ := reports_of_pass .start h1
      have hsecond : (∀ e ∈ second.events, Reports s e) ∧ ∀ e ∈ second.leftover, Reports s e := by
        rcases hstop with hnil | ⟨c, tail, events, hr, hk⟩
        · rw [hnil, pass_nil] at h2
          cases h2
          exact ⟨fun e he => (by cases he), fun e he => (by simp [Pass.leftover] at he)⟩
        · obtain ⟨hevents, hleft⟩ := reports_of_pass (.again hr hk) h2
          refine ⟨hevents, fun e he => ?_⟩
          simp only [Pass.leftover] at he
          split at he
          · rename_i hrest
            simp only [Bool.and_eq_true, Option.isNone_iff_eq_none, Bool.not_eq_true', List.isEmpty_eq_false_iff] at hrest
            obtain rfl := List.mem_singleton.mp he
            rcases hleft with hnil | ⟨c', tail', events', hr', hk'⟩
            · exact absurd hnil hrest.2
            · rw [hrest.1] at hr' hk'; exact .left hr' hk'
          · cases he
      intro e he
      rcases List.mem_append.mp he with he | he
      · rcases List.mem_append.mp he with he | he
        · exact hfirst e he
        · exact hsecond.1 e he
      · exact hsecond.2 e he

/-! ## Where start tags come from -/

/-- Any event but a start tag. -/
def Event.isOther : Event → Prop
  | startTag _ => False
  | _ => True

theorem construct_step_other {k : Construct} {final : Bool} {s : Text} {e : Event}
    (hk : ∀ e rest, k = .whole (some e) rest → e.isOther) (he : e ∈ (k.step final s).events) : e.isOther := by
  cases k with
  | whole event rest =>
    cases event with
    | none => cases he
    | some e' => exact List.mem_singleton.mp he ▸ hk e' rest rfl
  | incomplete =>
    simp only [Construct.step] at he
    split at he
    · exact List.mem_singleton.mp he ▸ trivial
    · cases he

theorem hiddenUpTo_other {r : Option Text} {e : Event} {rest : Text}
    (h : Construct.hiddenUpTo r = .whole (some e) rest) : e.isOther := by
  cases r with
  | none => cases h
  | some r => cases h; trivial

theorem endTag_other {inner rest : Text} {e : Event} (h : endTag inner = .whole (some e) rest) : e.isOther := by
  unfold endTag at h
  split at h
  · cases h
  · split at h
    · cases h; trivial
    · split at h
      · cases h
      · split at h <;> (cases h; trivial)
      · cases h

theorem markedSection_other {whole inner rest : Text} {e : Event}
    (h : markedSection whole inner = .ok (.whole (some e) rest)) : e.isOther := by
  unfold markedSection at h
  split at h
  · cases h
  · split at h
    · dsimp only at h
      split at h
      · cases h
      · split at h
        · exact hiddenUpTo_other (Except.ok.inj h)
        · split at h
          · exact hiddenUpTo_other (Except.ok.inj h)
          · cases h
    · cases h

theorem declaration_other {inner rest : Text} {k : Construct} {e : Event} (h : declaration inner = .ok k)
    (hk : k = .whole (some e) rest) : e.isOther := by
  subst hk
  unfold declaration at h
  split at h
  · exact hiddenUpTo_other (Except.ok.inj h)
  · exact markedSection_other h
  · split at h
    · exact hiddenUpTo_other (Except.ok.inj h)
    · exact hiddenUpTo_other (Except.ok.inj h)

theorem reference_other {final : Bool} {tail : Text} {k : Step} {e : Event} (h : referenceStep final tail = .ok k)
    (he : e ∈ k.events) : e.isOther := by
  have hsingle : ∀ {t : Text}, e ∈ [Event.text t] → e.isOther := fun h => List.mem_singleton.mp h ▸ trivial
  unfold referenceStep at h
  split at h
  · split at h
    · rename_i r after _
      cases hc : r.code with
      | error x => rw [hc] at h; cases h
      | ok n => rw [hc] at h; cases h; exact hsingle he
    · split at h <;> cases h
      · exact hsingle he
      · cases he
  · cases h; cases he
  · split at h
    · split at h
      · cases h; exact hsingle he
      · split at h <;> (cases h; cases he)
    · cases h; exact hsingle he

theorem raw_other {r : RawElement} {s : Text} {e : Event} (he : e ∈ (rawStep r s).events) : e.isOther := by
  unfold rawStep at he
  split at he
  · split at he <;> exact List.mem_singleton.mp he ▸ trivial
  · split at he
    · exact List.mem_singleton.mp he ▸ trivial
    · cases he

/-- What stands behind a `<` reports a start tag only where it is that tag. -/
theorem startTag_of_openStep {final : Bool} {tail : Text} {k : Step} {t : Tag} (h : openStep final tail = .ok k)
    (ht : .startTag t ∈ k.events) :
    ∃ x more rest, tail = x :: more ∧ isLetter x = true ∧ Tag.scan x more = .ok (.whole t rest) := by
  unfold openStep at h
  split at h
  · cases h; cases ht
  · cases h; exact (construct_step_other (fun _ _ => endTag_other) ht).elim
  · rename_i inner
    cases hd : declaration inner with
    | error x => rw [hd] at h; cases h
    | ok d => rw [hd] at h; cases h; exact (construct_step_other (fun _ _ => declaration_other hd) ht).elim
  · cases h; exact (construct_step_other (fun _ _ => hiddenUpTo_other) ht).elim
  · rename_i x more _ _ _
    split at h
    · rename_i hx
      refine ⟨x, more, ?_⟩
      unfold startTagStep at h
      cases hs : Tag.scan x more with
      | error x => rw [hs] at h; cases h
      | ok scan =>
        rw [hs] at h
        cases scan with
        | whole tag rest =>
          cases h
          obtain rfl : t = tag := by simpa [Step.events] using ht
          exact ⟨rest, rfl, hx, rfl⟩
        | broken source rest => cases h; simp [Step.events] at ht
        | incomplete =>
          cases h
          exact (construct_step_other (k := .incomplete) (fun _ _ hk => by cases hk) ht).elim
    · cases h; simp [Step.events] at ht

/-- A step reports a start tag only at the text of that tag. -/
theorem startTag_of_step {final : Bool} {mode : Option RawElement} {c : Char} {tail : Text} {k : Step} {t : Tag}
    (h : step final mode c tail = .ok k) (ht : .startTag t ∈ k.events) :
    mode = none ∧ c = '<' ∧ ∃ x more rest, tail = x :: more ∧ isLetter x = true ∧ Tag.scan x more = .ok (.whole t rest) := by
  unfold step at h
  split at h
  · cases h; exact (raw_other ht).elim
  · split at h
    · rename_i hc; exact ⟨rfl, hc, startTag_of_openStep h ht⟩
    · split at h
      · exact (reference_other h ht).elim
      · cases h; simp [Step.events] at ht

theorem startTag_of_reports {s : Text} {t : Tag} (h : Reports s (.startTag t)) :
    ∃ final x more rest, Reaches s final none ('<' :: x :: more) ∧ isLetter x = true ∧
      Tag.scan x more = .ok (.whole t rest) := by
  cases h with
  | step hr hk ht =>
    obtain ⟨rfl, rfl, x, more, rest, rfl, hx, hs⟩ := startTag_of_step hk ht
    exact ⟨_, x, more, rest, hr, hx, hs⟩

end MarkupJsx.Markup
