/-
  MarkupJsx.Proofs.Storage.ReadBack — a text that was written is read again.

  Rule. A file is read as a text if and only if its bytes are the UTF-8 of one, and what is
  read is that text with its ends of lines unified (`textOf_eq_ok_iff`): first each carriage
  return with a line feed behind it, then each that is left (`unifyNewlines_eq`).

  Wherever writing a text succeeds, the path leads by then to a file with the bytes of that
  text, and still does when the file is read. So the text comes back, and unchanged when there
  is no carriage return in it (`written_text_is_read`).
-/

import MarkupJsx.Proofs.Storage.Writing
import MarkupJsx.Proofs.Text.Utf8

namespace MarkupJsx

/-! ## Ends of lines -/

namespace Text

/-- Each carriage return with a line feed behind it gives way to the line feed. -/
def joinPairs : Text → Text
  | [] => []
  | '\r' :: '\n' :: rest => '\n' :: joinPairs rest
  | c :: rest => c :: joinPairs rest

theorem replace_cons (c x : Char) (s t : Text) :
    replace (x :: s) c t = (if x = c then t else [x]) ++ replace s c t := List.flatMap_cons

theorem unifyNewlines_eq (s : Text) : unifyNewlines s = replace (joinPairs s) '\r' ['\n'] := by
  fun_induction unifyNewlines s with
  | case1 => rfl
  | case2 rest ih => rw [joinPairs, replace_cons, ih]; rfl
  | case3 c rest hpair ih =>
    rw [joinPairs.eq_3 c rest hpair, replace_cons, ih]
    split <;> rfl

theorem unifyNewlines_of_not_mem {s : Text} (h : '\r' ∉ s) : unifyNewlines s = s := by
  induction s with
  | nil => rfl
  | cons c rest ih =>
    simp only [List.mem_cons, not_or] at h
    have hc : c ≠ '\r' := Ne.symm h.1
    rw [unifyNewlines.eq_3 c rest fun _ hcr => absurd hcr hc, if_neg hc, ih h.2]

end Text

/-! ## Reading -/

namespace Storage

variable {content : Bytes} {t : Text}

theorem textOf_encode (s : Text) : textOf (Text.Utf8.encode s) = .ok s.unifyNewlines := by
  rw [textOf, Text.Utf8.decode_eq_ok_iff.mpr rfl]
  rfl

theorem textOf_eq_ok_iff : textOf content = .ok t ↔ ∃ s, content = Text.Utf8.encode s ∧ t = s.unifyNewlines := by
  constructor
  · intro h
    cases hd : Text.Utf8.decode content with
    | error e => rw [textOf, hd] at h; cases h
    | ok s =>
      rw [textOf, hd] at h
      cases h
      exact ⟨s, Text.Utf8.decode_eq_ok_iff.mp hd, rfl⟩
  · rintro ⟨s, rfl, rfl⟩
    exact textOf_encode s

end Storage

/-- The source is the path, in whatever way it is written but as the marker of the standard
    input. -/
inductive Source.LeadsTo : Source → Path → Prop
  | path {p : Path} : p.toWide ≠ .ofText marker → LeadsTo (.ofPath p) p
  | text {t : Text} : t ≠ marker → LeadsTo (.ofText t) (Path.ofText t)

theorem Source.LeadsTo.eq {source : Source} {p : Path} (h : source.LeadsTo p) : source = .path p := by
  cases h with
  | path hp => exact if_neg hp
  | text ht => exact if_neg ht

theorem World.run_readMarkup_of_read {w : World} {source : Source} {p : Path} {content : Bytes} (hs : source.LeadsTo p)
    (h : w.tree.read p = .ok content) :
    (Storage.readMarkup source : StateM World _).run w = (Storage.textOf content, w) := by
  rw [run_readMarkup, hs.eq]
  simp only [markup, Tree.isThere_of_read h, Tree.text, h]

theorem World.readMarkup_eq_ok_iff {w : World} {source : Source} {p : Path} {content : Bytes} {t : Text}
    (hs : source.LeadsTo p) (h : w.tree.read p = .ok content) :
    (Storage.readMarkup source : StateM World _).run w = (.ok t, w) ↔
      ∃ s : Text, content = s.flatMap String.utf8EncodeChar ∧ t = s.unifyNewlines := by
  simp only [run_readMarkup_of_read hs h, ← Text.Utf8.encode_eq, ← Storage.textOf_eq_ok_iff]
  exact ⟨fun heq => (Prod.mk.inj heq).1, fun heq => by rw [heq]⟩

/-- What is written to a path is read from it, with its ends of lines unified; a text without
    carriage returns comes back as it is. And a file is read if and only if its bytes are the
    UTF-8 of a text, as that text with its ends of lines unified. -/
theorem written_text_is_read :
    (∀ (w w' : World) (p : Path) (s : Text) (source : Source), source.LeadsTo p →
      (Storage.writeText p s : StateM World _).run w = (.ok (), w') →
      (Storage.readMarkup source : StateM World _).run w' = (.ok s.unifyNewlines, w')) ∧
    (∀ s : Text, s.unifyNewlines = s.joinPairs.replace '\r' ['\n'] ∧ ('\r' ∉ s → s.unifyNewlines = s)) ∧
    ∀ (w : World) (p : Path) (content : Bytes) (source : Source), source.LeadsTo p → w.tree.read p = .ok content →
      ((∃ t, (Storage.readMarkup source : StateM World _).run w = (.ok t, w)) ↔
        ∃ s : Text, content = s.flatMap String.utf8EncodeChar) ∧
      ∀ s : Text, content = s.flatMap String.utf8EncodeChar →
        (Storage.readMarkup source : StateM World _).run w = (.ok s.unifyNewlines, w) := by
  refine ⟨fun w w' p s source hs hwrite => ?_, fun s => ⟨s.unifyNewlines_eq, Text.unifyNewlines_of_not_mem⟩,
    fun w p content source hs hread => ?_⟩
  · have hreceives := (World.files_of_writeText hwrite).1 rfl
    rw [World.run_readMarkup_of_read hs hreceives.read, Storage.textOf_encode]
  · have hiff {t : Text} := World.readMarkup_eq_ok_iff (t := t) hs hread
    exact ⟨⟨fun ⟨_, ht⟩ => (hiff.mp ht).imp fun _ => And.left, fun ⟨s, hc⟩ => ⟨_, hiff.mpr ⟨s, hc, rfl⟩⟩⟩,
      fun s hc => hiff.mpr ⟨s, hc, rfl⟩⟩

/-- No files, and nothing in the standard input. -/
def bareWorld : World := ⟨⟨[], []⟩, []⟩

/-- A path whose file is named like the marker, behind a directory that is still missing. -/
def markerPath : Text := "new/../-".toList

def mixedLines : Text := "a\r\nß\r".toList

theorem written_text_is_read_behindDots :
    Source.LeadsTo (.ofText markerPath) (Path.ofText markerPath) ∧
      ∃ w', (Storage.writeText (Path.ofText markerPath) mixedLines : StateM World _).run bareWorld = (.ok (), w') ∧
        w'.tree.entry? [[0x2D]] = some (.file [0x61, 0x0D, 0x0A, 0xC3, 0x9F, 0x0D]) ∧
        (Storage.readMarkup (.ofText markerPath) : StateM World _).run w' = (.ok "a\nß\n".toList, w') := by
  have hs : Source.LeadsTo (.ofText markerPath) (Path.ofText markerPath) := .text (by decide)
  have hok : ((Storage.writeText (Path.ofText markerPath) mixedLines : StateM World _).run bareWorld).1.isOk = true := by
    decide +kernel
  have hentry : ((Storage.writeText (Path.ofText markerPath) mixedLines : StateM World _).run bareWorld).2.tree.entry?
      [[0x2D]] = some (.file [0x61, 0x0D, 0x0A, 0xC3, 0x9F, 0x0D]) := by decide +kernel
  refine ⟨hs, ?_⟩
  rcases hrun : (Storage.writeText (Path.ofText markerPath) mixedLines : StateM World _).run bareWorld with ⟨_ | _, w'⟩
  · rw [hrun] at hok
    cases hok
  · rw [hrun] at hentry
    have htext : mixedLines.unifyNewlines = "a\nß\n".toList := by decide +kernel
    exact ⟨w', rfl, hentry, htext ▸ written_text_is_read.1 _ _ _ _ _ hs hrun⟩

end MarkupJsx
