import SnippetReview.Proofs.Editor.Book
import SnippetReview.Proofs.Editor.Range

namespace SnippetReview.Editor

open Text

namespace Layout

variable {text : Text}

theorem nearest?_start (l : Layout) (text : Text) :
    l.nearest? (Range.full text).start = some 0 := by
  obtain ⟨line, hl⟩ := l.exists_line? (Nat.zero_le _)
  have hz : l.line? (Range.full text).start.line.toNat = some line := hl
  rw [nearest?, hz]
  exact (congrArg (l.place? 0) (Nat.zero_min _)).trans l.place?_start

theorem replace?_full_eq (text new : Text) :
    (ofLineEnds text).replace? (Range.full text) new =
      ((ofLineEnds text).nearest? (Range.full text).finish).map fun k => new ++ text.drop k := by
  rw [replace?, nearest?_start, text_ofLineEnds]
  cases (ofLineEnds text).nearest? (Range.full text).finish <;> rfl

section

variable (h : length16 text < UInt32.size)
include h

theorem replace?_full (hr : ¬ HasLoneReturn text) (new : Text) :
    (ofLineEnds text).replace? (Range.full text) new = some new := by
  obtain ⟨hrows, hlast⟩ := last_of_not_hasLoneReturn hr
  have hp := place?_last (ofLineEnds text)
  rw [text_ofLineEnds] at hp
  have hf : (ofLineEnds text).nearest? (Range.full text).finish = some text.length := by
    rw [nearest?, Range.full, line_endOf h, character_endOf h, ← hrows, line?_length, ← hlast]
    simp [hp]
  rw [replace?_full_eq, hf, Option.map_some, List.drop_length, List.append_nil]

theorem exists_rest_of_replace? (hr : HasLoneReturn text) {new result : Text}
    (he : (ofLineEnds text).replace? (Range.full text) new = some result) :
    ∃ rest, rest ≠ [] ∧ rest <:+ text ∧ result = new ++ rest := by
  rw [replace?_full_eq] at he
  obtain ⟨k, hk, rfl⟩ := Option.map_eq_some_iff.mp he
  rw [nearest?, Range.full, line_endOf h] at hk
  obtain ⟨line, -, hk⟩ := Option.bind_eq_some_iff.mp hk
  -- The range counts fewer lines than the document has, so that its end is not on the last one.
  have hlt := lt_length_of_place? hk (length_rows_lt_of_hasLoneReturn hr)
  rw [text_ofLineEnds] at hlt
  refine ⟨text.drop k, ?_, List.drop_suffix k text, rfl⟩
  rw [ne_eq, List.drop_eq_nil_iff]
  omega

end

end Layout

/-- The quick fix for a document puts the corrected text in place of all of it, unless there is a
lone carriage return in it. Then something of the document is left behind the corrected text. -/
theorem quick_fix_replaces {content : Text} (h : length16 content < UInt32.size)
    (corrected : Text) :
    (∀ (server : Server) p d, server.documents.get? p.uri = some d → d.content = content →
      d.pending = some corrected →
      server.actions p = Server.Edit.offer ⟨Range.full content, corrected⟩ p ∧
      ∀ range newText, IsOffer (server.actions p) p.uri range newText ↔
        range = Range.full content ∧ newText = corrected) ∧
    ((Layout.ofLineEnds content).replace? (Range.full content) corrected = some corrected ↔
      ¬ Layout.HasLoneReturn content) ∧
    (Layout.HasLoneReturn content → ∀ result,
      (Layout.ofLineEnds content).replace? (Range.full content) corrected = some result →
      ∃ rest, rest ≠ [] ∧ rest <:+ content ∧ result = corrected ++ rest) := by
  refine ⟨?_, ⟨?_, fun hr => Layout.replace?_full h hr corrected⟩,
    fun hr result => Layout.exists_rest_of_replace? h hr⟩
  · rintro server p d hd rfl hp
    obtain ⟨r, hr, rfl⟩ := Document.pending_eq_some_iff.mp hp
    have ha := Server.actions_of_proposes hd hr
    exact ⟨ha, fun range newText => ha ▸ Server.Edit.isOffer_offer_iff⟩
  · intro he hr
    obtain ⟨rest, hne, -, hrest⟩ := Layout.exists_rest_of_replace? h hr he
    exact hne (List.self_eq_append_right.mp hrest)

theorem quick_fix_replaces_both_line_ends :
    let content : Text := ['a', '\r', '\n', 'b', '\n', '😀']
    Range.full content = ⟨⟨0, 0⟩, ⟨2, 2⟩⟩ ∧ ¬ Layout.HasLoneReturn content ∧
      (Layout.ofLineEnds content).replace? (Range.full content) ['c'] = some ['c'] := by
  intro content
  have hr : ¬ Layout.HasLoneReturn content := by decide
  exact ⟨by decide, hr, (quick_fix_replaces (by decide) ['c']).2.1.mpr hr⟩

/-- The line after a lone carriage return is left behind the corrected text. -/
theorem quick_fix_leaves_rest :
    let uri := "file:///tmp/snippet.js".toList
    let content := "cosnt a = 1;\rlet b = 2;".toList
    let corrected := "const a = 1;\rlet b = 2;".toList
    let range : Range := ⟨⟨0, 0⟩, ⟨0, 23⟩⟩
    let commands : List Command := [.opened ⟨uri, "javascript".toList, content⟩,
      .asked (.number 2) ⟨uri, []⟩]
    ∃ catalog answer last, Shipped.catalog = .ok catalog ∧
      ({} : Server).serveAll? ⟨catalog, none⟩ (fun _ => .silence)
          (.start (.number 1) :: commands.map Command.message) =
        some ([⟨some ⟨.number 1, .ok Server.introduction⟩, []⟩,
          ⟨none, [Command.publication catalog uri "javascript".toList content]⟩,
          ⟨some ⟨.number 2, .ok answer⟩, []⟩], last) ∧
      IsOffer answer uri range corrected ∧ length16 content < UInt32.size ∧
      (Layout.ofLineEnds content).replace? range corrected =
        some (corrected ++ "\rlet b = 2;".toList) := by
  intro uri content corrected range commands
  obtain ⟨catalog, hc, -⟩ := Shipped.exists_catalog
  have huri : Url.normalize? uri = some uri := by decide +kernel
  have hplain : ∀ command ∈ commands, command.IsPlain := by
    simp only [commands, List.forall_mem_cons]
    exact ⟨.opened huri, .asked huri, nofun⟩
  obtain ⟨_, last, _, hs, hr, -⟩ := Server.serveAll?_of_starts (Message.starts_start (.number 1))
    (Shipped.correctsOnce_of_catalog hc) (Command.says_messages hplain) fun _ => .silence
  obtain ⟨_, rfl, hopened⟩ := hr.of_opened
  obtain ⟨answer, _, rfl, ho, -, hasked⟩ := hopened.of_asked
  cases hasked
  rw [Book.write_same] at ho
  have hfix : (catalog.get "javascript".toList).correct content = corrected := by
    rw [Shipped.correct_get hc (r := ("javascript".toList, Shipped.javascriptRewordings))
      (by simp [Shipped.rewordings])]
    decide +kernel
  refine ⟨catalog, answer, last, hc, hs, (ho _ _).mpr ⟨_, _, rfl, ?_, by decide, hfix.symm⟩,
    by decide, by decide⟩
  rw [hfix]
  decide

end SnippetReview.Editor
