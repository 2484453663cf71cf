import SnippetReview.Editor.Server
import SnippetReview.Proofs.Json.Fields

namespace SnippetReview.Editor

open Json

-- Read with nothing but the members of objects, the items of arrays, texts and numbers.
def Position.IsValue (p : Position) (value : Json) : Prop :=
  ∃ line character,
    value.members? = some [("line".toList, line), ("character".toList, character)] ∧
    line.natural? = some p.line.toNat ∧ character.natural? = some p.character.toNat

def Range.IsValue (r : Range) (value : Json) : Prop :=
  ∃ start finish, value.members? = some [("start".toList, start), ("end".toList, finish)] ∧
    r.start.IsValue start ∧ r.finish.IsValue finish

def IsTextEdit (value : Json) (range : Range) (newText : Text) : Prop :=
  ∃ place new, value.members? = some [("range".toList, place), ("newText".toList, new)] ∧
    range.IsValue place ∧ new.text? = some newText

/-- The answer is a list of one action, a quick fix, whose edit changes one document, by one edit of
its text. -/
def IsOffer (answer : Json) (uri : Text) (range : Range) (newText : Text) : Prop :=
  ∃ action title kind diagnostics edit changes edits textEdit,
    answer.items? = some [action] ∧
    action.members? = some [("title".toList, title), ("kind".toList, kind),
      ("diagnostics".toList, diagnostics), ("edit".toList, edit)] ∧
    title.text? = some "Apply suggested corrections".toList ∧
    kind.text? = some "quickfix".toList ∧
    edit.members? = some [("changes".toList, changes)] ∧
    changes.members? = some [(uri, edits)] ∧ edits.items? = some [textEdit] ∧
    IsTextEdit textEdit range newText

theorem Position.IsValue.unique {p q : Position} {value : Json} (hp : p.IsValue value)
    (hq : q.IsValue value) : p = q := by
  obtain ⟨line, character, hm, hline, hcharacter⟩ := hp
  obtain ⟨_, _, hm', hline', hcharacter'⟩ := hq
  rw [hm] at hm'
  cases hm'
  have hl : p.line = q.line := UInt32.toNat.inj (Option.some.inj (hline.symm.trans hline'))
  have hc : p.character = q.character :=
    UInt32.toNat.inj (Option.some.inj (hcharacter.symm.trans hcharacter'))
  cases p
  cases q
  cases hl
  cases hc
  rfl

theorem Range.IsValue.unique {r s : Range} {value : Json} (hr : r.IsValue value)
    (hs : s.IsValue value) : r = s := by
  obtain ⟨start, finish, hm, hstart, hfinish⟩ := hr
  obtain ⟨_, _, hm', hstart', hfinish'⟩ := hs
  rw [hm] at hm'
  cases hm'
  have hs : r.start = s.start := hstart.unique hstart'
  have hf : r.finish = s.finish := hfinish.unique hfinish'
  cases r
  cases s
  cases hs
  cases hf
  rfl

theorem IsTextEdit.unique {value : Json} {r s : Range} {new other : Text}
    (h : IsTextEdit value r new) (h' : IsTextEdit value s other) : r = s ∧ new = other := by
  obtain ⟨place, text, hm, hplace, htext⟩ := h
  obtain ⟨_, _, hm', hplace', htext'⟩ := h'
  rw [hm] at hm'
  cases hm'
  exact ⟨hplace.unique hplace', Option.some.inj (htext.symm.trans htext')⟩

theorem IsOffer.unique {answer : Json} {uri other : Text} {r s : Range} {new new' : Text}
    (h : IsOffer answer uri r new) (h' : IsOffer answer other s new') :
    uri = other ∧ r = s ∧ new = new' := by
  obtain ⟨_, _, _, _, _, _, _, _, ha, hm, -, -, he, hc, hi, ht⟩ := h
  obtain ⟨_, _, _, _, _, _, _, _, ha', hm', -, -, he', hc', hi', ht'⟩ := h'
  rw [ha] at ha'
  cases ha'
  rw [hm] at hm'
  cases hm'
  rw [he] at he'
  cases he'
  rw [hc] at hc'
  cases hc'
  rw [hi] at hi'
  cases hi'
  exact ⟨rfl, ht.unique ht'⟩

theorem not_isOffer_null {uri newText : Text} {range : Range} :
    ¬ IsOffer .null uri range newText := by
  rintro ⟨_, _, _, _, _, _, _, _, h, -⟩
  cases h

theorem Position.isValue_toJson (p : Position) : p.IsValue p.toJson :=
  have hnamed : AreNames ["line", "character"] := by decide
  have hsize : UInt32.size ≤ UInt64.size := by decide
  ⟨_, _, members?_ofMembers rfl hnamed,
    natural?_ofNat (Nat.lt_of_lt_of_le p.line.toNat_lt hsize),
    natural?_ofNat (Nat.lt_of_lt_of_le p.character.toNat_lt hsize)⟩

theorem Range.isValue_toJson (r : Range) : r.IsValue r.toJson :=
  have hnamed : AreNames ["start", "end"] := by decide
  ⟨_, _, members?_ofMembers rfl hnamed, r.start.isValue_toJson, r.finish.isValue_toJson⟩

namespace Server

theorem Edit.isTextEdit_toJson (e : Edit) : IsTextEdit e.toJson e.range e.newText :=
  have hnamed : AreNames ["range", "newText"] := by decide
  ⟨_, _, members?_ofMembers rfl hnamed, e.range.isValue_toJson, text?_ofText _⟩

theorem Edit.isOffer_offer (e : Edit) (p : ActionParams) :
    IsOffer (e.offer p) p.uri e.range e.newText := by
  have hnamed : AreNames ["title", "kind", "diagnostics", "edit"] := by decide
  have hchanges : members? (.object [(Quoted.escape p.uri, .array [e.toJson])]) =
      some [(p.uri, .array [e.toJson])] := by
    simp [members?, decodeKeys, Quoted.decode_escape]
  exact ⟨_, _, _, _, _, _, _, _, rfl, members?_ofMembers rfl hnamed, text?_ofText _,
    text?_ofText _, members?_ofMembers rfl (by decide : AreNames ["changes"]), hchanges, rfl,
    e.isTextEdit_toJson⟩

theorem Edit.isOffer_offer_iff {e : Edit} {p : ActionParams} {range : Range} {newText : Text} :
    IsOffer (e.offer p) p.uri range newText ↔ range = e.range ∧ newText = e.newText := by
  constructor
  · intro h
    exact (h.unique (e.isOffer_offer p)).2
  · rintro ⟨rfl, rfl⟩
    exact e.isOffer_offer p

end Server

end SnippetReview.Editor
