import SnippetReview.Proofs.Editor.Offer

namespace SnippetReview.Editor

def Document.text (d : Document) : Text × Text :=
  (d.language, d.content)

theorem Document.text_store? (d : Document) (reviewed : Text) (report : Report) :
    ((d.store? reviewed report).getD d).text = d.text := by
  rw [store?]
  split <;> rfl

def Document.Proposes (d : Document) (r : Report) : Prop :=
  d.report = some r ∧ r.corrected ≠ [] ∧ r.corrected ≠ d.content

theorem Document.pending_eq_some_iff {d : Document} {text : Text} :
    d.pending = some text ↔ ∃ r, d.Proposes r ∧ r.corrected = text := by
  rw [pending]
  cases h : d.report with
  | none => simp [Proposes, h]
  | some r =>
    simp only [Option.ite_none_left_eq_some, Bool.not_eq_true, Bool.or_eq_false_iff,
      List.isEmpty_eq_false_iff, decide_eq_false_iff_not, Option.some.injEq, Proposes, h]
    constructor
    · rintro ⟨⟨hn, hd⟩, he⟩
      exact ⟨r, ⟨rfl, hn, hd⟩, he⟩
    · rintro ⟨_, ⟨rfl, hn, hd⟩, he⟩
      exact ⟨⟨hn, hd⟩, he⟩

namespace Workspace

theorem get?_cons (w : Workspace) (u uri : Text) (d : Document) :
    get? ((u, d) :: w) uri = if u = uri then some d else w.get? uri := by
  by_cases h : u = uri
  · simp [get?, h]
  · have hb : (uri == u) = false := beq_eq_false_iff_ne.mpr (Ne.symm h)
    simp [get?, List.lookup_cons, h, hb]

theorem get?_close (w : Workspace) (u uri : Text) :
    (w.close u).get? uri = if u = uri then none else w.get? uri := by
  induction w with
  | nil => simp [close, get?]
  | cons entry w ih =>
    obtain ⟨v, d⟩ := entry
    by_cases hv : v = u
    · have hc : close ((v, d) :: w) u = close w u := by simp [close, hv]
      rw [hc, ih, get?_cons, hv]
      by_cases hu : u = uri <;> simp [hu]
    · have hc : close ((v, d) :: w) u = (v, d) :: close w u := by simp [close, hv]
      rw [hc, get?_cons, ih, get?_cons]
      by_cases hu : u = uri
      · simp [← hu, hv]
      · simp [hu]

theorem get?_put (w : Workspace) (u uri : Text) (d : Document) :
    (w.put u d).get? uri = if u = uri then some d else w.get? uri := by
  rw [put, get?_cons, get?_close]
  by_cases h : u = uri <;> simp [h]

theorem get?_putOption (w : Workspace) (u uri : Text) (new : Option Document) :
    ((new.map fun d => w.put u d).getD w).get? uri =
      if u = uri then new.or (w.get? uri) else w.get? uri := by
  cases new with
  | none => simp
  | some d => exact w.get?_put u uri d

theorem change?_eq (w : Workspace) (u content : Text) :
    w.change? u content = ((w.get? u).map fun d => d.edit content).map fun d => w.put u d := by
  rw [change?]
  cases w.get? u <;> rfl

theorem get?_change? (w : Workspace) (u content uri : Text) :
    ((w.change? u content).getD w).get? uri =
      if u = uri then (w.get? uri).map fun d => d.edit content else w.get? uri := by
  rw [change?_eq, get?_putOption]
  by_cases h : u = uri
  · rw [if_pos h, if_pos h, h]
    cases w.get? uri <;> rfl
  · rw [if_neg h, if_neg h]

theorem finish?_eq (w : Workspace) (s : Snapshot) (report : Report) :
    w.finish? s report =
      ((w.get? s.uri).bind fun d => d.store? s.content report).map fun d => w.put s.uri d := by
  rw [finish?]
  cases w.get? s.uri with
  | none => rfl
  | some d => cases hs : d.store? s.content report <;> simp [hs]

theorem get?_finish? (w : Workspace) (s : Snapshot) (report : Report) (uri : Text) :
    ((w.finish? s report).getD w).get? uri =
      if s.uri = uri then (w.get? uri).map fun d => (d.store? s.content report).getD d
      else w.get? uri := by
  rw [finish?_eq, get?_putOption]
  by_cases h : s.uri = uri
  · rw [if_pos h, if_pos h, h]
    cases w.get? uri with
    | none => rfl
    | some d => cases hs : d.store? s.content report <;> simp [hs]
  · rw [if_neg h, if_neg h]

end Workspace

namespace Server

theorem documents_send (server : Server) (notice : Notice) :
    (server.send notice).documents = server.documents := by
  rw [send]
  split <;> rfl

theorem documents_changeDocument (server : Server) (p : ChangeParams) :
    (server.changeDocument p).server.documents =
      match p.texts.getLast? with
      | none => server.documents
      | some content => (server.documents.change? p.uri content).getD server.documents := by
  rw [changeDocument]
  cases p.texts.getLast? with
  | none => rfl
  | some content =>
    dsimp only
    cases server.documents.change? p.uri content <;> rfl

theorem documents_finish (server : Server) (s : Snapshot) (report : Report) :
    (server.finish s report).documents =
      (server.documents.finish? s report).getD server.documents := by
  rw [finish]
  cases server.documents.finish? s report with
  | none => rfl
  | some documents => rw [documents_send]; rfl

theorem actions_of_proposes {server : Server} {p : ActionParams} {d : Document}
    (hd : server.documents.get? p.uri = some d) {r : Report} (h : d.Proposes r) :
    server.actions p = Edit.offer ⟨Range.full d.content, r.corrected⟩ p := by
  have hp : d.pending = some r.corrected := Document.pending_eq_some_iff.mpr ⟨r, h, rfl⟩
  simp [actions, quickFix?, hd, hp]

theorem actions_of_not_proposes {server : Server} {p : ActionParams} {d : Document}
    (hd : server.documents.get? p.uri = some d) (h : ∀ r, ¬ d.Proposes r) :
    server.actions p = .null := by
  have hp : d.pending = none := by
    cases hp : d.pending with
    | none => rfl
    | some text =>
      obtain ⟨r, hr, -⟩ := Document.pending_eq_some_iff.mp hp
      exact absurd hr (h r)
  simp [actions, quickFix?, hd, hp]

theorem actions_of_closed {server : Server} {p : ActionParams}
    (hd : server.documents.get? p.uri = none) : server.actions p = .null := by
  simp [actions, quickFix?, hd]

theorem isOffer_actions_iff {server : Server} {p : ActionParams} {d : Document}
    (hd : server.documents.get? p.uri = some d) {range : Range} {newText : Text} :
    IsOffer (server.actions p) p.uri range newText ↔
      ∃ r, d.Proposes r ∧ range = Range.full d.content ∧ newText = r.corrected := by
  constructor
  · intro h
    by_cases hp : ∃ r, d.Proposes r
    · obtain ⟨r, hr⟩ := hp
      rw [actions_of_proposes hd hr] at h
      exact ⟨r, hr, Edit.isOffer_offer_iff.mp h⟩
    · rw [actions_of_not_proposes hd fun r hr => hp ⟨r, hr⟩] at h
      exact absurd h not_isOffer_null
  · rintro ⟨r, hr, he⟩
    rw [actions_of_proposes hd hr]
    exact Edit.isOffer_offer_iff.mpr he

theorem finish_of_stale {server : Server} {s : Snapshot} {report : Report}
    (h : ∀ d, server.documents.get? s.uri = some d → d.content ≠ s.content) :
    server.finish s report = server := by
  have hf : server.documents.finish? s report = none := by
    rw [Workspace.finish?_eq]
    cases hd : server.documents.get? s.uri with
    | none => rfl
    | some d => simp [Document.store?, h d hd]
  rw [finish, hf]

end Server

end SnippetReview.Editor
