import SnippetReview.Proofs.Editor.Workspace

/-!
Sessions of an editor with the server, in which reviews of documents wait for their ends in between
other steps. What a document holds is told by the steps that came before.
-/

namespace SnippetReview.Editor

structure Session where
  server : Server
  inFlight : List Snapshot

namespace Session

inductive Event where
  | opened (p : OpenParams)
  | changed (p : ChangeParams)
  | closed (uri : Text)
  | begun (uri : Text)
  | ended (s : Snapshot) (report : Report)

inductive Step : Session → Event → Session → Prop
  | opened (server : Server) (inFlight : List Snapshot) (p : OpenParams) :
      Step ⟨server, inFlight⟩ (.opened p) ⟨(server.openDocument p).server, inFlight⟩
  | changed (server : Server) (inFlight : List Snapshot) (p : ChangeParams) :
      Step ⟨server, inFlight⟩ (.changed p) ⟨(server.changeDocument p).server, inFlight⟩
  | closed (server : Server) (inFlight : List Snapshot) (uri : Text) :
      Step ⟨server, inFlight⟩ (.closed uri) ⟨(server.closeDocument uri).server, inFlight⟩
  | begun (server : Server) (inFlight : List Snapshot) (uri : Text) :
      Step ⟨server, inFlight⟩ (.begun uri)
        ⟨server, (server.documents.snapshot? uri).toList ++ inFlight⟩
  | ended (server : Server) (inFlight : List Snapshot) (s : Snapshot) (report : Report)
      (hs : s ∈ inFlight) :
      Step ⟨server, inFlight⟩ (.ended s report) ⟨server.finish s report, inFlight.erase s⟩

/-- A session after some events, the last one first. -/
inductive Run : List Event → Session → Prop
  | start : Run [] ⟨{ phase := .running }, []⟩
  | step {history : List Event} {session next : Session} {e : Event} (h : Run history session)
      (hs : Step session e next) : Run (e :: history) next

def Event.effect (uri : Text) : Event → Option Document → Option Document
  | opened p, found => if p.uri = uri then some ⟨p.content, p.language, none⟩ else found
  | changed p, found =>
    if p.uri = uri then
      match p.texts.getLast? with
      | none => found
      | some content => found.map fun d => d.edit content
    else found
  | closed u, found => if u = uri then none else found
  | begun _, found => found
  | ended s report, found =>
    if s.uri = uri then found.map fun d => (d.store? s.content report).getD d else found

theorem Step.get? {session next : Session} {e : Event} (hs : Step session e next) (uri : Text) :
    next.server.documents.get? uri = e.effect uri (session.server.documents.get? uri) := by
  cases hs with
  | opened server inFlight p => exact Workspace.get?_put _ _ _ _
  | changed server inFlight p =>
    rw [Server.documents_changeDocument, Event.effect]
    cases p.texts.getLast? with
    | none => simp
    | some content => exact Workspace.get?_change? _ _ _ _
  | closed server inFlight u =>
    rw [Server.closeDocument, Server.documents_send]
    exact Workspace.get?_close _ _ _
  | begun => rfl
  | ended server inFlight s report =>
    rw [Server.documents_finish]
    exact Workspace.get?_finish? _ _ _ _

/-! ### Texts -/

/-- The language and text that the last events on a document gave it, if it is open. -/
def lastText? (uri : Text) : List Event → Option (Text × Text)
  | [] => none
  | .opened p :: history =>
    if p.uri = uri then some (p.language, p.content) else lastText? uri history
  | .changed p :: history =>
    if p.uri = uri then
      match p.texts.getLast? with
      | none => lastText? uri history
      | some content => (lastText? uri history).map fun t => (t.1, content)
    else lastText? uri history
  | .closed u :: history => if u = uri then none else lastText? uri history
  | .begun _ :: history => lastText? uri history
  | .ended _ _ :: history => lastText? uri history

theorem Event.text_effect_ended (uri : Text) (s : Snapshot) (report : Report)
    (found : Option Document) :
    ((ended s report).effect uri found).map Document.text = found.map Document.text := by
  rw [effect]
  split
  · simp only [Option.map_map]
    congr 1
    funext d
    exact d.text_store? s.content report
  · rfl

theorem Event.of_effect_ended {uri : Text} {s : Snapshot} {report : Report}
    {found : Option Document} {d : Document} (h : (ended s report).effect uri found = some d) :
    ∃ before, found = some before ∧ before.language = d.language ∧ before.content = d.content := by
  have htext := text_effect_ended uri s report found
  rw [h, Option.map_some, eq_comm, Option.map_eq_some_iff] at htext
  obtain ⟨before, hb, ht⟩ := htext
  exact ⟨before, hb, Prod.mk.inj ht⟩

theorem Run.text_eq {history : List Event} {session : Session} (h : Run history session)
    (uri : Text) :
    (session.server.documents.get? uri).map Document.text = lastText? uri history := by
  induction h with
  | start => rfl
  | @step history session next e _ hs ih =>
    rw [hs.get?]
    cases e with
    | opened p =>
      rw [Event.effect, lastText?, ← ih]
      split <;> rfl
    | changed p =>
      rw [Event.effect, lastText?, ← ih]
      split
      · cases p.texts.getLast? with
        | none => rfl
        | some content => simp only [Option.map_map]; rfl
      · rfl
    | closed u =>
      rw [Event.effect, lastText?, ← ih]
      split <;> rfl
    | begun u => exact ih
    | ended s report =>
      rw [Event.text_effect_ended]
      exact ih

/-! ### Reports -/

def Began (history : List Event) (s : Snapshot) : Prop :=
  ∃ later earlier session, history = later ++ .begun s.uri :: earlier ∧ Run earlier session ∧
    session.server.documents.snapshot? s.uri = some s

def Reviewed (history : List Event) (s : Snapshot) (report : Report) : Prop :=
  ∃ later earlier, history = later ++ .ended s report :: earlier ∧ Began earlier s

theorem Began.later {history : List Event} {s : Snapshot} (h : Began history s) (e : Event) :
    Began (e :: history) s := by
  obtain ⟨later, earlier, session, rfl, hr, hs⟩ := h
  exact ⟨e :: later, earlier, session, rfl, hr, hs⟩

theorem Reviewed.later {history : List Event} {s : Snapshot} {report : Report}
    (h : Reviewed history s report) (e : Event) : Reviewed (e :: history) s report := by
  obtain ⟨later, earlier, rfl, hb⟩ := h
  exact ⟨e :: later, earlier, rfl, hb⟩

theorem Run.began {history : List Event} {session : Session} (h : Run history session)
    {s : Snapshot} (hm : s ∈ session.inFlight) : Began history s := by
  induction h with
  | start => cases hm
  | @step history session next e h hs ih =>
    cases hs with
    | begun server inFlight uri =>
      rcases List.mem_append.mp hm with hm | hm
      · have hf := Option.mem_toList.mp hm
        obtain rfl : s.uri = uri := by
          obtain ⟨d, -, rfl⟩ := Option.map_eq_some_iff.mp hf
          rfl
        exact ⟨[], history, _, rfl, h, hf⟩
      · exact (ih hm).later _
    | ended server inFlight t report _ => exact (ih (List.mem_of_mem_erase hm)).later _
    | opened => exact (ih hm).later _
    | changed => exact (ih hm).later _
    | closed => exact (ih hm).later _

theorem Event.of_effect_report {uri : Text} {e : Event} {found : Option Document} {d : Document}
    {r : Report} (h : e.effect uri found = some d) (hr : d.report = some r) :
    found = some d ∨ ∃ s, e = .ended s r ∧ s.uri = uri ∧ s.content = d.content := by
  cases e with
  | opened p =>
    rw [effect] at h
    split at h
    · cases h
      cases hr
    · exact .inl h
  | changed p =>
    rw [effect] at h
    split at h
    · cases hp : p.texts.getLast? with
      | none =>
        rw [hp] at h
        exact .inl h
      | some content =>
        rw [hp] at h
        obtain ⟨before, -, rfl⟩ := Option.map_eq_some_iff.mp h
        cases hr
    · exact .inl h
  | closed u =>
    rw [effect] at h
    split at h
    · cases h
    · exact .inl h
  | begun u => exact .inl h
  | ended s report =>
    rw [effect] at h
    split at h
    · rename_i hu
      obtain ⟨before, rfl, hb⟩ := Option.map_eq_some_iff.mp h
      by_cases hc : before.content = s.content
      · obtain rfl : { before with report := some report } = d := by
          simpa [Document.store?, hc] using hb
        cases hr
        exact .inr ⟨s, rfl, hu, hc.symm⟩
      · obtain rfl : before = d := by simpa [Document.store?, hc] using hb
        exact .inl rfl
    · exact .inl h

theorem Run.reviewed {history : List Event} {session : Session} (h : Run history session)
    {uri : Text} {d : Document} (hd : session.server.documents.get? uri = some d) {r : Report}
    (hr : d.report = some r) :
    ∃ s, s.uri = uri ∧ s.content = d.content ∧ Reviewed history s r := by
  induction h with
  | start => cases hd
  | @step history session next e h hs ih =>
    rw [hs.get?] at hd
    -- Every event but the end of a review keeps the report or drops it.
    rcases Event.of_effect_report hd hr with hf | ⟨s, rfl, hu, hc⟩
    · obtain ⟨s, hu, hc, hw⟩ := ih hf
      exact ⟨s, hu, hc, hw.later e⟩
    · cases hs with
      | ended server inFlight _ _ hm => exact ⟨s, hu, hc, [], history, rfl, h.began hm⟩

/-! ### All steps -/

/-- Whatever the order in which reviews end, an open document has the text that the editor gave it
last, its report is of a review of that text under its locator, and what the report proposes is
offered as an edit of the whole document. The end of a review leaves all texts alone, and everything
if the text is another. -/
theorem documents_correct {history : List Event} {session : Session} (h : Run history session) :
    (∀ uri, (session.server.documents.get? uri).map Document.text = lastText? uri history) ∧
    (∀ uri d, session.server.documents.get? uri = some d →
      (∀ r, d.report = some r → ∃ s, s.uri = uri ∧ s.content = d.content ∧ Reviewed history s r) ∧
      ∀ p : ActionParams, p.uri = uri →
        (∀ range newText, IsOffer (session.server.actions p) uri range newText ↔
          ∃ r, d.Proposes r ∧ range = Range.full d.content ∧ newText = r.corrected) ∧
        ((∀ r, ¬ d.Proposes r) → session.server.actions p = .null)) ∧
    (∀ p : ActionParams, session.server.documents.get? p.uri = none →
      session.server.actions p = .null) ∧
    ∀ s report next, Step session (.ended s report) next →
      (∀ uri, (next.server.documents.get? uri).map Document.text =
        (session.server.documents.get? uri).map Document.text) ∧
      ((∀ d, session.server.documents.get? s.uri = some d → d.content ≠ s.content) →
        next.server = session.server) := by
  refine ⟨h.text_eq, fun uri d hd => ⟨fun r hr => h.reviewed hd hr, ?_⟩,
    fun p => Server.actions_of_closed, ?_⟩
  · rintro p rfl
    exact ⟨fun range newText => Server.isOffer_actions_iff hd,
      fun hn => Server.actions_of_not_proposes hd hn⟩
  · intro s report next hs
    refine ⟨fun uri => ?_, fun hn => ?_⟩
    · rw [hs.get?, Event.text_effect_ended]
    · cases hs with
      | ended server inFlight _ _ _ => exact Server.finish_of_stale hn

theorem documents_correct_edited_back :
    let report : Report := .ofFindings [] ['c']
    let history : List Event := [
      .ended ⟨['u'], ['a'], ['p']⟩ report, .changed ⟨['u'], [['a']]⟩,
      .changed ⟨['u'], [['b']]⟩, .begun ['u'], .opened ⟨['u'], ['p'], ['a']⟩]
    ∃ session, Run history session ∧ ∃ d, session.server.documents.get? ['u'] = some d ∧
      d.report = some report ∧
      (∃ s, s.uri = ['u'] ∧ s.content = d.content ∧ Reviewed history s report) ∧
      IsOffer (session.server.actions ⟨['u'], []⟩) ['u'] ⟨⟨0, 0⟩, ⟨0, 1⟩⟩ ['c'] := by
  intro report history
  have h := Run.start |>.step (.opened _ _ ⟨['u'], ['p'], ['a']⟩) |>.step (.begun _ _ ['u'])
    |>.step (.changed _ _ ⟨['u'], [['b']]⟩) |>.step (.changed _ _ ⟨['u'], [['a']]⟩)
    |>.step (.ended _ _ ⟨['u'], ['a'], ['p']⟩ report (List.mem_singleton.mpr rfl))
  obtain ⟨hreport, hoffer⟩ := (documents_correct h).2.1 ['u'] _ rfl
  refine ⟨_, h, _, rfl, rfl, hreport _ rfl, ((hoffer ⟨['u'], []⟩ rfl).1 _ _).mpr ?_⟩
  exact ⟨report, ⟨rfl, by decide, by decide⟩, by decide, rfl⟩

end Session

end SnippetReview.Editor
