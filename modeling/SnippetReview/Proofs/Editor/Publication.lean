import SnippetReview.Proofs.Editor.Session

/-!
What an editor is told of its documents. Reviews are started by new texts, and once those of a
document have ended, the last notice on it is of a review of the text that it has, or is empty after
it was closed.
-/

namespace SnippetReview.Editor

def Notice.diagnostics? (uri : Text) : Notice → Option (List Diagnostic)
  | publish u found => if u = uri then some found else none
  | log _ => none

def Server.shown? (server : Server) (uri : Text) : Option (List Diagnostic) :=
  (server.outbox.filterMap (Notice.diagnostics? uri)).getLast?

def Snapshot.diagnostics (s : Snapshot) (report : Report) : List Diagnostic :=
  report.findings.map fun f => Diagnostic.ofFinding f s.content

def Workspace.has (w : Workspace) (s : Snapshot) : Bool :=
  (w.get? s.uri).any fun d => d.content = s.content

theorem Workspace.has_iff {w : Workspace} {s : Snapshot} :
    w.has s = true ↔ ∃ d, w.get? s.uri = some d ∧ d.content = s.content := by
  simp only [has, Option.any_eq_true, decide_eq_true_eq]

/-! ### Notices of the server -/

namespace Server

variable {server : Server}

theorem shown?_of_outbox_append {next : Server} {sent : List Notice}
    (h : next.outbox = server.outbox ++ sent) (uri : Text) :
    next.shown? uri =
      (sent.filterMap (Notice.diagnostics? uri)).getLast?.or (server.shown? uri) := by
  simp only [shown?, h, List.filterMap_append, List.getLast?_append]

theorem outbox_send (h : server.phase = .running) (notice : Notice) :
    (server.send notice).outbox = server.outbox ++ [notice] := by
  simp only [send, h]

theorem phase_send (notice : Notice) : (server.send notice).phase = server.phase := by
  unfold send
  split <;> rfl

theorem changeDocument_eq (p : ChangeParams) :
    ∃ documents review, server.changeDocument p =
      ⟨{ server with documents := documents }, none, review⟩ := by
  unfold changeDocument
  cases p.texts.getLast? with
  | none => exact ⟨server.documents, none, rfl⟩
  | some content =>
    cases h : server.documents.change? p.uri content with
    | none => exact ⟨server.documents, none, by simp only [h]⟩
    | some documents => exact ⟨documents, documents.snapshot? p.uri, by simp only [h]⟩

theorem phase_finish (s : Snapshot) (report : Report) :
    (server.finish s report).phase = server.phase := by
  unfold finish
  cases server.documents.finish? s report with
  | none => rfl
  | some documents => exact phase_send _

theorem outbox_finish (h : server.phase = .running) (s : Snapshot) (report : Report) :
    (server.finish s report).outbox = server.outbox ++
      if server.documents.has s then [.publish s.uri (s.diagnostics report)] else [] := by
  by_cases hs : server.documents.has s = true
  · obtain ⟨d, hd, hc⟩ := Workspace.has_iff.mp hs
    have hf : server.documents.finish? s report =
        some (server.documents.put s.uri { d with report := some report }) := by
      simp [Workspace.finish?_eq, hd, Document.store?, hc]
    simp only [finish, hf, hs, if_true]
    apply outbox_send
    exact h
  · rw [if_neg hs, List.append_nil, finish_of_stale]
    intro d hd hc
    exact hs (Workspace.has_iff.mpr ⟨d, hd, hc⟩)

end Server

namespace Session

def Event.notices (w : Workspace) : Event → List Notice
  | closed uri => [.publish uri []]
  | ended s report => if w.has s then [.publish s.uri (s.diagnostics report)] else []
  | _ => []

theorem Run.phase_eq {history : List Event} {session : Session} (h : Run history session) :
    session.server.phase = .running := by
  induction h with
  | start => rfl
  | step _ hs ih =>
    rw [← ih]
    cases hs with
    | opened => rfl
    | changed server inFlight p =>
      obtain ⟨documents, review, hc⟩ := server.changeDocument_eq p
      rw [hc]
    | closed => exact Server.phase_send _
    | begun => rfl
    | ended => exact Server.phase_finish _ _

theorem Step.outbox_eq {session next : Session} {e : Event} (hs : Step session e next)
    (h : session.server.phase = .running) :
    next.server.outbox = session.server.outbox ++ e.notices session.server.documents := by
  cases hs with
  | opened => exact (List.append_nil _).symm
  | changed server inFlight p =>
    obtain ⟨documents, review, hc⟩ := server.changeDocument_eq p
    rw [hc]
    exact (List.append_nil _).symm
  | closed server inFlight uri =>
    apply Server.outbox_send
    exact h
  | begun => exact (List.append_nil _).symm
  | ended server inFlight s report => exact Server.outbox_finish h s report

def Event.shows (uri : Text) (w : Workspace) (last : Option (List Diagnostic)) :
    Event → Option (List Diagnostic)
  | closed u => if u = uri then some [] else last
  | ended s report => if s.uri = uri ∧ w.has s = true then some (s.diagnostics report) else last
  | _ => last

theorem Step.shown?_eq {session next : Session} {e : Event} (hs : Step session e next)
    (h : session.server.phase = .running) (uri : Text) :
    next.server.shown? uri =
      e.shows uri session.server.documents (session.server.shown? uri) := by
  rw [Server.shown?_of_outbox_append (hs.outbox_eq h)]
  cases e with
  | closed u => by_cases hu : u = uri <;> simp [Event.notices, Notice.diagnostics?, Event.shows, hu]
  | ended s report =>
    by_cases hh : session.server.documents.has s = true <;> by_cases hu : s.uri = uri <;>
      simp [Event.notices, Notice.diagnostics?, Event.shows, hu, hh]
  | _ => rfl

theorem Event.of_mem_notices {w : Workspace} {e : Event} {notice : Notice}
    (h : notice ∈ e.notices w) :
    (∃ uri, e = .closed uri ∧ notice = .publish uri []) ∨
      ∃ s report d, e = .ended s report ∧ w.get? s.uri = some d ∧ d.content = s.content ∧
        notice = .publish s.uri (s.diagnostics report) := by
  cases e with
  | closed uri => exact .inl ⟨uri, rfl, List.mem_singleton.mp h⟩
  | ended s report =>
    rw [notices] at h
    split at h
    · rename_i hh
      obtain ⟨d, hd, hc⟩ := Workspace.has_iff.mp hh
      exact .inr ⟨s, report, d, rfl, hd, hc, List.mem_singleton.mp h⟩
    · cases h
  | opened => cases h
  | changed => cases h
  | begun => cases h

/-! ### Closed documents -/

theorem Run.shown?_of_closed {history : List Event} {session : Session} (h : Run history session)
    {uri : Text} (hn : session.server.documents.get? uri = none) :
    (.closed uri ∈ history → session.server.shown? uri = some []) ∧
      (.closed uri ∉ history → session.server.shown? uri = none) := by
  induction h with
  | start => exact ⟨fun hm => (List.not_mem_nil hm).elim, fun _ => rfl⟩
  | @step history session next e h hs ih =>
    rw [hs.get?] at hn
    rw [hs.shown?_eq h.phase_eq]
    cases e with
    | opened p =>
      rw [Event.effect] at hn
      split at hn
      · cases hn
      · simpa [Event.shows] using ih hn
    | changed p =>
      have hf : session.server.documents.get? uri = none := by
        rw [Event.effect] at hn
        split at hn
        · cases hp : p.texts.getLast? with
          | none => simpa [hp] using hn
          | some content => simpa [hp] using hn
        · exact hn
      simpa [Event.shows] using ih hf
    | closed u =>
      by_cases hu : u = uri
      · simp [Event.shows, hu]
      · rw [Event.effect, if_neg hu] at hn
        simpa [Event.shows, hu, Ne.symm hu] using ih hn
    | begun u => simpa [Event.shows] using ih hn
    | ended s report =>
      have hf : session.server.documents.get? uri = none := by
        rw [Event.effect] at hn
        split at hn
        · exact Option.map_eq_none_iff.mp hn
        · exact hn
      have hh : ¬ (s.uri = uri ∧ session.server.documents.has s = true) := by
        rintro ⟨rfl, hh⟩
        simp [Workspace.has, hf] at hh
      simpa [Event.shows, hh] using ih hf

/-! ### Reviews that are due -/

def Event.starts (server : Server) : Event → List Text
  | opened p => ((server.openDocument p).review.map Snapshot.uri).toList
  | changed p => ((server.changeDocument p).review.map Snapshot.uri).toList
  | _ => []

/-- A session in which every review was started by a new text. The last argument holds the documents
whose reviews are still to take their snapshots, once for each review. -/
inductive Driven : List Event → Session → List Text → Prop
  | start : Driven [] ⟨{ phase := .running }, []⟩ []
  | begun {history : List Event} {session next : Session} {due : List Text} {uri : Text}
      (h : Driven history session due) (hd : uri ∈ due) (hs : Step session (.begun uri) next) :
      Driven (.begun uri :: history) next (due.erase uri)
  | step {history : List Event} {session next : Session} {due : List Text} {e : Event}
      (h : Driven history session due) (hs : Step session e next) (he : ∀ uri, e ≠ .begun uri) :
      Driven (e :: history) next (e.starts session.server ++ due)

theorem Driven.run {history : List Event} {session : Session} {due : List Text}
    (h : Driven history session due) : Run history session := by
  induction h with
  | start => exact .start
  | begun _ _ hs ih => exact ih.step hs
  | step _ hs _ ih => exact ih.step hs

theorem starts_opened (server : Server) (p : OpenParams) :
    (Event.opened p).starts server = [p.uri] := by
  simp [Event.starts, Server.openDocument, Workspace.snapshot?, Workspace.openDocument,
    Workspace.get?_put]

theorem mem_starts_changed {server : Server} {p : ChangeParams} {content : Text} {d : Document}
    (hp : p.texts.getLast? = some content) (hd : server.documents.get? p.uri = some d) :
    p.uri ∈ (Event.changed p).starts server := by
  have hc : server.documents.change? p.uri content =
      some (server.documents.put p.uri (d.edit content)) := by
    simp [Workspace.change?_eq, hd]
  simp [Event.starts, Server.changeDocument, hp, hc, Workspace.snapshot?, Workspace.get?_put]

def Current (history : List Event) (session : Session) (uri content : Text) : Prop :=
  ∃ s r, s.uri = uri ∧ s.content = content ∧ Reviewed history s r ∧
    session.server.shown? uri = some (s.diagnostics r)

def Awaited (session : Session) (due : List Text) (uri content : Text) : Prop :=
  uri ∈ due ∨ ∃ s ∈ session.inFlight, s.uri = uri ∧ s.content = content

theorem Current.later {history : List Event} {session next : Session} {uri content : Text}
    (h : Current history session uri content) (e : Event)
    (hn : next.server.shown? uri = session.server.shown? uri) :
    Current (e :: history) next uri content := by
  obtain ⟨s, r, hu, hc, hw, hs⟩ := h
  exact ⟨s, r, hu, hc, hw.later e, hn.trans hs⟩

def Followed (history : List Event) (session : Session) (due : List Text) (uri : Text) : Prop :=
  ∀ d, session.server.documents.get? uri = some d →
    Awaited session due uri d.content ∨ Current history session uri d.content

section

variable {history : List Event} {session next : Session} {due : List Text} {uri : Text}

theorem awaited_or_current_later {content : Text} {e : Event} (started : List Text)
    (h : Awaited session due uri content ∨ Current history session uri content)
    (hf : ∀ s ∈ session.inFlight, s.uri = uri → s.content = content → s ∈ next.inFlight)
    (hn : next.server.shown? uri = session.server.shown? uri) :
    Awaited next (started ++ due) uri content ∨ Current (e :: history) next uri content := by
  rcases h with (hm | ⟨s, hs, hu, hc⟩) | hc
  · exact .inl (.inl (List.mem_append_right _ hm))
  · exact .inl (.inr ⟨s, hf s hs hu hc, hu, hc⟩)
  · exact .inr (hc.later e hn)

variable (h : Followed history session due uri)
include h

theorem Followed.elsewhere {e : Event} (started : List Text)
    (hd : next.server.documents.get? uri = session.server.documents.get? uri)
    (hf : next.inFlight = session.inFlight)
    (hn : next.server.shown? uri = session.server.shown? uri) :
    Followed (e :: history) next (started ++ due) uri :=
  fun d hdoc => awaited_or_current_later started (h d (hd ▸ hdoc)) (fun _ hs _ _ => hf ▸ hs) hn

variable (hp : session.server.phase = .running)
include hp

theorem Followed.opened {p : OpenParams} (hs : Step session (.opened p) next) :
    Followed (.opened p :: history) next ((Event.opened p).starts session.server ++ due) uri := by
  have hshown := hs.shown?_eq hp uri
  have hget := hs.get? uri
  by_cases hu : p.uri = uri
  · intro d _
    refine .inl (.inl (List.mem_append_left _ ?_))
    rw [starts_opened, hu]
    exact List.mem_singleton_self uri
  · rw [Event.effect, if_neg hu] at hget
    cases hs
    exact h.elsewhere _ hget rfl hshown

theorem Followed.changed {p : ChangeParams} (hs : Step session (.changed p) next) :
    Followed (.changed p :: history) next ((Event.changed p).starts session.server ++ due) uri := by
  have hshown := hs.shown?_eq hp uri
  have hget := hs.get? uri
  rw [Event.effect] at hget
  by_cases hu : p.uri = uri
  · rw [if_pos hu] at hget
    cases ht : p.texts.getLast? with
    | none =>
      rw [ht] at hget
      cases hs
      exact h.elsewhere _ hget rfl hshown
    | some content =>
      rw [ht] at hget
      intro d hd
      obtain ⟨before, hb, -⟩ := Option.map_eq_some_iff.mp (hget.symm.trans hd)
      subst hu
      exact .inl (.inl (List.mem_append_left _ (mem_starts_changed ht hb)))
  · rw [if_neg hu] at hget
    cases hs
    exact h.elsewhere _ hget rfl hshown

theorem Followed.closed {u : Text} (hs : Step session (.closed u) next) :
    Followed (.closed u :: history) next due uri := by
  have hshown := hs.shown?_eq hp uri
  have hget := hs.get? uri
  rw [Event.effect] at hget
  by_cases hu : u = uri
  · rw [if_pos hu] at hget
    intro d hd
    cases hget.symm.trans hd
  · rw [if_neg hu] at hget
    rw [Event.shows, if_neg hu] at hshown
    cases hs
    exact h.elsewhere [] hget rfl hshown

theorem Followed.begun {u : Text} (hs : Step session (.begun u) next) :
    Followed (.begun u :: history) next (due.erase u) uri := by
  have hshown := hs.shown?_eq hp uri
  have hget : next.server.documents.get? uri = session.server.documents.get? uri := hs.get? uri
  intro d hd
  rw [hget] at hd
  cases hs with
  | begun server inFlight =>
    rcases h d hd with (hm | ⟨s, hs, hu, hc⟩) | hc
    · -- The snapshot that is taken now has the text of the document.
      by_cases hu : uri = u
      · subst hu
        have hf : server.documents.snapshot? uri = some ⟨uri, d.content, d.language⟩ :=
          congrArg (Option.map _) hd
        refine .inl (.inr ⟨⟨uri, d.content, d.language⟩, ?_, rfl, rfl⟩)
        simp [hf]
      · exact .inl (.inl ((List.mem_erase_of_ne hu).mpr hm))
    · exact .inl (.inr ⟨s, List.mem_append_right _ hs, hu, hc⟩)
    · exact .inr (hc.later _ hshown)

theorem Followed.ended {s : Snapshot} {report : Report}
    (hw : Reviewed (.ended s report :: history) s report)
    (hs : Step session (.ended s report) next) :
    Followed (.ended s report :: history) next due uri := by
  have hshown := hs.shown?_eq hp uri
  have hget := hs.get? uri
  rw [Event.shows] at hshown
  intro d hd
  obtain ⟨before, hb, -, hc⟩ := Event.of_effect_ended (hget.symm.trans hd)
  cases hs with
  | ended server inFlight _ _ hm =>
    by_cases ho : s.uri = uri ∧ s.content = d.content
    · obtain ⟨rfl, hs⟩ := ho
      refine .inr ⟨s, report, rfl, hs, hw, ?_⟩
      rw [hshown, if_pos]
      exact ⟨rfl, Workspace.has_iff.mpr ⟨before, hb, hc.trans hs.symm⟩⟩
    · have hih := h before hb
      rw [hc] at hih
      refine awaited_or_current_later [] hih ?_ ?_
      · intro t ht hu htc
        have hts : t ≠ s := by
          rintro rfl
          exact ho ⟨hu, htc⟩
        exact (List.mem_erase_of_ne hts).mpr ht
      · rw [hshown, if_neg]
        rintro ⟨rfl, hh⟩
        obtain ⟨found, hf, hfc⟩ := Workspace.has_iff.mp hh
        obtain rfl : before = found := Option.some.inj (hb.symm.trans hf)
        exact ho ⟨rfl, hfc.symm.trans hc⟩

end

-- Along the session, as a text becomes that of the document only with a review of it due.
theorem Driven.followed {history : List Event} {session : Session} {due : List Text}
    (h : Driven history session due) (uri : Text) : Followed history session due uri := by
  induction h with
  | start => exact fun d hd => nomatch hd
  | begun h _ hs ih => exact ih.begun h.run.phase_eq hs
  | @step history session next due e h hs he ih =>
    have hp := h.run.phase_eq
    cases e with
    | opened p => exact ih.opened hp hs
    | changed p => exact ih.changed hp hs
    | closed u => exact ih.closed hp hs
    | begun u => exact absurd rfl (he u)
    | ended s report =>
      have hm : s ∈ session.inFlight := by
        cases hs with
        | ended _ _ _ _ hm => exact hm
      exact ih.ended hp ⟨[], history, rfl, h.run.began hm⟩ hs

/-- Notices are sent for documents that close and for the reviews of texts that open documents still
have, and for nothing else. After the reviews of a document have ended, the last notice on it is of
a review of its text; it is empty from when the document was closed until it is opened again. -/
theorem publications_current {history : List Event} {session : Session} {due : List Text}
    (h : Driven history session due) :
    (∀ e next, Step session e next →
      next.server.outbox = session.server.outbox ++ e.notices session.server.documents ∧
      ∀ notice ∈ e.notices session.server.documents,
        (∃ uri, e = .closed uri ∧ notice = .publish uri []) ∨
        ∃ s report d, e = .ended s report ∧ session.server.documents.get? s.uri = some d ∧
          d.content = s.content ∧ notice = .publish s.uri (s.diagnostics report)) ∧
    (∀ uri, session.server.documents.get? uri = none →
      (.closed uri ∈ history → session.server.shown? uri = some []) ∧
      (.closed uri ∉ history → session.server.shown? uri = none)) ∧
    ∀ uri d, session.server.documents.get? uri = some d →
      uri ∉ due → (∀ s ∈ session.inFlight, s.uri ≠ uri) →
      ∃ s r, s.uri = uri ∧ s.content = d.content ∧ Reviewed history s r ∧
        session.server.shown? uri = some (s.diagnostics r) := by
  refine ⟨fun e next hs => ⟨hs.outbox_eq h.run.phase_eq, fun _ => Event.of_mem_notices⟩,
    fun uri => h.run.shown?_of_closed, ?_⟩
  intro uri d hd hdue hfly
  rcases h.followed uri d hd with (hm | ⟨s, hs, hu, -⟩) | hc
  · exact absurd hm hdue
  · exact absurd hu (hfly s hs)
  · exact hc

theorem publications_current_late_end :
    let history : List Event := [
      .ended ⟨['u'], ['a'], ['p']⟩ .degraded, .ended ⟨['u'], ['b'], ['p']⟩ (.ofFindings [] ['b']),
      .begun ['u'], .changed ⟨['u'], [['b']]⟩, .begun ['u'], .opened ⟨['u'], ['p'], ['a']⟩]
    ∃ session, Driven history session [] ∧ session.inFlight = [] ∧
      session.server.shown? ['u'] = some [] ∧
      ∃ d, session.server.documents.get? ['u'] = some d ∧ d.content = ['b'] ∧
        ∃ s r, s.uri = ['u'] ∧ s.content = d.content ∧ Reviewed history s r ∧
          session.server.shown? ['u'] = some (s.diagnostics r) := by
  have h := Driven.start |>.step (.opened _ _ ⟨['u'], ['p'], ['a']⟩) nofun
    |>.begun (by decide) (.begun _ _ ['u'])
    |>.step (.changed _ _ ⟨['u'], [['b']]⟩) nofun |>.begun (by decide) (.begun _ _ ['u'])
    |>.step (.ended _ _ ⟨['u'], ['b'], ['p']⟩ (.ofFindings [] ['b']) (by decide)) nofun
    |>.step (.ended _ _ ⟨['u'], ['a'], ['p']⟩ .degraded (by decide)) nofun
  exact ⟨_, h, rfl, rfl, _, rfl, rfl,
    (publications_current h).2.2 ['u'] _ rfl (by decide) (by decide)⟩

end Session

end SnippetReview.Editor
