import SnippetReview.Proofs.Editor.Session

namespace SnippetReview.Editor.Session

theorem lastText?_append {uri language content : Text} {later earlier : List Event}
    (h : lastText? uri (later ++ earlier) = some (language, content)) :
    (∃ p, .opened p ∈ later ∧ p.uri = uri ∧ p.language = language) ∨
      ∃ content, lastText? uri earlier = some (language, content) := by
  induction later generalizing content with
  | nil => exact .inr ⟨content, h⟩
  | cons e later ih =>
    have carry {c : Text} (hc : lastText? uri (later ++ earlier) = some (language, c)) :
        (∃ p, .opened p ∈ e :: later ∧ p.uri = uri ∧ p.language = language) ∨
          ∃ content, lastText? uri earlier = some (language, content) := by
      rcases ih hc with ⟨p, hp, hu, hl⟩ | hf
      · exact .inl ⟨p, List.mem_cons_of_mem _ hp, hu, hl⟩
      · exact .inr hf
    rw [List.cons_append] at h
    cases e with
    | opened p =>
      rw [lastText?] at h
      split at h
      · rename_i hu
        cases h
        exact .inl ⟨p, List.mem_cons_self, hu, rfl⟩
      · exact carry h
    | changed p =>
      rw [lastText?] at h
      split at h
      · cases hp : p.texts.getLast? with
        | none =>
          rw [hp] at h
          exact carry h
        | some text =>
          rw [hp] at h
          obtain ⟨⟨_, c⟩, hc, he⟩ := Option.map_eq_some_iff.mp h
          cases he
          exact carry hc
      · exact carry h
    | closed u =>
      rw [lastText?] at h
      split at h
      · cases h
      · exact carry h
    | begun u => exact carry h
    | ended s report => exact carry h

def ReopenedSince (history : List Event) (s : Snapshot) (language : Text) : Prop :=
  ∃ between earlier session p, history = between ++ .begun s.uri :: earlier ∧
    Run earlier session ∧ session.server.documents.snapshot? s.uri = some s ∧
    .opened p ∈ between ∧ p.uri = s.uri ∧ p.language = language

theorem Run.language_of_inFlight {history : List Event} {session : Session}
    (h : Run history session) {s : Snapshot} (hm : s ∈ session.inFlight) {d : Document}
    (hd : session.server.documents.get? s.uri = some d) :
    s.language = d.language ∨ ReopenedSince history s d.language := by
  have htext : lastText? s.uri history = some (d.language, d.content) := by
    rw [← h.text_eq, hd]
    rfl
  obtain ⟨between, earlier, before, rfl, hrun, hs⟩ := h.began hm
  rcases lastText?_append htext with ⟨p, hp, hu, hl⟩ | ⟨content, hc⟩
  · exact .inr ⟨between, earlier, before, p, rfl, hrun, hs, hp, hu, hl⟩
  · -- The text before the snapshot was taken is that of the snapshot.
    left
    obtain ⟨found, hf, he⟩ := Option.map_eq_some_iff.mp hs
    have hb : lastText? s.uri earlier = some (found.language, found.content) := by
      rw [← hrun.text_eq, hf]
      rfl
    rw [lastText?, hb] at hc
    rw [← he]
    exact congrArg Prod.fst (Option.some.inj hc)

def FitsLanguage (history : List Event) (s : Snapshot) (report : Report) (language : Text) : Prop :=
  ∃ later earlier, history = later ++ .ended s report :: earlier ∧
    (s.language = language ∨ ReopenedSince earlier s language)

theorem Run.fitsLanguage {history : List Event} {session : Session} (h : Run history session)
    {uri : Text} {d : Document} (hd : session.server.documents.get? uri = some d) {r : Report}
    (hr : d.report = some r) :
    ∃ s, s.uri = uri ∧ s.content = d.content ∧ FitsLanguage history s r d.language := by
  induction h with
  | start => cases hd
  | @step history session next e h hs ih =>
    rw [hs.get?] at hd
    rcases Event.of_effect_report hd hr with hf | ⟨s, rfl, rfl, hc⟩
    · obtain ⟨s, hu, hc, later, earlier, rfl, hl⟩ := ih hf
      exact ⟨s, hu, hc, e :: later, earlier, rfl, hl⟩
    · obtain ⟨before, hb, hl, -⟩ := Event.of_effect_ended hd
      have hm : s ∈ session.inFlight := by
        cases hs with
        | ended _ _ _ _ hm => exact hm
      refine ⟨s, rfl, hc, [], history, rfl, ?_⟩
      rw [← hl]
      exact h.language_of_inFlight hm hb

/-- A report that is kept, and published, is of a review in the language that the document has, or
the document was opened in that language while the review was in flight. -/
theorem language_kept {history : List Event} {session : Session} (h : Run history session) :
    (∀ s report next d, Step session (.ended s report) next →
      session.server.documents.get? s.uri = some d →
      s.language = d.language ∨ ReopenedSince history s d.language) ∧
    ∀ uri d r, session.server.documents.get? uri = some d → d.report = some r →
      ∃ s, s.uri = uri ∧ s.content = d.content ∧ FitsLanguage history s r d.language := by
  refine ⟨fun s report next d hs hd => ?_, fun uri d r hd hr => h.fitsLanguage hd hr⟩
  cases hs with
  | ended _ _ _ _ hm => exact h.language_of_inFlight hm hd

theorem language_kept_reopened :
    let history : List Event := [
      .ended ⟨['u'], ['a'], ['p']⟩ .degraded, .opened ⟨['u'], ['q'], ['a']⟩, .closed ['u'],
      .begun ['u'], .opened ⟨['u'], ['p'], ['a']⟩]
    ∃ session, Run history session ∧ ∃ d, session.server.documents.get? ['u'] = some d ∧
      d.language = ['q'] ∧ d.report = some .degraded ∧
      ∃ s, s.uri = ['u'] ∧ s.content = d.content ∧ FitsLanguage history s .degraded d.language := by
  have h := Run.start |>.step (.opened _ _ ⟨['u'], ['p'], ['a']⟩) |>.step (.begun _ _ ['u'])
    |>.step (.closed _ _ ['u']) |>.step (.opened _ _ ⟨['u'], ['q'], ['a']⟩)
    |>.step (.ended _ _ ⟨['u'], ['a'], ['p']⟩ .degraded (by decide))
  exact ⟨_, h, _, rfl, rfl, rfl, (language_kept h).2 _ _ _ rfl rfl⟩

/-- A kept report may be of a review in a language that the document no longer has. -/
theorem language_lost_on_reopening :
    ¬ ∀ history session, Run history session → ∀ uri d r,
      session.server.documents.get? uri = some d → d.report = some r →
      ∃ s, s.uri = uri ∧ s.content = d.content ∧ s.language = d.language ∧
        Reviewed history s r := by
  intro hall
  have h := Run.start |>.step (.opened _ _ ⟨['u'], ['p'], ['a']⟩) |>.step (.begun _ _ ['u'])
    |>.step (.closed _ _ ['u']) |>.step (.opened _ _ ⟨['u'], ['q'], ['a']⟩)
    |>.step (.ended _ _ ⟨['u'], ['a'], ['p']⟩ .degraded (by decide))
  obtain ⟨s, -, -, hl, later, earlier, he, -⟩ := hall _ _ h ['u'] _ _ rfl rfl
  -- The only review that ended was in the language before the reopening.
  have hm : Event.ended s .degraded ∈ later ++ .ended s .degraded :: earlier :=
    List.mem_append_right _ List.mem_cons_self
  rw [← he] at hm
  simp only [List.mem_cons, reduceCtorEq, List.not_mem_nil, or_false, Event.ended.injEq] at hm
  obtain ⟨rfl, -⟩ := hm
  revert hl
  decide

end SnippetReview.Editor.Session
