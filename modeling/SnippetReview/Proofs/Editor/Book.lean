import SnippetReview.Proofs.Catalog
import SnippetReview.Proofs.Editor.Command
import SnippetReview.Proofs.Editor.Publication
import SnippetReview.Proofs.Shipped.Corrections

/-!
A server that handles one message after the other keeps a book, which holds the language and text of
each open document. All that it answers and sends is read off the book.
-/

namespace SnippetReview.Editor

open Enrichment Json

abbrev Book := Text → Option (Text × Text)

namespace Book

def empty : Book :=
  fun _ => none

def write (book : Book) (uri : Text) (entry : Option (Text × Text)) : Book :=
  fun u => if uri = u then entry else book u

theorem write_same (book : Book) (uri : Text) (entry : Option (Text × Text)) :
    book.write uri entry uri = entry :=
  if_pos rfl

theorem write_self (book : Book) (uri : Text) : book.write uri (book uri) = book := by
  funext u
  by_cases hu : uri = u
  · rw [write, if_pos hu, hu]
  · rw [write, if_neg hu]

end Book

namespace Command

def update (book : Book) : Command → Book
  | opened p => book.write p.uri (some (p.language, p.content))
  | changed p =>
    match p.texts.getLast? with
    | none => book
    | some content => book.write p.uri ((book p.uri).map fun entry => (entry.1, content))
  | closed uri => book.write uri none
  | asked _ _ => book

def publication (catalog : Catalog) (uri language content : Text) : Notice :=
  .publish uri (((catalog.get language).review content).findings.map fun f =>
    Diagnostic.ofFinding f content)

def Corrects (catalog : Catalog) (entry : Option (Text × Text)) (range : Range) (newText : Text) :
    Prop :=
  ∃ language content, entry = some (language, content) ∧
    (catalog.get language).correct content ≠ content ∧
    range = Range.full content ∧ newText = (catalog.get language).correct content

/-- What a command may come to. -/
inductive Yields (catalog : Catalog) (book : Book) : Command → Exchange → Prop
  | opened (p : OpenParams) :
      Yields catalog book (.opened p) ⟨none, [publication catalog p.uri p.language p.content]⟩
  | changed {p : ChangeParams} {language old content : Text}
      (hp : p.texts.getLast? = some content) (hb : book p.uri = some (language, old)) :
      Yields catalog book (.changed p) ⟨none, [publication catalog p.uri language content]⟩
  | unchanged {p : ChangeParams} (h : p.texts.getLast? = none ∨ book p.uri = none) :
      Yields catalog book (.changed p) ⟨none, []⟩
  | closed (uri : Text) : Yields catalog book (.closed uri) ⟨none, [.publish uri []]⟩
  | asked {id : MessageId} {p : ActionParams} {answer : Json}
      (ho : ∀ range newText,
        IsOffer answer p.uri range newText ↔ Corrects catalog (book p.uri) range newText)
      (hn : (∀ range newText, ¬ Corrects catalog (book p.uri) range newText) → answer = .null) :
      Yields catalog book (.asked id p) ⟨some ⟨id, .ok answer⟩, []⟩

inductive Replay (catalog : Catalog) : Book → List Command → List Exchange → Book → Prop
  | nil (book : Book) : Replay catalog book [] [] book
  | cons {book last : Book} {command : Command} {exchange : Exchange} {commands : List Command}
      {exchanges : List Exchange} (h : command.Yields catalog book exchange)
      (hr : Replay catalog (command.update book) commands exchanges last) :
      Replay catalog book (command :: commands) (exchange :: exchanges) last

section

variable {catalog : Catalog} {book last : Book} {commands : List Command}
  {exchanges : List Exchange}

theorem Replay.of_opened {p : OpenParams}
    (h : Replay catalog book (.opened p :: commands) exchanges last) :
    ∃ rest, exchanges = ⟨none, [publication catalog p.uri p.language p.content]⟩ :: rest ∧
      Replay catalog (book.write p.uri (some (p.language, p.content))) commands rest last := by
  cases h with
  | cons hy hr =>
    cases hy
    exact ⟨_, rfl, hr⟩

theorem Replay.of_changed {p : ChangeParams} {language old content : Text}
    (h : Replay catalog book (.changed p :: commands) exchanges last)
    (ht : p.texts.getLast? = some content) (hb : book p.uri = some (language, old)) :
    ∃ rest, exchanges = ⟨none, [publication catalog p.uri language content]⟩ :: rest ∧
      Replay catalog (book.write p.uri (some (language, content))) commands rest last := by
  cases h with
  | cons hy hr =>
    rw [update, ht] at hr
    simp only [hb, Option.map_some] at hr
    cases hy with
    | changed ht' hb' =>
      cases ht.symm.trans ht'
      cases hb.symm.trans hb'
      exact ⟨_, rfl, hr⟩
    | unchanged hn =>
      rcases hn with hn | hn
      · cases ht.symm.trans hn
      · cases hb.symm.trans hn

theorem Replay.of_asked {id : MessageId} {p : ActionParams}
    (h : Replay catalog book (.asked id p :: commands) exchanges last) :
    ∃ answer rest, exchanges = ⟨some ⟨id, .ok answer⟩, []⟩ :: rest ∧
      (∀ range newText,
        IsOffer answer p.uri range newText ↔ Corrects catalog (book p.uri) range newText) ∧
      ((∀ range newText, ¬ Corrects catalog (book p.uri) range newText) → answer = .null) ∧
      Replay catalog book commands rest last := by
  cases h with
  | cons hy hr =>
    cases hy with
    | asked ho hn => exact ⟨_, _, rfl, ho, hn, hr⟩

theorem not_corrects {language content : Text}
    (h : (catalog.get language).correct content = content) (range : Range) (newText : Text) :
    ¬ Corrects catalog (some (language, content)) range newText := by
  rintro ⟨_, _, he, hdiffers, -⟩
  cases he
  exact hdiffers h

end

end Command

def Server.serveAll? (reviewer : Reviewer) (service : Question → Reply) :
    Server → List Message → Option (List Exchange × Server)
  | server, [] => some ([], server)
  | server, m :: messages => do
    let (exchange, server) ← server.serve? reviewer service m
    let (exchanges, last) ← serveAll? reviewer service server messages
    return (exchange :: exchanges, last)

namespace Server

/-- The server has reviewed all documents of the book and told what it had to. -/
structure Keeps (server : Server) (catalog : Catalog) (book : Book) : Prop where
  phase : server.phase = .running
  outbox : server.outbox = []
  documents : ∀ uri, server.documents.get? uri = (book uri).map fun entry =>
    ⟨entry.2, entry.1, some ((catalog.get entry.1).review entry.2)⟩

variable {server next : Server} {catalog : Catalog} {book : Book} {service : Question → Reply}
  {m : Message}

theorem receive?_of_running (h : server.phase = .running) {name : Text} {method : Method}
    (hm : m.method = name) (hname : Method.ofName? name = some method)
    (hn : method = .didOpen ∨ method = .didChange ∨ method = .didClose ∨ method = .codeAction) :
    server.receive? m = some (server.handleRunning m method) := by
  rw [receive?, h, hm, hname]
  rcases hn with rfl | rfl | rfl | rfl <;> simp [handleMethod, phaseFault, h]

theorem notify_of_params {α : Type} {params : Option α} {p : α} {handle : α → Handled}
    (hi : m.id = none) (hp : params = some p) : server.notify m params handle = handle p := by
  unfold notify
  rw [hi, hp]
  rfl

theorem serve?_of_receive? {response : Option Response}
    (h : server.receive? m = some ⟨next, response, none⟩) :
    server.serve? ⟨catalog, none⟩ service m =
      some (⟨response, next.outbox⟩, { next with outbox := [] }) := by
  rw [serve?, h]
  rfl

theorem serve?_of_idle {response : Option Response}
    (h : server.receive? m = some ⟨server, response, none⟩) (hout : server.outbox = []) :
    server.serve? ⟨catalog, none⟩ service m = some (⟨response, []⟩, server) := by
  rw [serve?_of_receive? h]
  cases server
  cases hout
  rfl

theorem serve?_of_review {uri : Text} {d : Document}
    (h : server.receive? m = some ⟨next, none, next.documents.snapshot? uri⟩)
    (hphase : next.phase = .running) (hout : next.outbox = [])
    (hd : next.documents.get? uri = some d) :
    ∃ last, server.serve? ⟨catalog, none⟩ service m =
        some (⟨none, [Command.publication catalog uri d.language d.content]⟩, last) ∧
      last.phase = .running ∧ last.outbox = [] ∧
      ∀ u, last.documents.get? u =
        if uri = u then some { d with report := some ((catalog.get d.language).review d.content) }
        else next.documents.get? u := by
  have hs : next.documents.snapshot? uri = some ⟨uri, d.content, d.language⟩ := by
    rw [Workspace.snapshot?, hd]
    rfl
  let s : Snapshot := ⟨uri, d.content, d.language⟩
  let report := (catalog.get d.language).review d.content
  have hhas : next.documents.has s = true := Workspace.has_iff.mpr ⟨d, hd, rfl⟩
  have hsent : (next.finish s report).outbox =
      [Command.publication catalog uri d.language d.content] := by
    rw [outbox_finish hphase, hout, if_pos hhas]
    rfl
  refine ⟨{ next.finish s report with outbox := [] }, ?_, ?_, rfl, ?_⟩
  · rw [serve?, h, Option.map_some, hs, ← hsent]
    rfl
  · exact (phase_finish s report).trans hphase
  · intro u
    calc (next.finish s report).documents.get? u
        = if uri = u then (next.documents.get? u).map fun d => (d.store? s.content report).getD d
          else next.documents.get? u := by
          rw [documents_finish, Workspace.get?_finish?]
      _ = _ := by
          by_cases hu : uri = u
          · subst hu
            simp [hd, Document.store?, s, report]
          · rw [if_neg hu, if_neg hu]

theorem Keeps.of_review (h : server.Keeps catalog book) {last : Server} {uri : Text} {d : Document}
    (hphase : last.phase = .running) (hout : last.outbox = [])
    (hnext : ∀ u, next.documents.get? u = if uri = u then some d else server.documents.get? u)
    (hlast : ∀ u, last.documents.get? u =
      if uri = u then some { d with report := some ((catalog.get d.language).review d.content) }
      else next.documents.get? u) :
    last.Keeps catalog (book.write uri (some (d.language, d.content))) := by
  refine ⟨hphase, hout, fun u => ?_⟩
  rw [hlast u, hnext u, h.documents u, Book.write]
  by_cases hu : uri = u
  · rw [if_pos hu, if_pos hu]
    rfl
  · rw [if_neg hu, if_neg hu, if_neg hu]

theorem Keeps.serve?_opened (h : server.Keeps catalog book) {p : OpenParams}
    (hm : m.method = "textDocument/didOpen".toList) (hi : m.id = none)
    (hp : m.params.bind OpenParams.ofJson? = some p) :
    ∃ exchange last, server.serve? ⟨catalog, none⟩ service m = some (exchange, last) ∧
      (Command.opened p).Yields catalog book exchange ∧
      last.Keeps catalog ((Command.opened p).update book) := by
  have hr := receive?_of_running h.phase hm rfl (.inl rfl)
  rw [handleRunning, notify_of_params hi hp, openDocument] at hr
  have hnext (u : Text) : (server.documents.openDocument p.uri p.language p.content).get? u =
      if p.uri = u then some ⟨p.content, p.language, none⟩ else server.documents.get? u :=
    Workspace.get?_put _ _ _ _
  obtain ⟨last, hs, hphase, hout, hlast⟩ :=
    serve?_of_review hr h.phase h.outbox ((hnext p.uri).trans (if_pos rfl))
  exact ⟨_, last, hs, .opened p, h.of_review hphase hout hnext hlast⟩

theorem changeDocument_of_none {p : ChangeParams} {content : Text}
    (hp : p.texts.getLast? = some content) (hd : server.documents.get? p.uri = none) :
    server.changeDocument p = ⟨server, none, none⟩ := by
  have hc : server.documents.change? p.uri content = none := by
    rw [Workspace.change?_eq, hd]
    rfl
  simp only [changeDocument, hp, hc]

theorem changeDocument_of_some {p : ChangeParams} {content : Text} {d : Document}
    (hp : p.texts.getLast? = some content) (hd : server.documents.get? p.uri = some d) :
    ∃ documents, server.changeDocument p =
        ⟨{ server with documents := documents }, none, documents.snapshot? p.uri⟩ ∧
      ∀ u, documents.get? u =
        if p.uri = u then some (d.edit content) else server.documents.get? u := by
  have hc : server.documents.change? p.uri content =
      some (server.documents.put p.uri (d.edit content)) := by
    rw [Workspace.change?_eq, hd]
    rfl
  exact ⟨server.documents.put p.uri (d.edit content), by simp only [changeDocument, hp, hc],
    fun u => Workspace.get?_put _ _ _ _⟩

theorem Keeps.serve?_changed (h : server.Keeps catalog book) {p : ChangeParams}
    (hm : m.method = "textDocument/didChange".toList) (hi : m.id = none)
    (hp : m.params.bind ChangeParams.ofJson? = some p) :
    ∃ exchange last, server.serve? ⟨catalog, none⟩ service m = some (exchange, last) ∧
      (Command.changed p).Yields catalog book exchange ∧
      last.Keeps catalog ((Command.changed p).update book) := by
  have hr := receive?_of_running h.phase hm rfl (.inr (.inl rfl))
  rw [handleRunning, notify_of_params hi hp] at hr
  have hidle (hs : server.changeDocument p = ⟨server, none, none⟩) :
      server.serve? ⟨catalog, none⟩ service m = some (⟨none, []⟩, server) := by
    rw [hs] at hr
    exact serve?_of_idle hr h.outbox
  have hd := h.documents p.uri
  cases ht : p.texts.getLast? with
  | none =>
    refine ⟨_, server, hidle ?_, .unchanged (.inl ht), ?_⟩
    · simp only [changeDocument, ht]
    · simpa only [Command.update, ht] using h
  | some content =>
    cases hb : book p.uri with
    | none =>
      rw [hb] at hd
      refine ⟨_, server, hidle (changeDocument_of_none ht hd), .unchanged (.inr hb), ?_⟩
      have he := book.write_self p.uri
      rw [hb] at he
      simpa only [Command.update, ht, hb, Option.map_none, he] using h
    | some entry =>
      rw [hb] at hd
      obtain ⟨documents, hc, hnext⟩ := changeDocument_of_some ht hd
      rw [hc] at hr
      obtain ⟨last, hs, hphase, hout, hlast⟩ :=
        serve?_of_review hr h.phase h.outbox ((hnext p.uri).trans (if_pos rfl))
      refine ⟨_, last, hs, .changed ht hb, ?_⟩
      simp only [Command.update, ht, hb, Option.map_some]
      exact h.of_review hphase hout hnext hlast

theorem Keeps.serve?_closed (h : server.Keeps catalog book) {uri : Text}
    (hm : m.method = "textDocument/didClose".toList) (hi : m.id = none)
    (hp : m.params.bind closeUri? = some uri) :
    ∃ exchange last, server.serve? ⟨catalog, none⟩ service m = some (exchange, last) ∧
      (Command.closed uri).Yields catalog book exchange ∧
      last.Keeps catalog ((Command.closed uri).update book) := by
  have hr := receive?_of_running h.phase hm rfl (.inr (.inr (.inl rfl)))
  rw [handleRunning, notify_of_params hi hp] at hr
  let closed : Server := { server with documents := server.documents.close uri }
  let next := closed.send (.publish uri [])
  have hphase : closed.phase = .running := h.phase
  have hsent : next.outbox = [.publish uri []] := by
    rw [outbox_send hphase]
    exact congrArg (fun sent => sent ++ [Notice.publish uri []]) h.outbox
  have hs : server.serve? ⟨catalog, none⟩ service m =
      some (⟨none, next.outbox⟩, { next with outbox := [] }) := serve?_of_receive? hr
  rw [hsent] at hs
  refine ⟨_, _, hs, .closed uri, (phase_send _).trans hphase, rfl, fun u => ?_⟩
  calc next.documents.get? u
      = if uri = u then none else server.documents.get? u := by
        rw [documents_send]
        exact Workspace.get?_close _ _ _
    _ = _ := by
        rw [h.documents u, Command.update, Book.write]
        by_cases hu : uri = u
        · rw [if_pos hu, if_pos hu]
          rfl
        · rw [if_neg hu, if_neg hu]

theorem Keeps.proposes_iff_corrects (h : server.Keeps catalog book) (hc : catalog.CorrectsOnce)
    {uri : Text} {d : Document} (hd : server.documents.get? uri = some d) {range : Range}
    {newText : Text} :
    (∃ r, d.Proposes r ∧ range = Range.full d.content ∧ newText = r.corrected) ↔
      Command.Corrects catalog (book uri) range newText := by
  obtain ⟨⟨language, content⟩, hb, rfl⟩ :=
    Option.map_eq_some_iff.mp ((h.documents uri).symm.trans hd)
  constructor
  · rintro ⟨_, ⟨hr, -, hn⟩, rfl, rfl⟩
    cases hr
    exact ⟨language, content, hb, hn, rfl, rfl⟩
  · rintro ⟨_, _, he, hn, rfl, rfl⟩
    cases hb.symm.trans he
    -- An empty correction would not be offered, but only an empty text has one.
    refine ⟨(catalog.get language).review content, ⟨rfl, fun hz => hn ?_, hn⟩, rfl, rfl⟩
    exact Eq.trans hz (hc.keeps language content hz).symm

theorem Keeps.yields_asked (h : server.Keeps catalog book) (hc : catalog.CorrectsOnce)
    (id : MessageId) (p : ActionParams) :
    (Command.asked id p).Yields catalog book ⟨some ⟨id, .ok (server.actions p)⟩, []⟩ := by
  cases hd : server.documents.get? p.uri with
  | none =>
    have hb : book p.uri = none := Option.map_eq_none_iff.mp ((h.documents p.uri).symm.trans hd)
    rw [actions_of_closed hd]
    refine .asked (fun range newText => ⟨fun ho => absurd ho not_isOffer_null, ?_⟩) fun _ => rfl
    rintro ⟨_, _, he, -⟩
    cases hb.symm.trans he
  | some d =>
    refine .asked (fun range newText => ?_) fun hn => actions_of_not_proposes hd fun r hr => ?_
    · exact (isOffer_actions_iff hd).trans (h.proposes_iff_corrects hc hd)
    · exact hn _ _ ((h.proposes_iff_corrects hc hd).mp ⟨r, hr, rfl, rfl⟩)

theorem Keeps.serve?_asked (h : server.Keeps catalog book) (hc : catalog.CorrectsOnce)
    {id : MessageId} {p : ActionParams} (hm : m.method = "textDocument/codeAction".toList)
    (hi : m.id = some id) (hp : m.params.bind ActionParams.ofJson? = some p) :
    ∃ exchange last, server.serve? ⟨catalog, none⟩ service m = some (exchange, last) ∧
      (Command.asked id p).Yields catalog book exchange ∧
      last.Keeps catalog ((Command.asked id p).update book) := by
  have hr : server.receive? m = some ⟨server, some ⟨id, .ok (server.actions p)⟩, none⟩ := by
    rw [receive?_of_running h.phase hm rfl (.inr (.inr (.inr rfl)))]
    simp only [handleRunning, answer, respond, hi, hp, Option.map_some]
  exact ⟨_, server, serve?_of_idle hr h.outbox, h.yields_asked hc id p, h⟩

theorem Keeps.serve?_of_command (h : server.Keeps catalog book) (hc : catalog.CorrectsOnce)
    {command : Command} (hm : m.Says command) :
    ∃ exchange next, server.serve? ⟨catalog, none⟩ service m = some (exchange, next) ∧
      command.Yields catalog book exchange ∧ next.Keeps catalog (command.update book) := by
  cases hm with
  | opened hm hi hp => exact h.serve?_opened hm hi hp
  | changed hm hi hp => exact h.serve?_changed hm hi hp
  | closed hm hi hp => exact h.serve?_closed hm hi hp
  | asked hm hi hp => exact h.serve?_asked hc hm hi hp

theorem serveAll?_cons {exchange : Exchange} {exchanges : List Exchange} {last : Server}
    {messages : List Message}
    (hm : server.serve? ⟨catalog, none⟩ service m = some (exchange, next))
    (hl : next.serveAll? ⟨catalog, none⟩ service messages = some (exchanges, last)) :
    server.serveAll? ⟨catalog, none⟩ service (m :: messages) =
      some (exchange :: exchanges, last) := by
  rw [serveAll?, hm]
  simp only [Option.bind_eq_bind, Option.bind_some, hl]
  rfl

theorem Keeps.serveAll?_of_commands (h : server.Keeps catalog book) (hc : catalog.CorrectsOnce)
    {messages : List Message} {commands : List Command}
    (hm : List.Forall₂ Message.Says messages commands) (service : Question → Reply) :
    ∃ exchanges last final, server.serveAll? ⟨catalog, none⟩ service messages =
        some (exchanges, last) ∧
      Command.Replay catalog book commands exchanges final ∧ last.Keeps catalog final := by
  -- Each message leaves a server that keeps the next book, so server and book are general.
  induction hm generalizing server book with
  | nil => exact ⟨[], server, book, rfl, .nil book, h⟩
  | cons hm _ ih =>
    obtain ⟨_, next, hs, hy, hn⟩ := h.serve?_of_command hc hm
    obtain ⟨_, last, final, hl, hr, hk⟩ := ih hn
    exact ⟨_, last, final, serveAll?_cons hs hl, .cons hy hr, hk⟩

theorem serve?_of_starts {first : Message} {id : MessageId} (h : first.Starts id)
    (service : Question → Reply) :
    ∃ server, ({} : Server).serve? ⟨catalog, none⟩ service first =
        some (⟨some ⟨id, .ok introduction⟩, []⟩, server) ∧ server.Keeps catalog .empty := by
  have hname : Method.ofName? first.method = some .start := by
    rw [h.method]
    rfl
  have hr : ({} : Server).receive? first =
      some ⟨{ phase := .running }, some ⟨id, .ok introduction⟩, none⟩ := by
    simp [receive?, hname, handleMethod, start, h.id, h.params, answer, respond]
  exact ⟨{ phase := .running }, serve?_of_receive? hr, rfl, rfl, fun _ => rfl⟩

theorem serveAll?_of_starts {first : Message} {id : MessageId} (hf : first.Starts id)
    (hc : catalog.CorrectsOnce) {messages : List Message} {commands : List Command}
    (hm : List.Forall₂ Message.Says messages commands) (service : Question → Reply) :
    ∃ exchanges last final, ({} : Server).serveAll? ⟨catalog, none⟩ service (first :: messages) =
        some (⟨some ⟨id, .ok introduction⟩, []⟩ :: exchanges, last) ∧
      Command.Replay catalog .empty commands exchanges final ∧ last.Keeps catalog final := by
  obtain ⟨server, hs, hk : server.Keeps catalog .empty⟩ := serve?_of_starts hf service
  obtain ⟨exchanges, last, final, hl, hr, hk⟩ := hk.serveAll?_of_commands hc hm service
  exact ⟨exchanges, last, final, serveAll?_cons hs hl, hr, hk⟩

theorem Keeps.serveAll?_corrected (h : server.Keeps catalog book) (hc : catalog.CorrectsOnce)
    {change question : Message} {p : ChangeParams} {id : MessageId} {q : ActionParams}
    {language content : Text} (hchange : change.Says (.changed p))
    (hquestion : question.Says (.asked id q)) (hq : q.uri = p.uri)
    (hb : book p.uri = some (language, content))
    (ht : p.texts.getLast? = some ((catalog.get language).correct content))
    (service : Question → Reply) :
    ∃ shown final, server.serveAll? ⟨catalog, none⟩ service [change, question] =
      some ([shown, ⟨some ⟨id, .ok .null⟩, []⟩], final) := by
  obtain ⟨_, final, _, hfinal, hr, -⟩ :=
    h.serveAll?_of_commands hc (.cons hchange (.cons hquestion .nil)) service
  obtain ⟨_, rfl, ha⟩ := hr.of_changed ht hb
  obtain ⟨_, _, rfl, -, hn, he⟩ := ha.of_asked
  cases he
  rw [hq, Book.write_same] at hn
  rw [hn (Command.not_corrects (hc.once language content))] at hfinal
  exact ⟨_, final, hfinal⟩

/-- With the profiles that come with the program, a server that was started answers and sends what
the book of the documents says, whatever an editor tells or asks it. Once a document has its
corrected text, there is no quick fix for it. -/
theorem serves_by_book {first : Message} {id : MessageId} (hf : first.Starts id)
    {messages : List Message} {commands : List Command}
    (hm : List.Forall₂ Message.Says messages commands) (service : Question → Reply) :
    ∃ catalog exchanges last book, Shipped.catalog = .ok catalog ∧
      ({} : Server).serveAll? ⟨catalog, none⟩ service (first :: messages) =
        some (⟨some ⟨id, .ok introduction⟩, []⟩ :: exchanges, last) ∧
      Command.Replay catalog .empty commands exchanges book ∧
      (∀ uri, (last.documents.get? uri).map Document.text = book uri) ∧
      ∀ change question p id q language content, Message.Says change (.changed p) →
        Message.Says question (.asked id q) → q.uri = p.uri →
        book p.uri = some (language, content) →
        p.texts.getLast? = some ((catalog.get language).correct content) →
        ∃ shown final, last.serveAll? ⟨catalog, none⟩ service [change, question] =
          some ([shown, ⟨some ⟨id, .ok .null⟩, []⟩], final) := by
  obtain ⟨catalog, hcat, -⟩ := Shipped.exists_catalog
  have hc := Shipped.correctsOnce_of_catalog hcat
  obtain ⟨exchanges, last, book, hl, hr, hk⟩ := serveAll?_of_starts hf hc hm service
  refine ⟨catalog, exchanges, last, book, hcat, hl, hr, fun uri => ?_, ?_⟩
  · rw [hk.documents uri, Option.map_map]
    exact Option.map_id'
  · intro change question p id q language content hchange hquestion hq hb ht
    exact hk.serveAll?_corrected hc hchange hquestion hq hb ht service

theorem serves_by_book_misspelled :
    let uri := "file:///tmp/snippet.py".toList
    let content := "pritn(x)".toList
    let corrected := "print(x)".toList
    let commands : List Command := [.opened ⟨uri, "python".toList, content⟩,
      .asked (.number 2) ⟨uri, []⟩, .changed ⟨uri, [[], corrected]⟩, .asked (.number 3) ⟨uri, []⟩,
      .closed uri]
    ∃ catalog answer last, Shipped.catalog = .ok catalog ∧
      ({} : Server).serveAll? ⟨catalog, none⟩ (fun _ => .silence)
          (.start (.number 1) :: commands.map Command.message) =
        some ([⟨some ⟨.number 1, .ok introduction⟩, []⟩,
          ⟨none, [Command.publication catalog uri "python".toList content]⟩,
          ⟨some ⟨.number 2, .ok answer⟩, []⟩,
          ⟨none, [Command.publication catalog uri "python".toList corrected]⟩,
          ⟨some ⟨.number 3, .ok .null⟩, []⟩, ⟨none, [.publish uri []]⟩], last) ∧
      IsOffer answer uri ⟨⟨0, 0⟩, ⟨0, 8⟩⟩ corrected := by
  intro uri content corrected commands
  have huri : Url.normalize? uri = some uri := by decide +kernel
  have hplain : ∀ command ∈ commands, command.IsPlain := by
    simp only [commands, List.forall_mem_cons]
    exact ⟨.opened huri, .asked huri, .changed huri, .asked huri, .closed huri, nofun⟩
  obtain ⟨catalog, exchanges, last, book, hc, hs, hr, -⟩ :=
    serves_by_book (Message.starts_start (.number 1)) (Command.says_messages hplain)
      fun _ => .silence
  have hfix : (catalog.get "python".toList).correct content = corrected := by
    rw [Shipped.correct_get hc (r := ("python".toList, Shipped.pythonRewordings))
      (by simp [Shipped.rewordings])]
    decide +kernel
  have hfixed := (Shipped.correctsOnce_of_catalog hc).once "python".toList content
  rw [hfix] at hfixed
  obtain ⟨_, rfl, hopened⟩ := hr.of_opened
  obtain ⟨answer, _, rfl, ho, -, hasked⟩ := hopened.of_asked
  obtain ⟨_, rfl, hchanged⟩ := hasked.of_changed rfl (Book.write_same ..)
  obtain ⟨_, _, rfl, -, hn, hagain⟩ := hchanged.of_asked
  obtain _ | ⟨⟨⟩, ⟨⟩⟩ := hagain
  rw [Book.write_same] at ho hn
  rw [hn (Command.not_corrects hfixed)] at hs
  refine ⟨catalog, answer, last, hc, hs, (ho _ _).mpr ⟨_, _, rfl, ?_, by decide, hfix.symm⟩⟩
  rw [hfix]
  decide

end Server

end SnippetReview.Editor
