import SnippetReview.Chat.Reply
import SnippetReview.Proofs.Enrichment.Fence
import SnippetReview.Proofs.Json.Bytes

namespace SnippetReview

open Json Enrichment

/-! ### Fences -/

namespace Enrichment

theorem ne_nil_of_accept {raw : Text} {r : Report} (h : accept raw = .ok r) :
    Text.trim raw ≠ [] := by
  intro ht
  have hs : stripFence raw = stripFence [] := by
    rw [stripFence, ht]
    rfl
  rw [accept_congr hs] at h
  cases h

def fenced (info text : Text) : Text :=
  fence ++ (info ++ '\n' :: (text ++ ['\n']) ++ fence)

theorem accept_fenced_toJson (r : Report) {info : Text} (h : '\n' ∉ info) :
    accept (fenced info r.toJson.write) = accept r.toJson.write := by
  obtain ⟨inner, he⟩ := write_object r.isWritten_toJson
  have hw : r.toJson.write = '\x7b' :: (inner ++ ['\x7d']) := he
  have ht : Text.trim (r.toJson.write ++ ['\n']) = r.toJson.write := by
    have hl : r.toJson.write.getLast? = some '\x7d' := by
      rw [hw, ← List.cons_append, List.getLast?_concat]
    rw [Text.trim_of_ends (by rw [hw]; rfl) (by decide) hl (by decide)]
    exact List.append_nil _
  apply accept_congr
  rw [fenced, stripFence_fence h, ht, stripFence_toJson]

end Enrichment

namespace Chat

/-! ### Bodies of replies -/

def ofContent (content : Option Text) : Json :=
  ofMembers [("message", ofMembers [("content", ofOption (content.map ofText))])]

def ofContents (contents : List (Option Text)) : Json :=
  ofMembers [("choices", .array (contents.map ofContent))]

theorem isNamed_message : AreNames ["message"] := by
  decide

theorem isNamed_content : AreNames ["content"] := by
  decide

theorem isNamed_choices : AreNames ["choices"] := by
  decide

theorem content?_ofContent (content : Option Text) :
    content? (ofContent content) = some content := by
  have hm : (ofContent content).fields? ["message"] =
      some [some (ofMembers [("content", ofOption (content.map ofText))])] :=
    fields?_ofMembers rfl isNamed_message
  have hc : (ofMembers [("content", ofOption (content.map ofText))]).fields? ["content"] =
      some [some (ofOption (content.map ofText))] :=
    fields?_ofMembers rfl isNamed_content
  rw [content?, hm]
  simp only [Option.bind_eq_bind, Option.bind_some, hc]
  cases content with
  | none => rfl
  | some text => exact congrArg (Option.map some) (text?_ofText text)

theorem contents?_ofContents (contents : List (Option Text)) :
    contents? (ofContents contents) = some contents := by
  have hc : (ofContents contents).fields? ["choices"] =
      some [some (.array (contents.map ofContent))] :=
    fields?_ofMembers rfl isNamed_choices
  have hm : (contents.map ofContent).mapM content? = some contents := by
    rw [List.mapM_map, mapM_eq_some_map (g := id), List.map_id]
    exact fun content _ => content?_ofContent content
  rw [contents?, hc]
  simp [items?, hm]

theorem isWritten_ofContent (content : Option Text) : IsWritten (ofContent content) := by
  refine isWritten_ofMembers rfl isNamed_message ?_
  simp only [List.forall_mem_cons]
  refine ⟨isWritten_ofMembers rfl isNamed_content ?_, List.forall_mem_nil _⟩
  simp only [List.forall_mem_cons]
  refine ⟨?_, List.forall_mem_nil _⟩
  cases content with
  | none => exact .null
  | some text => exact isWritten_ofText text

theorem isWritten_ofContents (contents : List (Option Text)) : IsWritten (ofContents contents) := by
  refine isWritten_ofMembers rfl isNamed_choices ?_
  simp only [List.forall_mem_cons]
  refine ⟨.array ?_, List.forall_mem_nil _⟩
  intro _ hv
  obtain ⟨content, -, rfl⟩ := List.mem_map.mp hv
  exact isWritten_ofContent content

/-! ### Replies -/

def Reply.Holds (reply : Reply) (contents : List (Option Text)) : Prop :=
  (200 ≤ reply.status ∧ reply.status < 300) ∧
    (readBytes? reply.body).bind contents? = some contents

def Reply.Says (reply : Reply) (text : Text) : Prop :=
  (∃ others, reply.Holds (some text :: others)) ∧ Text.trim text ≠ []

theorem Reply.holds_written (contents : List (Option Text)) :
    Reply.Holds ⟨200, Utf8.encode (ofContents contents).write⟩ contents := by
  refine ⟨⟨Nat.le_refl 200, (by decide : 200 < 300)⟩, ?_⟩
  rw [readBytes?_write (isWritten_ofContents contents), Option.bind_some, contents?_ofContents]

theorem Reply.says_iff_of_holds {reply : Reply} {first : Option Text} {others : List (Option Text)}
    (h : reply.Holds (first :: others)) (text : Text) :
    reply.Says text ↔ first = some text ∧ Text.trim text ≠ [] := by
  refine and_congr_left' ⟨?_, ?_⟩
  · rintro ⟨others', h'⟩
    have he := Option.some.inj (h.2.symm.trans h'.2)
    exact (List.cons.inj he).1
  · rintro rfl
    exact ⟨others, h⟩

theorem Reply.answer_eq_ok_iff {reply : Reply} {text : Text} :
    reply.answer = .ok text ↔ reply.Says text := by
  rw [answer]
  split
  · rename_i hs
    simp only [Bool.or_eq_true, decide_eq_true_eq] at hs
    simp only [reduceCtorEq, false_iff, Says, Holds]
    omega
  · rename_i hs
    simp only [Bool.or_eq_true, decide_eq_true_eq, not_or, Nat.not_lt, Nat.not_le] at hs
    cases hb : (readBytes? reply.body).bind contents? with
    | none => simp [Says, Holds, hb]
    | some contents =>
      have hh : reply.Holds contents := ⟨hs, hb⟩
      cases contents with
      | nil => simp [Says, Holds, hb]
      | cons first others =>
        rw [says_iff_of_holds hh]
        cases first with
        | none => simp
        | some content =>
          by_cases ht : Text.trim content = []
          · simp only [List.head?_cons, ht, List.isEmpty_nil, if_true, reduceCtorEq, false_iff]
            rintro ⟨he, hn⟩
            exact hn (Option.some.inj he ▸ ht)
          · have hf : (Text.trim content).isEmpty = false := by simpa using ht
            simp only [List.head?_cons, hf, Bool.false_eq_true, if_false, Except.ok.injEq,
              Option.some.injEq]
            exact ⟨fun he => ⟨he, he ▸ ht⟩, And.left⟩

theorem Reply.Says.unique {reply : Reply} {text text' : Text} (h : reply.Says text)
    (h' : reply.Says text') : text = text' :=
  Except.ok.inj ((answer_eq_ok_iff.mpr h).symm.trans (answer_eq_ok_iff.mpr h'))

theorem Service.reply_eq_answer_iff {s : Service} {network : Network} {q : Question}
    {request : Request} (hr : s.request? q = some request) {reply : Reply}
    (hn : network request = some reply) {text : Text} :
    s.reply network q = .answer text ↔ reply.Says text := by
  rw [← Reply.answer_eq_ok_iff, Service.reply, ask, hr]
  simp only [hn]
  cases reply.answer <;> simp

/-! ### Reviews with a chat service -/

section

variable {reviewer : Reviewer} {policy : Policy} {s : Service} {code language : Text}
  {request : Request} {network : Network} {reply : Reply}
  (hp : reviewer.enrichment = some policy) (he : policy.isEligible code = true)
  (hr : s.request? ⟨language, code⟩ = some request) (hn : network request = some reply)
include hp he hr hn

theorem answered_iff (r : Report) :
    reviewer.Answered [] (.mk code language (s.reply network)) r ↔
      ∃ text, reply.Says text ∧ accept text = .ok r := by
  constructor
  · rintro ⟨-, text, -, -, ha, -, hok⟩
    exact ⟨text, (Service.reply_eq_answer_iff hr hn).mp ha, hok⟩
  · rintro ⟨text, hs, hok⟩
    exact ⟨policy, text, hp, of_decide_eq_true he, (Service.reply_eq_answer_iff hr hn).mpr hs,
      Nat.zero_le _, hok⟩

theorem report_of_content {text : Text} (h : reply.Says text) :
    (reviewer.review (s.reply network) code language).report =
      match accept text with
      | .ok r => r
      | .error _ => reviewer.heuristic code language := by
  cases ha : accept text with
  | ok r => exact Reviewer.report_of_answered ((answered_iff hp he hr hn r).mpr ⟨text, h, ha⟩)
  | error f =>
    have hno : ∀ r, ¬ reviewer.Answered [] (.mk code language (s.reply network)) r := by
      intro r hanswered
      obtain ⟨other, ho, hok⟩ := (answered_iff hp he hr hn r).mp hanswered
      rw [ho.unique h, ha] at hok
      cases hok
    exact Reviewer.report_of_not_answered hno

theorem report_without_content (h : ∀ text, ¬ reply.Says text) :
    (reviewer.review (s.reply network) code language).report =
      reviewer.heuristic code language := by
  have hno : ∀ r, ¬ reviewer.Answered [] (.mk code language (s.reply network)) r := by
    intro r hanswered
    obtain ⟨text, hs, -⟩ := (answered_iff hp he hr hn r).mp hanswered
    exact h text hs
  exact Reviewer.report_of_not_answered hno

end

/-- A report that is the content of the first choice, bare or between fences, is the report of the
review. In general the review accepts what a successful reply says with its first choice, and gives
the report by the rules otherwise; contents of other choices do not count. -/
theorem report_of_reply {reviewer : Reviewer} {policy : Policy}
    (hp : reviewer.enrichment = some policy) {code language : Text}
    (he : policy.isEligible code = true) {s : Service} {request : Request}
    (hr : s.request? ⟨language, code⟩ = some request) {network : Network} {reply : Reply}
    (hn : network request = some reply) :
    let report := (reviewer.review (s.reply network) code language).report
    (∀ r : Report, r.Fits → r.isConsistent = true → ∀ content others,
      (content = r.toJson.write ∨ ∃ info, '\n' ∉ info ∧ content = fenced info r.toJson.write) →
      reply = ⟨200, Utf8.encode (ofContents (some content :: others)).write⟩ → report = r) ∧
    (∀ text, reply.Says text → report =
      match accept text with
      | .ok r => r
      | .error _ => (reviewer.catalog.get language).review code) ∧
    ((∀ text, ¬ reply.Says text) → report = (reviewer.catalog.get language).review code) ∧
    ∀ first others others' reply' (network' : Network), network' request = some reply' →
      reply.Holds (first :: others) → reply'.Holds (first :: others') →
      (reviewer.review (s.reply network') code language).report = report := by
  refine ⟨?_, fun text => report_of_content hp he hr hn, report_without_content hp he hr hn, ?_⟩
  · rintro r hfits hc content others hcontent rfl
    have haccept : accept content = .ok r := by
      have ha := accept_toJson_of_agrees hfits (r.isConsistent_iff.mp hc)
      rcases hcontent with rfl | ⟨info, hi, rfl⟩
      · exact ha
      · rw [accept_fenced_toJson r hi, ha]
    have hsays :=
      (Reply.says_iff_of_holds (Reply.holds_written (some content :: others)) content).mpr
      ⟨rfl, ne_nil_of_accept haccept⟩
    rw [report_of_content hp he hr hn hsays, haccept]
  · intro first others others' reply' network' hn' h h'
    by_cases hs : ∃ text, reply.Says text
    · obtain ⟨text, hs⟩ := hs
      have hs' := (Reply.says_iff_of_holds h' text).mpr ((Reply.says_iff_of_holds h text).mp hs)
      rw [report_of_content hp he hr hn hs, report_of_content hp he hr hn' hs']
    · have hs' : ∀ text, ¬ reply'.Says text := fun text hs' =>
        hs ⟨text, (Reply.says_iff_of_holds h text).mpr ((Reply.says_iff_of_holds h' text).mp hs')⟩
      rw [report_without_content hp he hr hn fun text hs' => hs ⟨text, hs'⟩,
        report_without_content hp he hr hn' hs']

theorem report_of_reply_fenced :
    let reviewer : Reviewer := ⟨⟨[], ⟨[], none, [], [], []⟩⟩, some ⟨.ofSecs 1, 0⟩⟩
    let service : Service := ⟨"http://a".toList, "k".toList, "m".toList⟩
    let reply : Reply := ⟨200, Utf8.encode
      (ofContents [some (fenced "json".toList Report.degraded.toJson.write), none]).write⟩
    (reviewer.review (service.reply fun _ => some reply) "x".toList []).report = .degraded := by
  intro reviewer service reply
  have hr : (service.request? ⟨[], "x".toList⟩).isSome = true := by decide +kernel
  obtain ⟨request, hr⟩ := Option.isSome_iff_exists.mp hr
  exact (report_of_reply rfl (by decide) hr rfl).1 .degraded Report.degraded_fits (by decide) _ _
    (.inr ⟨"json".toList, by decide, rfl⟩) rfl

end Chat

end SnippetReview
