import SnippetReview.Proofs.Report
import SnippetReview.Reviewer

namespace SnippetReview

open Enrichment

namespace Enrichment.Policy

theorem await_eq_answer_iff {policy : Policy} {attempt : Attempt} {raw : Text} :
    policy.await attempt = .answer raw ↔
      attempt.reply = .answer raw ∧ attempt.after.nanos ≤ policy.timeout.nanos := by
  rw [await]
  split
  · rename_i h
    exact ⟨fun hr => ⟨hr, h⟩, And.left⟩
  · rename_i h
    exact ⟨fun hr => (nomatch hr), fun hr => absurd hr.2 h⟩

theorem judge_eq_ok_iff {policy : Policy} {reply : Reply} {r : Report} :
    policy.judge reply = .ok r ↔ ∃ raw, reply = .answer raw ∧ accept raw = .ok r := by
  cases reply <;> simp [judge]

end Enrichment.Policy

namespace Reviewer

variable {reviewer : Reviewer} {asked : List Question} {request : Request}

def Asks (reviewer : Reviewer) (code : Text) : Prop :=
  ∃ policy, reviewer.enrichment = some policy ∧ policy.minChars < (Text.trim code).length

theorem asks_iff {code : Text} : reviewer.asks code = true ↔ reviewer.Asks code := by
  simp [asks, Asks, Option.any_eq_true, Policy.isEligible]

instance (reviewer : Reviewer) (code : Text) : Decidable (reviewer.Asks code) :=
  decidable_of_iff _ asks_iff

def question? (reviewer : Reviewer) (request : Request) : Option Question :=
  if reviewer.Asks request.code then some ⟨request.language, request.code⟩ else none

def Answered (reviewer : Reviewer) (asked : List Question) (request : Request) (r : Report) :
    Prop :=
  ∃ policy raw, reviewer.enrichment = some policy ∧
    policy.minChars < (Text.trim request.code).length ∧
    (request.backend asked ⟨request.language, request.code⟩).reply = .answer raw ∧
    (request.backend asked ⟨request.language, request.code⟩).after.nanos ≤ policy.timeout.nanos ∧
    accept raw = .ok r

/-! ### Single reviews -/

def run (reviewer : Reviewer) (request : Request) : Asking Report :=
  reviewer.validate request.backend request.code request.language

theorem run_of_not_asks (h : ¬ reviewer.Asks request.code) (asked : List Question) :
    reviewer.run request asked = (reviewer.heuristic request.code request.language, asked) := by
  cases hp : reviewer.enrichment with
  | none => simp only [run, validate, hp]; rfl
  | some policy =>
    have he : policy.isEligible request.code = false :=
      decide_eq_false fun he => h ⟨policy, hp, he⟩
    simp only [run, validate, hp, Policy.enrich?, he]
    rfl

theorem run_of_asks {policy : Policy} (hp : reviewer.enrichment = some policy)
    (he : policy.minChars < (Text.trim request.code).length) (asked : List Question) :
    reviewer.run request asked =
      ((policy.judge (policy.await
          (request.backend asked ⟨request.language, request.code⟩))).toOption.getD
        (reviewer.heuristic request.code request.language),
      asked ++ [⟨request.language, request.code⟩]) := by
  have he : policy.isEligible request.code = true := decide_eq_true he
  simp only [run, validate, hp, Policy.enrich?, he]
  rfl

theorem record_run (reviewer : Reviewer) (request : Request) (asked : List Question) :
    (reviewer.run request asked).2 = asked ++ (reviewer.question? request).toList := by
  by_cases h : reviewer.Asks request.code
  · obtain ⟨policy, hp, he⟩ := h
    rw [run_of_asks hp he, question?, if_pos ⟨policy, hp, he⟩]
    rfl
  · rw [run_of_not_asks h, question?, if_neg h, Option.toList_none, List.append_nil]

theorem report_of_answered {r : Report} (h : reviewer.Answered asked request r) :
    (reviewer.run request asked).1 = r := by
  obtain ⟨policy, raw, hp, he, hr, ht, ha⟩ := h
  rw [run_of_asks hp he, Policy.await_eq_answer_iff.mpr ⟨hr, ht⟩,
    Policy.judge_eq_ok_iff.mpr ⟨raw, rfl, ha⟩]
  rfl

theorem report_of_not_answered (h : ∀ r, ¬ reviewer.Answered asked request r) :
    (reviewer.run request asked).1 = reviewer.heuristic request.code request.language := by
  by_cases ha : reviewer.Asks request.code
  · obtain ⟨policy, hp, he⟩ := ha
    rw [run_of_asks hp he]
    cases hj : policy.judge (policy.await
        (request.backend asked ⟨request.language, request.code⟩)) with
    | error _ => rfl
    | ok r =>
      obtain ⟨raw, hr, hok⟩ := Policy.judge_eq_ok_iff.mp hj
      obtain ⟨hr, ht⟩ := Policy.await_eq_answer_iff.mp hr
      exact absurd ⟨policy, raw, hp, he, hr, ht, hok⟩ (h r)
  · rw [run_of_not_asks ha]

theorem report_cases (reviewer : Reviewer) (request : Request) (asked : List Question) :
    (∃ r, reviewer.Answered asked request r ∧ (reviewer.run request asked).1 = r) ∨
      (reviewer.run request asked).1 = reviewer.heuristic request.code request.language := by
  by_cases h : ∃ r, reviewer.Answered asked request r
  · obtain ⟨r, hr⟩ := h
    exact .inl ⟨r, hr, report_of_answered hr⟩
  · exact .inr (report_of_not_answered fun r hr => h ⟨r, hr⟩)

theorem report_congr {other : Request} {asked' : List Question}
    (hc : other.code = request.code) (hl : other.language = request.language)
    (h : reviewer.Asks request.code →
      other.backend asked' ⟨request.language, request.code⟩ =
        request.backend asked ⟨request.language, request.code⟩) :
    (reviewer.run other asked').1 = (reviewer.run request asked).1 := by
  by_cases ha : reviewer.Asks request.code
  · obtain ⟨policy, hp, he⟩ := ha
    rw [run_of_asks hp he, run_of_asks hp (hc ▸ he), hc, hl, h ⟨policy, hp, he⟩]
  · rw [run_of_not_asks ha, run_of_not_asks (hc ▸ ha), hc, hl]

/-! ### Reviews one after the other -/

theorem observe_eq (reviewer : Reviewer) (request : Request) (asked : List Question) :
    reviewer.observe request asked =
      ((⟨(reviewer.run request asked).1, reviewer.question? request⟩,
        (asked ++ (reviewer.question? request).toList).length),
      asked ++ (reviewer.question? request).toList) := by
  have hfirst : (asked ++ (reviewer.question? request).toList)[asked.length]? =
      reviewer.question? request := by
    rw [List.getElem?_append_right (Nat.le_refl _), Nat.sub_self]
    cases reviewer.question? request <;> rfl
  have hobserve : reviewer.observe request asked =
      ((⟨(reviewer.run request asked).1, (reviewer.run request asked).2[asked.length]?⟩,
        (reviewer.run request asked).2.length), (reviewer.run request asked).2) := rfl
  rw [hobserve, record_run, hfirst]

def questions (reviewer : Reviewer) (requests : List Request) : List Question :=
  requests.filterMap reviewer.question?

theorem questions_cons (reviewer : Reviewer) (request : Request) (requests : List Request) :
    reviewer.questions (request :: requests) =
      (reviewer.question? request).toList ++ reviewer.questions requests := by
  rw [questions, List.filterMap_cons]
  cases reviewer.question? request <;> rfl

theorem observeAll_cons (reviewer : Reviewer) (request : Request) (requests : List Request)
    (asked : List Question) :
    reviewer.observeAll (request :: requests) asked =
      ((reviewer.observe request asked).1 ::
          (reviewer.observeAll requests (reviewer.observe request asked).2).1,
        (reviewer.observeAll requests (reviewer.observe request asked).2).2) := by
  rw [observeAll, List.mapM_cons]
  rfl

theorem record_observeAll (reviewer : Reviewer) (requests : List Request) (asked : List Question) :
    (reviewer.observeAll requests asked).2 = asked ++ reviewer.questions requests := by
  induction requests generalizing asked with
  | nil => exact (List.append_nil _).symm
  | cons request requests ih =>
    rw [observeAll_cons, ih, observe_eq, questions_cons, List.append_assoc]

theorem length_observeAll (reviewer : Reviewer) (requests : List Request) (asked : List Question) :
    (reviewer.observeAll requests asked).1.length = requests.length := by
  induction requests generalizing asked with
  | nil => rfl
  | cons request requests ih => rw [observeAll_cons, List.length_cons, ih, List.length_cons]

-- What a review finds in the record is what the requests before it put there.
theorem observeAll_getElem? (reviewer : Reviewer) (requests : List Request) (asked : List Question)
    (i : Nat) :
    (reviewer.observeAll requests asked).1[i]? = requests[i]?.map fun request =>
      (reviewer.observe request (asked ++ reviewer.questions (requests.take i))).1 := by
  induction requests generalizing asked i with
  | nil => rfl
  | cons request requests ih =>
    rw [observeAll_cons]
    cases i with
    | zero => simp [questions]
    | succ i =>
      rw [List.getElem?_cons_succ, List.getElem?_cons_succ, ih, List.take_succ_cons, questions_cons,
        ← List.append_assoc, observe_eq]

/-- A report is what the service answers in time and is accepted, if it is asked at all, and
otherwise the report by the rules. The record of the service grows by one question for each snippet
that is long enough, as it is, and by nothing for the others; of what is in the record before a
review, only the attempt counts that the service makes at its question. -/
theorem session_correct (reviewer : Reviewer) (requests : List Request) (asked : List Question) :
    (reviewer.observeAll requests asked).1.length = requests.length ∧
    (reviewer.observeAll requests asked).2 = asked ++ requests.filterMap (fun q =>
      if reviewer.Asks q.code then some ⟨q.language, q.code⟩ else none) ∧
    ∀ i request, requests[i]? = some request →
      let before := asked ++ (requests.take i).filterMap fun q =>
        if reviewer.Asks q.code then some ⟨q.language, q.code⟩ else none
      let own : Option Question :=
        if reviewer.Asks request.code then some ⟨request.language, request.code⟩ else none
      ∃ report, (reviewer.observeAll requests asked).1[i]? =
          some (⟨report, own⟩, (before ++ own.toList).length) ∧
        (∀ r, reviewer.Answered before request r → report = r) ∧
        ((∀ r, ¬ reviewer.Answered before request r) →
          report = (reviewer.catalog.get request.language).review request.code) ∧
        ∀ (backend : Backend) (other : List Question),
          (reviewer.Asks request.code → backend other ⟨request.language, request.code⟩ =
            request.backend before ⟨request.language, request.code⟩) →
          (reviewer.validate backend request.code request.language other).1 = report := by
  refine ⟨length_observeAll reviewer requests asked, record_observeAll reviewer requests asked, ?_⟩
  intro i request hi before own
  refine ⟨(reviewer.run request before).1, ?_, fun r => report_of_answered, report_of_not_answered,
    fun backend other h => ?_⟩
  · rw [observeAll_getElem?, hi, Option.map_some, observe_eq]
    rfl
  · exact @report_congr reviewer before request (.ofBackend request.code request.language backend)
      other rfl rfl h

theorem session_correct_late :
    let reviewer : Reviewer := ⟨⟨[], ⟨[], none, [], [], []⟩⟩, some ⟨.ofSecs 1, 0⟩⟩
    let backend : Backend := fun asked _ =>
      ⟨.ofSecs (2 * asked.length), .answer Report.degraded.toJson.write⟩
    let requests : List Request := [.ofBackend ['x'] ['p'] backend, .ofBackend [' '] ['p'] backend,
      .ofBackend ['x'] ['p'] backend]
    (reviewer.observeAll requests []).2 = [⟨['p'], ['x']⟩, ⟨['p'], ['x']⟩] ∧
    (reviewer.observeAll requests []).1[0]? = some (⟨.degraded, some ⟨['p'], ['x']⟩⟩, 1) ∧
    (reviewer.observeAll requests []).1[1]? = some (⟨.ofFindings [] [' '], none⟩, 1) ∧
    (reviewer.observeAll requests []).1[2]? =
      some (⟨.ofFindings [] ['x'], some ⟨['p'], ['x']⟩⟩, 2) := by
  intro reviewer backend requests
  obtain ⟨-, hrecord, h⟩ := session_correct reviewer requests []
  have haccept : accept Report.degraded.toJson.write = .ok .degraded := by decide +kernel
  have hno (asked : List Question) (request : Request) (hb : request.backend = backend)
      (hlate : 1 ≤ asked.length ∨ Text.trim request.code = []) :
      ∀ r, ¬ reviewer.Answered asked request r := by
    rintro r ⟨policy, raw, hp, he, -, ht, -⟩
    cases hp
    rcases hlate with hl | hl
    · rw [hb] at ht
      simp only [backend, Duration.ofSecs] at ht
      omega
    · rw [hl] at he
      cases he
  refine ⟨hrecord.trans (by decide), ?_, ?_, ?_⟩
  · obtain ⟨report, hi, ha, -⟩ := h 0 _ rfl
    cases ha _ ⟨_, _, rfl, by decide, rfl, by decide, haccept⟩
    exact hi
  · obtain ⟨report, hi, -, hn, -⟩ := h 1 _ rfl
    cases hn (hno _ _ rfl (.inr (by decide)))
    exact hi
  · obtain ⟨report, hi, -, hn, -⟩ := h 2 _ rfl
    cases hn (hno _ _ rfl (.inl (by decide)))
    exact hi

/-! ### Consistent reports -/

/-- Every report agrees with itself, and the report by the rules describes the snippet. -/
theorem report_agrees (reviewer : Reviewer) (service : Question → Reply) (code language : Text) :
    (reviewer.review service code language).report.isConsistent = true ∧
    (reviewer.review service code language).report.Agrees ∧
    (∀ (backend : Backend) asked,
      (reviewer.validate backend code language asked).1.isConsistent = true ∧
      (reviewer.validate backend code language asked).1.Agrees) ∧
    (reviewer.heuristic code language).Describes code ∧
    (Report.settle none).isConsistent = true ∧ (Report.settle none).Agrees := by
  have ha (backend : Backend) (asked : List Question) :
      (reviewer.validate backend code language asked).1.Agrees := by
    rcases reviewer.report_cases (.ofBackend code language backend) asked with ⟨r, hr, he⟩ | he
    · obtain ⟨_, _, _, _, _, _, hr⟩ := hr
      exact he ▸ agrees_of_accept hr
    · exact he ▸ (reviewer.catalog.get language).review_agrees code
  have hd : (Report.settle none).Agrees := Report.degraded_agrees
  exact ⟨(Report.isConsistent_iff _).mpr (ha _ _), ha _ _,
    fun backend asked => ⟨(Report.isConsistent_iff _).mpr (ha backend asked), ha backend asked⟩,
    (reviewer.catalog.get language).review_describes code, (Report.isConsistent_iff _).mpr hd, hd⟩

end Reviewer

end SnippetReview
