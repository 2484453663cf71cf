import SnippetReview.Proofs.Json.Size
import SnippetReview.Proofs.Report.Wire
import SnippetReview.Proofs.Shipped.Corrections

namespace SnippetReview

open Json Enrichment

def Profile.ruleLimit : Nat := 4398046511104

theorem Profile.review_fits_of_short {profile : Profile} (hr : profile.ruleCount < ruleLimit)
    {code : Text} (hc : code.length ≤ Web.bodyLimit) : (profile.review code).Fits := by
  have hlines : (Text.lines code).length ≤ Web.bodyLimit := (Text.length_lines_le code).trans hc
  apply review_fits
  · exact Nat.lt_of_le_of_lt hc (by decide)
  · calc (profile.findings code).length
        ≤ profile.ruleCount * max 1 (Text.lines code).length := profile.length_findings_le code
      _ ≤ ruleLimit * Web.bodyLimit :=
        Nat.mul_le_mul hr.le (Nat.max_le.mpr ⟨by decide, hlines⟩)
      _ < UInt64.size := by decide

theorem Shipped.ruleCount_lt {found : Catalog} (h : catalog = .ok found) (id : Text) :
    (found.get id).ruleCount < Profile.ruleLimit := by
  have hall : ∀ found ∈ catalog.toOption, ∀ profile ∈ found.profiles,
      profile.ruleCount < Profile.ruleLimit := by
    unfold catalog tables javascript python java cpp
    repeat rw [String.toList_ofList]
    decide +kernel
  exact hall found (by rw [h]; rfl) _ (Catalog.get_mem (Catalog.fallback_mem_of_ofTables h) id)

namespace Web

/-! ### Snippets of requests -/

theorem Snippet.isNamed : AreNames ["code", "language"] := by
  decide

theorem Snippet.isNamed_code : AreNames ["code"] := by
  decide

theorem Snippet.isWritten_toJson (s : Snippet) : IsWritten s.toJson := by
  refine isWritten_ofMembers rfl isNamed ?_
  simp only [List.forall_mem_cons]
  exact ⟨isWritten_ofText _, isWritten_ofText _, List.forall_mem_nil _⟩

theorem Snippet.ofJson?_toJson (s : Snippet) : ofJson? s.toJson = some s := by
  have hf : s.toJson.someFields? ["code", "language"] 1 =
      some [some (ofText s.code), some (ofText s.language)] :=
    fields?_ofMembers rfl isNamed
  have hl : language? (some (ofText s.language)) = some s.language := text?_ofText s.language
  rw [ofJson?, hf]
  simp [text?_ofText, hl]

theorem Snippet.length_code_of_ofJson? {n : Nat} {value : Json} (hv : value.All (Quoted.Within n))
    {s : Snippet} (h : ofJson? value = some s) : s.code.length ≤ n := by
  simp only [ofJson?, Option.bind_eq_bind, Option.bind_eq_some_iff] at h
  obtain ⟨fields, hf, h⟩ := h
  split at h
  · simp only [Option.bind_eq_some_iff] at h
    obtain ⟨code, hcode, language, -, he⟩ := h
    cases he
    exact length_of_text? (all_of_someFields? hv hf List.mem_cons_self) hcode
  · cases h

/-! ### What a value says of a snippet -/

-- In terms of the members of an object or the items of an array alone, without the reader.
inductive IsLanguage : Option Json → Text → Prop
  | missing : IsLanguage none []
  | null : IsLanguage (some .null) []
  | text {value : Json} {language : Text} (h : value.text? = some language) :
      IsLanguage (some value) language

inductive Snippet.IsValue (s : Snippet) : Json → Prop
  | object {value code : Json} {members : List (Text × Json)} {language : Option Json}
      (hm : value.members? = some members)
      (hc : members.filter (fun m => m.1 = "code".toList) = [("code".toList, code)])
      (hl : members.filter (fun m => m.1 = "language".toList) =
        language.toList.map fun l => ("language".toList, l))
      (ht : code.text? = some s.code) (hs : IsLanguage language s.language) : IsValue s value
  | array {code : Json} {rest : List Json} (hr : rest.length ≤ 1) (ht : code.text? = some s.code)
      (hs : IsLanguage rest.head? s.language) : IsValue s (.array (code :: rest))

theorem isLanguage_iff {value : Option Json} {language : Text} :
    Snippet.language? value = some language ↔ IsLanguage value language := by
  constructor
  · intro h
    match value with
    | none => cases h; exact .missing
    | some .null => cases h; exact .null
    | some (.string _) => exact .text h
    | some (.bool _) | some (.number _) | some (.array _) | some (.object _) => cases h
  · intro h
    cases h with
    | missing => rfl
    | null => rfl
    | @text value _ h =>
      cases value with
      | string _ => exact h
      | _ => cases h

theorem Snippet.ofJson?_object {members : List (Text × Json)} {s : Snippet} :
    ofJson? (.object members) = some s ↔ ∃ decoded code language,
      decodeKeys members = some decoded ∧ field? decoded "code".toList = some (some code) ∧
      field? decoded "language".toList = some language ∧
      code.text? = some s.code ∧ language? language = some s.language := by
  constructor
  · intro h
    simp only [ofJson?, someFields?, List.mapM_cons, List.mapM_nil, Option.bind_eq_bind,
      Option.pure_def, Option.bind_some] at h
    obtain ⟨fields, hf, h⟩ := Option.bind_eq_some_iff.mp h
    obtain ⟨decoded, hd, hf⟩ := Option.bind_eq_some_iff.mp hf
    obtain ⟨code, hc, hf⟩ := Option.bind_eq_some_iff.mp hf
    obtain ⟨_, hf, he⟩ := Option.bind_eq_some_iff.mp hf
    obtain ⟨language, hl, hf⟩ := Option.bind_eq_some_iff.mp hf
    cases hf
    cases he
    cases code with
    | none => cases h
    | some code =>
      obtain ⟨_, ht, h⟩ := Option.bind_eq_some_iff.mp h
      obtain ⟨_, hs, h⟩ := Option.bind_eq_some_iff.mp h
      cases h
      exact ⟨decoded, code, language, hd, hc, hl, ht, hs⟩
  · rintro ⟨decoded, code, language, hd, hc, hl, ht, hs⟩
    have hf : someFields? ["code", "language"] 1 (.object members) =
        some [some code, language] := by
      simp only [someFields?, List.mapM_cons, List.mapM_nil, Option.bind_eq_bind,
        Option.pure_def, Option.bind_some, hd, hc, hl]
    rw [ofJson?, hf]
    simp only [Option.bind_eq_bind, Option.bind_some, ht, hs, Option.pure_def]

theorem Snippet.ofJson?_array {items : List Json} {s : Snippet} :
    ofJson? (.array items) = some s ↔ ∃ code rest, items = code :: rest ∧ rest.length ≤ 1 ∧
      code.text? = some s.code ∧ language? rest.head? = some s.language := by
  constructor
  · intro h
    rcases items with _ | ⟨code, _ | ⟨language, _ | ⟨_, rest⟩⟩⟩
    · cases h
    · obtain ⟨_, ht, h⟩ := Option.bind_eq_some_iff.mp h
      cases h
      exact ⟨code, [], rfl, Nat.zero_le _, ht, rfl⟩
    · obtain ⟨_, ht, h⟩ := Option.bind_eq_some_iff.mp h
      obtain ⟨_, hs, h⟩ := Option.bind_eq_some_iff.mp h
      cases h
      exact ⟨code, [language], rfl, Nat.le_refl _, ht, hs⟩
    · simp [ofJson?, someFields?] at h
  · rintro ⟨code, rest, rfl, hr, ht, hs⟩
    have hf : someFields? ["code", "language"] 1 (.array (code :: rest)) =
        some [some code, rest.head?] := by
      cases rest with
      | nil => rfl
      | cons language rest =>
        obtain rfl := List.length_eq_zero_iff.mp (Nat.le_zero.mp (Nat.le_of_succ_le_succ hr))
        rfl
    rw [ofJson?, hf]
    simp only [Option.bind_eq_bind, Option.bind_some, ht, hs, Option.pure_def]

theorem Snippet.ofJson?_eq_some_iff {s : Snippet} {value : Json} :
    ofJson? value = some s ↔ s.IsValue value := by
  constructor
  · intro h
    cases value with
    | object members =>
      obtain ⟨decoded, code, language, hd, hc, hl, ht, hs⟩ := ofJson?_object.mp h
      exact .object hd (field?_eq_some_some_iff.mp hc) (field?_eq_some_iff.mp hl) ht
        (isLanguage_iff.mp hs)
    | array items =>
      obtain ⟨code, rest, rfl, hr, ht, hs⟩ := ofJson?_array.mp h
      exact .array hr ht (isLanguage_iff.mp hs)
    | _ => cases h
  · intro h
    cases h with
    | @object _ code members language hm hc hl ht hs =>
      cases value with
      | object _ =>
        exact ofJson?_object.mpr ⟨members, code, language, hm, field?_eq_some_some_iff.mpr hc,
          field?_eq_some_iff.mpr hl, ht, isLanguage_iff.mpr hs⟩
      | _ => cases hm
    | array hr ht hs => exact ofJson?_array.mpr ⟨_, _, rfl, hr, ht, isLanguage_iff.mpr hs⟩

/-! ### Written snippets -/

inductive Snippet.HasMembers : Snippet → List (String × Json) → Prop
  | missing (code : Text) : HasMembers ⟨code, []⟩ [("code", ofText code)]
  | null (code : Text) : HasMembers ⟨code, []⟩ [("code", ofText code), ("language", .null)]
  | named (code language : Text) :
      HasMembers ⟨code, language⟩ [("code", ofText code), ("language", ofText language)]

namespace Snippet.HasMembers

variable {s : Snippet} {members : List (String × Json)}

theorem isWritten (h : s.HasMembers members) : IsWritten (ofMembers members) := by
  cases h with
  | missing code =>
    refine isWritten_ofMembers rfl isNamed_code ?_
    simpa only [List.forall_mem_singleton] using isWritten_ofText code
  | null code =>
    refine isWritten_ofMembers rfl isNamed ?_
    simp only [List.forall_mem_cons]
    exact ⟨isWritten_ofText _, .null, List.forall_mem_nil _⟩
  | named code language => exact isWritten_toJson ⟨code, language⟩

theorem isValue (h : s.HasMembers members) : s.IsValue (ofMembers members) := by
  cases h with
  | missing code =>
    exact .object (members?_ofMembers rfl isNamed_code) (by simp) (by simp) (text?_ofText code)
      .missing
  | null code =>
    exact .object (members?_ofMembers rfl isNamed) (by simp) (by simp) (text?_ofText code) .null
  | named code language =>
    exact .object (members?_ofMembers rfl isNamed) (by simp) (by simp) (text?_ofText code)
      (.text (text?_ofText language))

end Snippet.HasMembers

/-! ### Requests -/

namespace Request

variable {r : Request} {s : Snippet}

def IsJson (r : Request) : Prop :=
  ∃ value m, r.header? "content-type".toList = some value ∧ MediaType.read? value = some m ∧
    m.kind = "application".toList ∧ (m.subtype = "json".toList ∨ m.suffix = some "json".toList)

theorem hasJson_iff : r.hasJson = true ↔ r.IsJson := by
  rw [hasJson, IsJson]
  cases hv : r.header? "content-type".toList with
  | none => simp
  | some value =>
    cases hm : MediaType.read? value with
    | none => simp [hm]
    | some m => simp [hm, MediaType.isJson]

structure Carries (r : Request) (s : Snippet) : Prop where
  json : r.IsJson
  size : r.body.length ≤ bodyLimit
  content : ∃ value, readBytes? r.body = some value ∧ s.IsValue value

theorem snippet?_eq_some_iff : snippet? r = some s ↔ r.Carries s := by
  simp only [snippet?, Option.ite_none_right_eq_some, Bool.and_eq_true, decide_eq_true_eq,
    hasJson_iff, Option.bind_eq_some_iff, Snippet.ofJson?_eq_some_iff]
  exact ⟨fun ⟨⟨hj, hs⟩, hc⟩ => ⟨hj, hs, hc⟩, fun h => ⟨⟨h.json, h.size⟩, h.content⟩⟩

theorem Carries.unique (h : r.Carries s) {t : Snippet} (ht : r.Carries t) : t = s :=
  Option.some.inj ((snippet?_eq_some_iff.mpr ht).symm.trans (snippet?_eq_some_iff.mpr h))

theorem Carries.length_code (h : r.Carries s) : s.code.length ≤ bodyLimit := by
  obtain ⟨value, hv, hs⟩ := h.content
  have hs := Snippet.ofJson?_eq_some_iff.mpr hs
  exact (Snippet.length_code_of_ofJson? (within_of_readBytes? hv) hs).trans h.size

theorem carries_of_hasMembers {members : List (String × Json)} (hm : s.HasMembers members)
    (hj : r.IsJson) (hs : r.body.length ≤ bodyLimit)
    (hb : r.body = Utf8.encode (ofMembers members).write) : r.Carries s := by
  refine ⟨hj, hs, ofMembers members, ?_, hm.isValue⟩
  rw [hb, readBytes?_write hm.isWritten]

def IsValidation (r : Request) : Prop :=
  r.path = "/api/validate".toList ∧ r.method = "POST".toList

end Request

/-! ### Answers -/

theorem review_of_not_carries (reviewer : Reviewer) {r : Request} (h : ∀ s, ¬ r.Carries s)
    (backend : Backend) (asked : List Question) :
    review reviewer backend r asked = (ofReport 500 .degraded, asked) := by
  have hs : snippet? r = none :=
    Option.eq_none_iff_forall_ne_some.mpr fun s hs => h s (Request.snippet?_eq_some_iff.mp hs)
  rw [review, hs]
  rfl

section Answers

variable {reviewer : Reviewer} (hn : reviewer.enrichment = none)

include hn

theorem review_of_carries {r : Request} {s : Snippet} (h : r.Carries s) (backend : Backend)
    (asked : List Question) :
    review reviewer backend r asked =
      (ofReport 200 ((reviewer.catalog.get s.language).review s.code), asked) := by
  rw [review, Request.snippet?_eq_some_iff.mpr h]
  simp only [Reviewer.validate, hn]
  rfl

theorem respond_eq_answer (backend : Backend) (r : Request) (asked : List Question) :
    respond reviewer backend r asked = (answer reviewer (fun _ => .silence) r, asked) := by
  have hreview (backend : Backend) (asked : List Question) :
      review reviewer backend r asked =
        ((review reviewer (.atOnce fun _ => .silence) r []).1, asked) := by
    by_cases h : ∃ s, r.Carries s
    · obtain ⟨s, hs⟩ := h
      rw [review_of_carries hn hs, review_of_carries hn hs]
    · have h : ∀ s, ¬ r.Carries s := fun s hs => h ⟨s, hs⟩
      rw [review_of_not_carries reviewer h, review_of_not_carries reviewer h]
  simp only [answer, respond]
  split_ifs with _ _ _ _ _
  · exact hreview backend asked
  all_goals rfl

theorem serve_eq (backend : Backend) (requests : List Request) (asked : List Question) :
    serve reviewer backend requests asked =
      (requests.map (answer reviewer fun _ => .silence), asked) := by
  induction requests with
  | nil => rfl
  | cons r requests ih =>
    have hcons : serve reviewer backend (r :: requests) asked =
        ((respond reviewer backend r asked).1 ::
            (serve reviewer backend requests (respond reviewer backend r asked).2).1,
          (serve reviewer backend requests (respond reviewer backend r asked).2).2) := by
      rw [serve, List.mapM_cons]
      rfl
    rw [hcons, respond_eq_answer hn, ih, List.map_cons]

end Answers

theorem Request.IsValidation.answer_eq {r : Request} (h : r.IsValidation) (reviewer : Reviewer) :
    answer reviewer (fun _ => .silence) r =
      (review reviewer (.atOnce fun _ => .silence) r []).1 := by
  rw [answer, respond, if_pos h.1, if_pos h.2]

/-- Without a service to ask, each request to validate is answered with the report by the rules on
the snippet that it carries, which is accepted as it is written, or with the degraded report if it
carries none. Every snippet can be carried, as far as its request keeps to the limit. The same
request has the same answer among any other requests. -/
theorem validations_answered {reviewer : Reviewer} (hn : reviewer.enrichment = none)
    (backend : Backend) (requests : List Request) (asked : List Question) :
    (serve reviewer backend requests asked).1.length = requests.length ∧
    (serve reviewer backend requests asked).2 = asked ∧
    ∀ (i : Nat) r, requests[i]? = some r →
      ∃ response, (serve reviewer backend requests asked).1[i]? = some response ∧
        (∀ (backend' : Backend) others asked' (j : Nat), others[j]? = some r →
          (serve reviewer backend' others asked').1[j]? = some response) ∧
        (r.IsValidation →
          (∀ s, r.Carries s →
            let profile := reviewer.catalog.get s.language
            let report := profile.review s.code
            response.status = 200 ∧ response.contentType = some "application/json".toList ∧
            response.body = report.toJson.write ∧
            (profile.ruleCount < Profile.ruleLimit → accept response.body = .ok report)) ∧
          ((∀ s, ¬ r.Carries s) →
            response.status = 500 ∧ response.contentType = some "application/json".toList ∧
            response.body = Report.degraded.toJson.write ∧
            accept response.body = .ok .degraded)) ∧
        ∀ (s : Snippet) members, s.HasMembers members → r.IsJson → r.body.length ≤ bodyLimit →
          r.body = Utf8.encode (ofMembers members).write → ∀ t, r.Carries t ↔ t = s := by
  have hdegraded : accept Report.degraded.toJson.write = .ok .degraded := by
    decide +kernel
  simp only [serve_eq hn, List.length_map, List.getElem?_map, true_and]
  intro i r hi
  refine ⟨answer reviewer (fun _ => .silence) r, by rw [hi, Option.map_some], ?_, ?_, ?_⟩
  · intro _ others _ j hj
    rw [hj, Option.map_some]
  · intro hv
    refine ⟨fun s hs => ?_, fun hs => ?_⟩
    · rw [hv.answer_eq, review_of_carries hn hs]
      refine ⟨rfl, rfl, rfl, fun hr => ?_⟩
      exact accept_toJson_of_agrees (Profile.review_fits_of_short hr hs.length_code)
        (Profile.review_agrees _ s.code)
    · rw [hv.answer_eq, review_of_not_carries reviewer hs]
      exact ⟨rfl, rfl, rfl, hdegraded⟩
  · intro s members hm hj hsize hb t
    have hs := Request.carries_of_hasMembers hm hj hsize hb
    constructor
    · exact hs.unique
    · rintro rfl
      exact hs

theorem validations_answered_default :
    let r : Request := ⟨"POST".toList, "/api/validate".toList,
      [("Content-Type".toList, "application/json; charset=utf-8".toList)],
      "\x7b\"code\":\"cosnt x = 1\",\"language\":null\x7d".toUTF8.toList⟩
    ∃ catalog, Shipped.catalog = .ok catalog ∧
      let report := (catalog.get []).review "cosnt x = 1".toList
      let backend : Backend := fun _ _ => ⟨⟨0⟩, .silence⟩
      let found := (serve ⟨catalog, none⟩ backend [{ r with body := [] }, r, r] []).1
      ∃ first second, found[0]? = some first ∧ found[1]? = some second ∧ found[2]? = some second ∧
        first.status = 500 ∧ accept first.body = .ok .degraded ∧
        second.status = 200 ∧ second.contentType = some "application/json".toList ∧
        accept second.body = .ok report := by
  intro r
  obtain ⟨catalog, hc, -⟩ := Shipped.exists_catalog
  refine ⟨catalog, hc, ?_⟩
  intro report backend found
  have hv : r.IsValidation := ⟨by decide, rfl⟩
  have hj : r.IsJson := Request.hasJson_iff.mp (by decide +kernel)
  obtain ⟨-, -, h⟩ := @validations_answered ⟨catalog, none⟩ rfl backend
    [{ r with body := [] }, r, r] []
  obtain ⟨first, hfirst, -, hinvalid, -⟩ := h 0 { r with body := [] } rfl
  obtain ⟨second, hsecond, hsame, hvalid, hcarries⟩ := h 1 r rfl
  have hs : r.Carries ⟨"cosnt x = 1".toList, []⟩ :=
    (hcarries _ _ (.null _) hj (by decide +kernel) (by decide +kernel) _).mpr rfl
  obtain ⟨hstatus, htype, -, haccept⟩ := (hvalid hv).1 _ hs
  obtain ⟨hdefect, -, -, hdegraded⟩ := (hinvalid hv).2 fun t ht => by
    obtain ⟨_, hb, -⟩ := ht.content
    cases hb
  exact ⟨first, second, hfirst, hsecond, hsame _ _ _ 2 rfl, hdefect, hdegraded, hstatus, htype,
    haccept (Shipped.ruleCount_lt hc _)⟩

end Web

end SnippetReview
