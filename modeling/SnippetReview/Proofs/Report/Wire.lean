import SnippetReview.Proofs.Json.Fields
import SnippetReview.Proofs.Reviewer
import SnippetReview.Web.Service

namespace SnippetReview

open Json

structure Report.Fits (r : Report) : Prop where
  errors : r.errorCount < UInt64.size
  warnings : r.warningCount < UInt64.size
  lines : ∀ f ∈ r.findings, f.line < UInt64.size

/-! ### Decoding -/

theorem Severity.ofJson?_toJson (s : Severity) : ofJson? s.toJson = some s := by
  have h : ofJson? s.toJson = ofName? s.name := by
    simp only [toJson, ofText, ofJson?, Quoted.decode_escape, Option.bind_some]
  rw [h]
  cases s <;> decide

theorem Finding.isNamed : AreNames ["line", "message", "severity"] := by
  decide

theorem Finding.fields?_toJson (f : Finding) :
    f.toJson.fields? ["line", "message", "severity"] =
      some [some (ofNat f.line), some (ofText f.message), some f.severity.toJson] :=
  fields?_ofMembers rfl isNamed

theorem Finding.ofJson?_toJson {f : Finding} (h : f.line < UInt64.size) :
    ofJson? f.toJson = some f := by
  rw [ofJson?, fields?_toJson]
  simp [natural?_ofNat h, text?_ofText, Severity.ofJson?_toJson]

theorem Finding.isWritten_toJson (f : Finding) : IsWritten f.toJson := by
  refine isWritten_ofMembers ?_ isNamed ?_
  · rfl
  · simp only [List.forall_mem_cons]
    exact ⟨isWritten_ofNat _, isWritten_ofText _, isWritten_ofText _, List.forall_mem_nil _⟩

namespace Report

theorem isNamed : AreNames fieldNames := by
  decide

theorem fields?_toJson (r : Report) :
    r.toJson.fields? fieldNames =
      some [some (.bool r.hasErrors), some (ofNat r.errorCount), some (ofNat r.warningCount),
        some (.array (r.findings.map Finding.toJson)), some (ofText r.corrected),
        some (ofText r.explanation)] :=
  fields?_ofMembers rfl isNamed

theorem ofJson?_toJson {r : Report} (h : r.Fits) : ofJson? r.toJson = some r := by
  have hf : (r.findings.map Finding.toJson).mapM Finding.ofJson? = some r.findings := by
    rw [List.mapM_map, mapM_eq_some_map (g := id), List.map_id]
    exact fun f hf => Finding.ofJson?_toJson (h.lines f hf)
  rw [ofJson?, fields?_toJson]
  simp [bool?, items?, natural?_ofNat h.errors, natural?_ofNat h.warnings, text?_ofText, hf]

theorem isWritten_toJson (r : Report) : IsWritten r.toJson := by
  refine isWritten_ofMembers ?_ isNamed ?_
  · rfl
  · simp only [List.forall_mem_cons]
    refine ⟨.bool _, isWritten_ofNat _, isWritten_ofNat _, .array ?_, isWritten_ofText _,
      isWritten_ofText _, List.forall_mem_nil _⟩
    intro _ hv
    obtain ⟨f, -, rfl⟩ := List.mem_map.mp hv
    exact f.isWritten_toJson

theorem read?_toJson (r : Report) : read? r.toJson.write = some r.toJson :=
  read?_write r.isWritten_toJson

theorem toJson_injective {q r : Report} (hq : q.Fits) (hr : r.Fits)
    (h : q.toJson.write = r.toJson.write) : q = r := by
  have hread : (read? q.toJson.write).bind ofJson? = (read? r.toJson.write).bind ofJson? := by
    rw [h]
  rw [read?_toJson, read?_toJson, Option.bind_some, Option.bind_some, ofJson?_toJson hq,
    ofJson?_toJson hr] at hread
  exact Option.some.inj hread

end Report

/-! ### Reports that fit -/

theorem Finding.lt_of_ofJson? {value : Json} {f : Finding} (h : Finding.ofJson? value = some f) :
    f.line < UInt64.size := by
  simp only [ofJson?, Option.bind_eq_bind, Option.bind_eq_some_iff] at h
  obtain ⟨fields, -, h⟩ := h
  split at h
  · simp only [Option.bind_eq_some_iff] at h
    obtain ⟨line, hl, message, -, severity, -, he⟩ := h
    cases he
    exact lt_of_natural? hl
  · cases h

theorem Report.fits_of_ofJson? {value : Json} {r : Report} (h : Report.ofJson? value = some r) :
    r.Fits := by
  simp only [ofJson?, Option.bind_eq_bind, Option.bind_eq_some_iff] at h
  obtain ⟨fields, -, h⟩ := h
  split at h
  · simp only [Option.bind_eq_some_iff] at h
    obtain ⟨flag, -, errors, he, warnings, hw, items, -, findings, hf, corrected, -,
      explanation, -, hr⟩ := h
    cases hr
    refine ⟨lt_of_natural? he, lt_of_natural? hw, ?_⟩
    intro f hm
    obtain ⟨item, -, hi⟩ := exists_of_mem_mapM hf hm
    exact Finding.lt_of_ofJson? hi
  · cases h

theorem Report.degraded_fits : degraded.Fits :=
  ⟨by decide, by decide, by decide⟩

theorem Text.length_linesFrom_le (done : List Text) (line text : Text) :
    (linesFrom done line text).length ≤ done.length + line.length + text.length := by
  induction text generalizing done line with
  | nil =>
    cases line with
    | nil => simp [linesFrom]
    | cons c line => simp [linesFrom]
  | cons c text ih =>
    rw [linesFrom]
    split
    · have h := ih (closeLine line :: done) []
      simp only [List.length_cons, List.length_nil] at h ⊢
      omega
    · have h := ih done (c :: line)
      simp only [List.length_cons] at h ⊢
      omega

theorem Text.length_lines_le (text : Text) : (lines text).length ≤ text.length := by
  simpa [lines] using length_linesFrom_le [] [] text

theorem length_flatMap_le {α β : Type} {f : α → List β} {n : Nat} {l : List α}
    (h : ∀ x ∈ l, (f x).length ≤ n) : (l.flatMap f).length ≤ n * l.length := by
  induction l with
  | nil => exact Nat.zero_le _
  | cons x l ih =>
    obtain ⟨hx, hl⟩ := List.forall_mem_cons.mp h
    rw [List.flatMap_cons, List.length_append, List.length_cons, Nat.mul_succ, Nat.add_comm]
    exact Nat.add_le_add (ih hl) hx

def Profile.ruleCount (profile : Profile) : Nat :=
  profile.lineRules.length + profile.balanceRules.length

theorem Profile.length_findings_le (profile : Profile) (source : Text) :
    (profile.findings source).length ≤ profile.ruleCount * max 1 (Text.lines source).length := by
  have hline : (profile.lineFindings source).length ≤
      profile.lineRules.length * (Text.lines source).length := by
    calc (profile.lineFindings source).length
        ≤ profile.lineRules.length * ((Text.lines source).zipIdx 1).length := by
          apply length_flatMap_le
          rintro ⟨line, i⟩ -
          exact (List.length_filterMap_le _ _).trans (List.length_filter_le _ _)
      _ = profile.lineRules.length * (Text.lines source).length := by rw [List.length_zipIdx]
  have hbalance : (profile.balanceFindings source).length ≤ profile.balanceRules.length :=
    List.length_filterMap_le _ _
  calc (profile.findings source).length
      ≤ profile.lineRules.length * (Text.lines source).length +
          profile.balanceRules.length * 1 := by
        rw [findings, List.length_append, Nat.mul_one]
        exact Nat.add_le_add hline hbalance
    _ ≤ profile.lineRules.length * max 1 (Text.lines source).length +
          profile.balanceRules.length * max 1 (Text.lines source).length :=
        Nat.add_le_add (Nat.mul_le_mul_left _ (Nat.le_max_right _ _))
          (Nat.mul_le_mul_left _ (Nat.le_max_left _ _))
    _ = profile.ruleCount * max 1 (Text.lines source).length := (Nat.add_mul _ _ _).symm

theorem Profile.review_fits {profile : Profile} {code : Text} (hc : code.length < UInt64.size)
    (hf : (profile.findings code).length < UInt64.size) : (profile.review code).Fits := by
  refine ⟨?_, ?_, ?_⟩
  · exact Nat.lt_of_le_of_lt List.countP_le_length hf
  · exact Nat.lt_of_le_of_lt List.countP_le_length hf
  · intro f hm
    have hline := (line_of_mem_findings hm).2
    have hlines := Text.length_lines_le code
    have hone : 1 < UInt64.size := by decide
    omega

/-! ### Acceptance -/

namespace Enrichment

theorem stripFence_object {inner : Text} :
    stripFence ('\x7b' :: (inner ++ ['\x7d'])) = '\x7b' :: (inner ++ ['\x7d']) := by
  have ht : Text.trim ('\x7b' :: (inner ++ ['\x7d'])) = '\x7b' :: (inner ++ ['\x7d']) := by
    have hopen : Text.isBlank '\x7b' = false := by decide
    have hclose : Text.isBlank '\x7d' = false := by decide
    simp [Text.trim, Text.trimLeft, Text.trimRight, hopen, hclose]
  have hf : insideFence? ('\x7b' :: (inner ++ ['\x7d'])) = none := by
    simp [insideFence?, fence]
  rw [stripFence, ht]
  simp only [hf]

theorem stripFence_toJson (r : Report) : stripFence r.toJson.write = r.toJson.write := by
  obtain ⟨inner, he⟩ := write_object r.isWritten_toJson
  rw [Report.toJson, ofMembers, he]
  exact stripFence_object

theorem accept_toJson {r : Report} (h : r.Fits) :
    accept r.toJson.write =
      if r.findings.any fun f => f.line = 0 then .error (.inconsistent .zeroLine)
      else if r.isConsistent then .ok r
      else .error (.inconsistent .counts) := by
  rw [accept, stripFence_toJson, Report.read?_toJson, Option.bind_some, Report.ofJson?_toJson h]

theorem accept_toJson_of_agrees {r : Report} (h : r.Fits) (ha : r.Agrees) :
    accept r.toJson.write = .ok r := by
  have hz : ¬ (r.findings.any fun f => f.line = 0) = true := by
    intro hz
    obtain ⟨f, hf, h0⟩ := List.any_eq_true.mp hz
    have hl := ha.lines f hf
    rw [of_decide_eq_true h0] at hl
    exact absurd hl (by decide)
  rw [accept_toJson h, if_neg hz, if_pos (r.isConsistent_iff.mpr ha)]

theorem accept_toJson_of_inconsistent {r : Report} (h : r.Fits) (hc : r.isConsistent = false) :
    ∃ c : Contradiction, accept r.toJson.write = .error (.inconsistent c) ∧
      c.message = if ∃ f ∈ r.findings, f.line = 0 then "line numbers start at 1".toList
        else "counts do not match the reported errors".toList := by
  have hz : (r.findings.any fun f => f.line = 0) = true ↔ ∃ f ∈ r.findings, f.line = 0 := by
    simp
  by_cases hl : ∃ f ∈ r.findings, f.line = 0
  · refine ⟨.zeroLine, ?_, (if_pos hl).symm⟩
    rw [accept_toJson h, if_pos (hz.mpr hl)]
  · refine ⟨.counts, ?_, (if_neg hl).symm⟩
    rw [accept_toJson h, if_neg fun he => hl (hz.mp he), hc]
    rfl

theorem fits_of_accept {raw : Text} {r : Report} (h : accept raw = .ok r) : r.Fits := by
  obtain ⟨value, -, hv⟩ := Option.bind_eq_some_iff.mp (of_accept h).1
  exact Report.fits_of_ofJson? hv

theorem accept_toJson_of_accept {raw : Text} {r : Report} (h : accept raw = .ok r) :
    accept r.toJson.write = .ok r :=
  accept_toJson_of_agrees (fits_of_accept h) (agrees_of_accept h)

end Enrichment

open Enrichment

theorem Reviewer.accept_run {reviewer : Reviewer} {q : Request}
    (hc : q.code.length < UInt64.size)
    (hf : (reviewer.heuristic q.code q.language).findings.length < UInt64.size)
    (asked : List Question) :
    accept (reviewer.run q asked).1.toJson.write = .ok (reviewer.run q asked).1 := by
  rcases reviewer.report_cases q asked with ⟨r, ⟨_, _, _, _, _, _, hr⟩, he⟩ | he
  · rw [he]
    exact accept_toJson_of_accept hr
  · have ha := (reviewer.catalog.get q.language).review_agrees q.code
    rw [he]
    exact accept_toJson_of_agrees (Profile.review_fits hc hf) ha

namespace Enrichment

/-- A report is accepted as it is written if it agrees with itself. If not, the first thing wrong
with it is named. No two reports are written alike. What is served is accepted unchanged, as far as
a machine number counts the characters of the snippet and its findings. -/
theorem accept_written :
    (∀ r : Report, r.Fits →
      (r.isConsistent = true → accept r.toJson.write = .ok r) ∧
      (r.isConsistent = false → ∃ c : Contradiction,
        accept r.toJson.write = .error (.inconsistent c) ∧
        c.message = if ∃ f ∈ r.findings, f.line = 0 then "line numbers start at 1".toList
          else "counts do not match the reported errors".toList) ∧
      accept r.toJson.write ≠ .error .malformed ∧
      ∀ q : Report, q.Fits → q.toJson.write = r.toJson.write → q = r) ∧
    (∀ (reviewer : Reviewer) (service : Question → Reply) (code language : Text),
      code.length < UInt64.size →
      (reviewer.heuristic code language).findings.length < UInt64.size →
      accept (Web.ofReport 200 (reviewer.review service code language).report).body =
        .ok (reviewer.review service code language).report) ∧
    accept (Web.ofReport 500 .degraded).body = .ok .degraded := by
  refine ⟨?_, ?_, accept_toJson_of_agrees Report.degraded_fits Report.degraded_agrees⟩
  · intro r h
    refine ⟨?_, accept_toJson_of_inconsistent h, ?_, ?_⟩
    · exact fun hc => accept_toJson_of_agrees h (r.isConsistent_iff.mp hc)
    · intro hm
      rw [accept_toJson h] at hm
      split at hm
      · cases hm
      · split at hm <;> cases hm
    · exact fun q hq he => Report.toJson_injective hq h he
  · intro reviewer service code language hc hf
    exact Reviewer.accept_run (q := .mk code language service) hc hf []

theorem accept_written_escaped :
    let report : Report :=
      .ofFindings [⟨UInt64.size - 1, "\"\\ \x01\x7f😀".toList, .warning⟩] "\x60\x60\x60\n\x7b\x7d".toList
    let miscounted : Report := { report with errorCount := UInt64.size - 1 }
    let unnumbered : Report := { report with findings := [⟨0, [], .warning⟩] }
    let reviewer : Reviewer := ⟨⟨[], ⟨[], none, [], [⟨[], .error, [], '(', ')'⟩], []⟩⟩, none⟩
    accept report.toJson.write = .ok report ∧
    (∃ c : Contradiction, accept miscounted.toJson.write = .error (.inconsistent c) ∧
      c.message = "counts do not match the reported errors".toList) ∧
    (∃ c : Contradiction, accept unnumbered.toJson.write = .error (.inconsistent c) ∧
      c.message = "line numbers start at 1".toList) ∧
    unnumbered.toJson.write ≠ report.toJson.write ∧
    accept (Web.ofReport 200 (reviewer.review (fun _ => .silence) ['('] []).report).body =
      .ok (.ofFindings [⟨1, [], .error⟩] ['(']) := by
  intro report miscounted unnumbered reviewer
  have hr : report.Fits := ⟨by decide, by decide, by decide⟩
  have hm : miscounted.Fits := ⟨by decide, by decide, by decide⟩
  have hu : unnumbered.Fits := ⟨by decide, by decide, by decide⟩
  refine ⟨(accept_written.1 report hr).1 (by decide),
    (accept_written.1 miscounted hm).2.1 (by decide),
    (accept_written.1 unnumbered hu).2.1 (by decide), ?_, ?_⟩
  · intro he
    exact absurd ((accept_written.1 report hr).2.2.2 unnumbered hu he) (by decide)
  · exact accept_written.2.1 reviewer (fun _ => .silence) ['('] [] (by decide) (by decide)

end Enrichment

end SnippetReview
