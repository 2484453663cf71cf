import SnippetReview.Proofs.Profile.Findings

namespace SnippetReview

open Text

theorem Text.length_lines_newline (text : Text) :
    (lines (text ++ ['\n'])).length = text.count '\n' + 1 := by
  induction text using lines_induction with
  | last text h => rw [lines_cons h, List.count_eq_zero_of_not_mem h]; rfl
  | cons first rest hf ih =>
    rw [List.append_assoc, List.cons_append, lines_cons hf, List.length_cons, ih, List.count_append,
      List.count_eq_zero_of_not_mem hf, List.count_cons_self, Nat.zero_add]

def Finding.moved (n : Nat) (f : Finding) : Finding :=
  { f with line := f.line + n }

namespace Profile

def reportsOn (rules : List LineRule) (first : Nat) (lines : List Text) : List Finding :=
  (lines.zipIdx first).flatMap fun (line, number) =>
    rules.filterMap fun rule =>
      if rule.flags (trim line) then some (rule.finding number) else none

theorem lineFindings_eq_reportsOn (profile : Profile) (source : Text) :
    profile.lineFindings source = reportsOn (profile.activeRules source) 1 (lines source) := rfl

theorem reportsOn_append (rules : List LineRule) (first : Nat) (upper lower : List Text) :
    reportsOn rules first (upper ++ lower) =
      reportsOn rules first upper ++ reportsOn rules (first + upper.length) lower := by
  rw [reportsOn, List.zipIdx_append, List.flatMap_append]
  rfl

theorem reportsOn_add (rules : List LineRule) (n first : Nat) (lines : List Text) :
    reportsOn rules (n + first) lines = (reportsOn rules first lines).map (Finding.moved n) := by
  have line_moved (line : Text) (number : Nat) :
      (rules.filterMap fun rule =>
        if rule.flags (trim line) then some (rule.finding (number + n)) else none) =
      (rules.filterMap fun rule =>
        if rule.flags (trim line) then some (rule.finding number) else none).map
          (Finding.moved n) := by
    rw [List.map_filterMap]
    congr 1
    funext rule
    by_cases h : rule.flags (trim line) = true <;> simp [h, LineRule.finding, Finding.moved]
  rw [reportsOn, reportsOn, ← List.map_snd_add_zipIdx_eq_zipIdx, List.flatMap_map, List.map_flatMap]
  congr 1
  funext ⟨line, number⟩
  exact line_moved line number

theorem line_of_mem_reportsOn {rules : List LineRule} {first : Nat} {lines : List Text}
    {f : Finding}
    (h : f ∈ reportsOn rules first lines) : first ≤ f.line ∧ f.line < first + lines.length := by
  obtain ⟨⟨line, number⟩, hm, hf⟩ := List.mem_flatMap.mp h
  obtain ⟨rule, -, hrule⟩ := List.mem_filterMap.mp hf
  obtain ⟨-, he⟩ := Option.ite_none_right_eq_some.mp hrule
  obtain rfl := Option.some.inj he
  obtain ⟨hlo, hhi, -⟩ := List.mem_zipIdx hm
  exact ⟨hlo, hhi⟩

def SilencedAlike (profile : Profile) (source other : Text) : Prop :=
  ∀ rule ∈ profile.lineRules, ∀ r ∈ rule.exemptSource, r.occursIn source = r.occursIn other

instance (profile : Profile) (source other : Text) :
    Decidable (profile.SilencedAlike source other) :=
  inferInstanceAs (Decidable (∀ rule ∈ profile.lineRules, _))

theorem SilencedAlike.activeRules_eq {profile : Profile} {source other : Text}
    (h : profile.SilencedAlike source other) :
    profile.activeRules source = profile.activeRules other := by
  apply activeRules_congr
  intro rule hr
  rw [LineRule.silencedBy, LineRule.silencedBy]
  cases he : rule.exemptSource with
  | none => rfl
  | some r => exact h rule hr r he

variable {profile : Profile} {whole : Text}

theorem SilencedAlike.lineFindings_eq {source : Text} (h : profile.SilencedAlike source whole) :
    profile.lineFindings source = reportsOn (profile.activeRules whole) 1 (lines source) := by
  rw [lineFindings_eq_reportsOn, h.activeRules_eq]

theorem reportsOn_below {before after : Text} (h : profile.SilencedAlike after whole) :
    reportsOn (profile.activeRules whole) (1 + (lines (before ++ ['\n'])).length) (lines after) =
      (profile.lineFindings after).map (Finding.moved (1 + before.count '\n')) := by
  rw [length_lines_newline, ← Nat.add_assoc, reportsOn_add, h.lineFindings_eq]

/-- The findings on lines of a text below another are those on the upper one and then those on the
lower one, counted on. So whatever stands between two texts has findings on its own lines only, and
moves those on the text below it by the number of its lines. -/
theorem lineFindings_compose (profile : Profile) :
    (∀ before after,
      profile.SilencedAlike (before ++ ['\n']) (before ++ '\n' :: after) →
      profile.SilencedAlike after (before ++ '\n' :: after) →
      profile.lineFindings (before ++ '\n' :: after) =
        profile.lineFindings (before ++ ['\n']) ++
          (profile.lineFindings after).map (Finding.moved (1 + before.count '\n'))) ∧
    ∀ before middle after,
      profile.SilencedAlike (before ++ ['\n']) (before ++ '\n' :: middle ++ '\n' :: after) →
      profile.SilencedAlike after (before ++ '\n' :: middle ++ '\n' :: after) →
      ∃ between, profile.lineFindings (before ++ '\n' :: middle ++ '\n' :: after) =
          profile.lineFindings (before ++ ['\n']) ++ between ++
            (profile.lineFindings after).map
              (Finding.moved (1 + (before ++ '\n' :: middle).count '\n')) ∧
        ∀ f ∈ between, 1 + before.count '\n' < f.line ∧
          f.line ≤ 1 + (before ++ '\n' :: middle).count '\n' := by
  constructor
  · intro before after hb ha
    rw [lineFindings_eq_reportsOn, lines_append, reportsOn_append, reportsOn_below ha,
      hb.lineFindings_eq]
  · intro before middle after hb ha
    have hlines : lines (before ++ '\n' :: middle ++ ['\n']) =
        lines (before ++ ['\n']) ++ lines (middle ++ ['\n']) := by
      rw [List.append_assoc, List.cons_append, lines_append]
    refine ⟨reportsOn (profile.activeRules (before ++ '\n' :: middle ++ '\n' :: after))
      (1 + (lines (before ++ ['\n'])).length) (lines (middle ++ ['\n'])), ?_, ?_⟩
    · rw [lineFindings_eq_reportsOn, lines_append, reportsOn_append, reportsOn_below ha, hlines,
        reportsOn_append, hb.lineFindings_eq]
    · intro f hf
      have hline := line_of_mem_reportsOn hf
      simp only [length_lines_newline] at hline
      simp only [List.count_append, List.count_cons_self]
      omega

theorem lineFindings_compose_seam :
    let rule : LineRule :=
      ⟨[], .warning, [], .chars (.single ';'), some (.chars (.single '#')),
        some (.chars (.single '!'))⟩
    let profile : Profile := ⟨[], none, [rule], [], []⟩
    profile.lineFindings [';', '\r', '\n', '\n', '#', ';', '\n', ';'] =
      [rule.finding 1, rule.finding 4] ∧
    ∃ between, profile.lineFindings [';', '\r', '\n', '\n', ';', '\n', ';'] =
        [rule.finding 1] ++ between ++ [rule.finding 4] ∧
      ∀ f ∈ between, 1 < f.line ∧ f.line ≤ 3 := by
  intro rule profile
  have hupper : profile.lineFindings [';', '\r', '\n'] = [rule.finding 1] := by decide
  have hlower : profile.lineFindings ['\n', '#', ';', '\n', ';'] = [rule.finding 3] := by decide
  have hlast : profile.lineFindings [';'] = [rule.finding 1] := by decide
  constructor
  · have h := (lineFindings_compose profile).1 [';', '\r'] ['\n', '#', ';', '\n', ';'] (by decide)
      (by decide)
    rw [hlower] at h
    exact h.trans (congrArg (· ++ _) hupper)
  · obtain ⟨between, he, hb⟩ := (lineFindings_compose profile).2 [';', '\r'] ['\n', ';'] [';']
      (by decide) (by decide)
    rw [hlast] at he
    exact ⟨between, he.trans (congrArg (· ++ between ++ _) hupper), hb⟩

end Profile

end SnippetReview
