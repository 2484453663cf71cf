import Mathlib.Data.List.Nodup
import SnippetReview.Proofs.Correction.Wording
import SnippetReview.Proofs.Shipped.Corrections

/-!
The typos that the profiles that come with the program both report and correct. None is left in a
corrected text but with blanks in it that the correction does not look for.
-/

namespace SnippetReview

open Pattern

deriving instance DecidableEq for Phrase

namespace Shipped

structure Typo where
  profile : Text
  rule : Text
  wordings : List Wording

def typos : List Typo := [
  { profile := "python".toList, rule := "typo-print".toList
    wordings := [{ opens := true, first := "pritn(".toList },
      { opens := true, first := "prnit(".toList }] },
  { profile := "python".toList, rule := "elseif".toList
    wordings := [{ opens := true, first := "elseif".toList, closes := true }] },
  { profile := "python".toList, rule := "lowercase-true".toList
    wordings := [{ opens := true, first := "true".toList, closes := true }] },
  { profile := "python".toList, rule := "lowercase-false".toList
    wordings := [{ opens := true, first := "false".toList, closes := true }] },
  { profile := "python".toList, rule := "c-style-and".toList
    wordings := [{ first := "&&".toList }] },
  { profile := "python".toList, rule := "c-style-or".toList
    wordings := [{ first := "||".toList }] },
  { profile := "java".toList, rule := "typo-system".toList
    wordings := [{ opens := true, first := "Sytem.".toList }] },
  { profile := "java".toList, rule := "typo-public".toList
    wordings := [{ opens := true, first := "pubilc".toList, closes := true }] },
  { profile := "javascript".toList, rule := "typo-return".toList
    wordings := [{ opens := true, first := "retrun".toList, closes := true }] },
  { profile := "javascript".toList, rule := "typo-function".toList
    wordings := [{ opens := true, first := "funtion".toList, spacing := .one, mended := [' '] }] },
  { profile := "javascript".toList, rule := "typo-const".toList
    wordings := [{ opens := true, first := "cosnt".toList, spacing := .one, mended := [' '] }] },
  { profile := "javascript".toList, rule := "typo-let".toList
    wordings := [{ opens := true, first := "lte".toList, spacing := .one, mended := [' '] }] },
  { profile := "cpp".toList, rule := "typo-include".toList
    wordings := [{ first := "#".toList, spacing := .any, second := "inlcude".toList
                   closes := true }] },
  { profile := "cpp".toList, rule := "typo-main".toList
    wordings := [{ opens := true, first := "mian".toList, spacing := .any
                   second := "(".toList }] }]

theorem catalog_typos : ∀ found ∈ catalog.toOption, ∀ t ∈ typos,
    (∃ profile ∈ found.profiles, profile.id = t.profile ∧
      ∃ rule ∈ profile.lineRules, rule.name = t.rule) ∧
    ∀ profile ∈ found.profiles, profile.id = t.profile → ∀ rule ∈ profile.lineRules,
      rule.name = t.rule → rule.Spells t.wordings := by
  unfold catalog tables javascript python java cpp
  repeat rw [String.toList_ofList]
  decide +kernel

theorem typos_reworded : ∀ t ∈ typos, ∀ r ∈ rewordings, t.profile = r.1 →
    ∀ u ∈ t.wordings, ∃ w ∈ r.2, w.phrase = u.phrase u.mended := by
  decide +kernel

theorem exists_leftIn {found : Catalog} (hc : catalog = .ok found) {profile : Profile}
    (hp : profile ∈ found.profiles) {t : Typo} (ht : t ∈ typos) (hid : profile.id = t.profile)
    {text : Text} {rule : LineRule} (hr : rule ∈ profile.activeRules (profile.correct text))
    (hname : rule.name = t.rule) {line : Text} (hl : line ∈ Text.lines (profile.correct text))
    (h : rule.flags (Text.trim line) = true) : ∃ w ∈ t.wordings, w.LeftIn (Text.trim line) := by
  obtain ⟨_, hc', -, hprofiles⟩ := exists_catalog
  obtain rfl := Except.ok.inj (hc'.symm.trans hc)
  obtain ⟨r, hrm, hri, hcorrections⟩ := hprofiles profile hp
  have hrule : rule ∈ profile.lineRules := List.mem_of_mem_filter hr
  have hspells := (catalog_typos _ (mem_catalog hc) t ht).2 profile hp hid rule hrule hname
  have hn : ∀ w ∈ r.2, w.regex.occursIn (profile.correct text) = false := fun w hw =>
    Profile.isNormal_correct_of_settles hcorrections (rewordings_settle r hrm) text w.correction
      (hcorrections ▸ List.mem_map_of_mem hw)
  exact hspells.leftIn (typos_reworded t ht r hrm (hid.symm.trans hri)) hn hl h

/-- Rules, with their profiles, that have nothing to report of a corrected text. -/
def mendedRules : List (Text × Text) := [
  ("python".toList, "typo-print".toList),
  ("python".toList, "elseif".toList),
  ("python".toList, "lowercase-true".toList),
  ("python".toList, "lowercase-false".toList),
  ("python".toList, "c-style-and".toList),
  ("python".toList, "c-style-or".toList),
  ("java".toList, "typo-system".toList),
  ("java".toList, "typo-public".toList),
  ("javascript".toList, "typo-return".toList)]

/-- Rules for a word that is corrected before a blank of one kind only. -/
def spacedRules : List (Text × Text × Text) := [
  ("javascript".toList, "typo-function".toList, "funtion".toList),
  ("javascript".toList, "typo-const".toList, "cosnt".toList),
  ("javascript".toList, "typo-let".toList, "lte".toList)]

/-- Rules for two parts that are corrected only where nothing stands between them. -/
def partedRules : List (Text × Text × Text × Text) := [
  ("cpp".toList, "typo-include".toList, "#".toList, "inlcude".toList),
  ("cpp".toList, "typo-main".toList, "mian".toList, "(".toList)]

theorem typos_rules : typos.map (fun t => (t.profile, t.rule)) =
    mendedRules ++ spacedRules.map (fun r => (r.1, r.2.1)) ++
      partedRules.map (fun r => (r.1, r.2.1)) := by
  decide

theorem mendedRules_tight : ∀ r ∈ mendedRules, ∃ t ∈ typos, r.1 = t.profile ∧ r.2 = t.rule ∧
    ∀ w ∈ t.wordings, w.mended = [] ∧ w.spacing = .tight := by
  decide

theorem spacedRules_one : ∀ r ∈ spacedRules, ∃ t ∈ typos, r.1 = t.profile ∧ r.2.1 = t.rule ∧
    ∀ w ∈ t.wordings, w.opens = true ∧ w.first = r.2.2 ∧ w.spacing = .one ∧ w.mended = [' '] ∧
      w.second = [] ∧ inWord w.first.head? = true := by
  decide

theorem partedRules_any : ∀ r ∈ partedRules, ∃ t ∈ typos, r.1 = t.profile ∧ r.2.1 = t.rule ∧
    ∀ w ∈ t.wordings, w.first = r.2.2.1 ∧ w.spacing = .any ∧ w.mended = [] ∧
      w.second = r.2.2.2 := by
  decide

def Leftover (profile rule line : Text) : Prop :=
  (profile, rule) ∉ mendedRules ∧
  (∀ word, (profile, rule, word) ∈ spacedRules →
    ∃ before x after, line = before ++ (word ++ x :: after) ∧
      inWord (lastOr before none) = false ∧ Text.isBlank x = true ∧ x ≠ ' ') ∧
  ∀ first second, (profile, rule, first, second) ∈ partedRules →
    ∃ before gap after, line = before ++ (first ++ (gap ++ (second ++ after))) ∧
      gap ≠ [] ∧ ∀ x ∈ gap, Text.isBlank x = true

theorem leftover_of_flags {found : Catalog} (hc : catalog = .ok found) {profile : Profile}
    (hp : profile ∈ found.profiles) {text : Text} {rule : LineRule}
    (hr : rule ∈ profile.activeRules (profile.correct text)) {line : Text}
    (hl : line ∈ Text.lines (profile.correct text)) (h : rule.flags (Text.trim line) = true) :
    Leftover profile.id rule.name (Text.trim line) := by
  refine ⟨fun hm => ?_, fun word hm => ?_, fun first second hm => ?_⟩
  · obtain ⟨t, ht, hid, hname, hw⟩ := mendedRules_tight _ hm
    obtain ⟨w, hwm, hleft⟩ := exists_leftIn hc hp ht hid hr hname hl h
    exact hleft.ne_tight (hw w hwm).1 (hw w hwm).2
  · obtain ⟨t, ht, hid, hname, hw⟩ := spacedRules_one _ hm
    obtain ⟨w, hwm, hleft⟩ := exists_leftIn hc hp ht hid hr hname hl h
    obtain ⟨hopens, hfirst, hone, hmended, hsecond, hword⟩ := hw w hwm
    obtain ⟨before, x, after, he, hx, hne, hedge⟩ := hleft.exists_blank hone hmended
    rw [hfirst, hsecond] at he
    refine ⟨before, x, after, he, ?_, hx, hne⟩
    rw [← Bool.not_eq_true, ← hword]
    exact hedge hopens
  · obtain ⟨t, ht, hid, hname, hw⟩ := partedRules_any _ hm
    obtain ⟨w, hwm, hleft⟩ := exists_leftIn hc hp ht hid hr hname hl h
    obtain ⟨hfirst, hany, hmended, hsecond⟩ := hw w hwm
    obtain ⟨before, gap, after, he, hgap, hblank⟩ := hleft.exists_blanks hany hmended
    rw [hfirst, hsecond] at he
    exact ⟨before, gap, after, he, hgap, hblank⟩

theorem tables_messages : ∀ t ∈ tables, (t.lineRules.map LineRuleTable.message).Nodup := by
  unfold tables javascript python java cpp
  repeat rw [String.toList_ofList]
  decide +kernel

theorem name_of_message {found : Catalog} (hc : catalog = .ok found) {profile : Profile}
    (hp : profile ∈ found.profiles) {rule other : LineRule} (hr : rule ∈ profile.lineRules)
    (ho : other ∈ profile.lineRules) (hm : rule.message = other.message) :
    rule.name = other.name := by
  obtain ⟨t, ht, hcompile⟩ := Catalog.exists_table hc hp
  obtain ⟨-, -, hrules, -⟩ := ProfileTable.compile_eq_ok_iff.mp hcompile
  obtain ⟨u, hu, hur⟩ := exists_of_mem_of_mapM hrules hr
  obtain ⟨v, hv, hvo⟩ := exists_of_mem_of_mapM hrules ho
  have hur := LineRuleTable.compilesTo_iff.mp hur
  have hvo := LineRuleTable.compilesTo_iff.mp hvo
  have he : u.message = v.message := hur.message.symm.trans (hm.trans hvo.message)
  rw [hur.name, hvo.name, List.inj_on_of_nodup_map (tables_messages t ht) hu hv he]

theorem findings_leftover {found : Catalog} (hc : catalog = .ok found) {profile : Profile}
    (hp : profile ∈ found.profiles) {text : Text} {f : Finding}
    (hf : f ∈ profile.lineFindings (profile.correct text)) {rule : LineRule}
    (hr : rule ∈ profile.lineRules) (hm : f.message = rule.message) :
    ∃ line, 1 ≤ f.line ∧ (Text.lines (profile.correct text))[f.line - 1]? = some line ∧
      Leftover profile.id rule.name (Text.trim line) := by
  obtain ⟨⟨line, number⟩, hline, hf⟩ := List.mem_flatMap.mp hf
  obtain ⟨other, hactive, hf⟩ := List.mem_filterMap.mp hf
  obtain ⟨hflags, he⟩ := Option.ite_none_right_eq_some.mp hf
  cases he
  obtain ⟨hone, hl⟩ := List.mk_mem_zipIdx_iff_le_and_getElem?_sub.mp hline
  have hname : other.name = rule.name :=
    name_of_message hc hp (List.mem_of_mem_filter hactive) hr hm
  refine ⟨line, hone, hl, ?_⟩
  rw [← hname]
  exact leftover_of_flags hc hp hactive (List.mem_of_getElem? hl) hflags

/-- Of the typos that a shipped profile corrects, its rules report none in a corrected text, but for
words before another blank than the usual one and words with blanks between their parts. -/
theorem typos_mended :
    ∃ found, catalog = .ok found ∧
      found.ids = ["cpp".toList, "java".toList, "javascript".toList, "python".toList] ∧
      (∀ r ∈ mendedRules ++ spacedRules.map (fun r => (r.1, r.2.1)) ++
          partedRules.map (fun r => (r.1, r.2.1)),
        ∃ profile ∈ found.profiles, profile.id = r.1 ∧
          ∃ rule ∈ profile.lineRules, rule.name = r.2) ∧
      ∀ profile ∈ found.profiles, ∀ text, ∀ rule ∈ profile.activeRules (profile.correct text),
        ∀ line ∈ Text.lines (profile.correct text), rule.flags (Text.trim line) = true →
        (profile.id, rule.name) ∉ mendedRules ∧
        (∀ word, (profile.id, rule.name, word) ∈ spacedRules →
          ∃ before x after, Text.trim line = before ++ (word ++ x :: after) ∧
            inWord (lastOr before none) = false ∧ Text.isBlank x = true ∧ x ≠ ' ') ∧
        ∀ first second, (profile.id, rule.name, first, second) ∈ partedRules →
          ∃ before gap after, Text.trim line = before ++ (first ++ (gap ++ (second ++ after))) ∧
            gap ≠ [] ∧ ∀ x ∈ gap, Text.isBlank x = true := by
  obtain ⟨found, hc, hids, -⟩ := exists_catalog
  refine ⟨found, hc, hids, ?_, ?_⟩
  · intro r hr
    rw [← typos_rules] at hr
    obtain ⟨t, ht, rfl⟩ := List.mem_map.mp hr
    exact (catalog_typos found (mem_catalog hc) t ht).1
  · intro profile hp text rule hr line hl h
    exact leftover_of_flags hc hp hr hl h

theorem typos_mended_before_tab :
    ∃ found, catalog = .ok found ∧ ∃ profile ∈ found.profiles,
      profile.correct "funtion\tf".toList = "funtion\tf".toList ∧
      ∃ rule ∈ profile.activeRules "funtion\tf".toList,
      (profile.id, rule.name) = ("javascript".toList, "typo-function".toList) ∧
      rule.flags "funtion\tf".toList = true ∧
      ∃ before x after, "funtion\tf".toList = before ++ ("funtion".toList ++ x :: after) ∧
        inWord (lastOr before none) = false ∧ Text.isBlank x = true ∧ x ≠ ' ' := by
  obtain ⟨found, hc, -, -, h⟩ := typos_mended
  have hrun : ∀ found ∈ catalog.toOption, ∃ profile ∈ found.profiles,
      profile.correct "funtion\tf".toList = "funtion\tf".toList ∧
      ∃ rule ∈ profile.activeRules "funtion\tf".toList,
      (profile.id, rule.name) = ("javascript".toList, "typo-function".toList) ∧
      rule.flags "funtion\tf".toList = true := by
    unfold catalog tables javascript python java cpp
    repeat rw [String.toList_ofList]
    decide +kernel
  obtain ⟨profile, hp, hcorrect, rule, hr, hname, hflags⟩ := hrun found (mem_catalog hc)
  have hl : "funtion\tf".toList ∈ Text.lines (profile.correct "funtion\tf".toList) := by
    rw [hcorrect]
    decide
  have hm : (profile.id, rule.name, "funtion".toList) ∈ spacedRules := by
    obtain ⟨hid, hn⟩ := Prod.mk.inj hname
    rw [hid, hn]
    decide
  have hactive : rule ∈ profile.activeRules (profile.correct "funtion\tf".toList) := by
    rw [hcorrect]
    exact hr
  obtain ⟨-, hspaced, -⟩ := h profile hp _ rule hactive _ hl hflags
  exact ⟨found, hc, profile, hp, hcorrect, rule, hr, hname, hflags, hspaced _ hm⟩

end Shipped

end SnippetReview
