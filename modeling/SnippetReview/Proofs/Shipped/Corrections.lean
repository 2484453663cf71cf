import Mathlib.Data.List.Nodup
import SnippetReview.Proofs.Catalog
import SnippetReview.Proofs.Correction.NormalForm
import SnippetReview.Proofs.Text.LineEnds
import SnippetReview.Shipped

namespace SnippetReview.Shipped

open Pattern

def javascriptRewordings : List Rewording := [
  { phrase := { opens := true, letters := "funtion ".toList }, new := "function ".toList },
  { phrase := { opens := true, letters := "retrun".toList, closes := true }
    new := "return".toList },
  { phrase := { opens := true, letters := "cosnt ".toList }, new := "const ".toList },
  { phrase := { opens := true, letters := "lte ".toList }, new := "let ".toList }]

def pythonRewordings : List Rewording := [
  { phrase := { opens := true, letters := "pritn(".toList }, new := "print(".toList },
  { phrase := { opens := true, letters := "prnit(".toList }, new := "print(".toList },
  { phrase := { opens := true, letters := "elseif".toList, closes := true }
    new := "elif".toList },
  { phrase := { letters := "&&".toList }, padded := true, new := " and ".toList },
  { phrase := { letters := "||".toList }, padded := true, new := " or ".toList },
  { phrase := { opens := true, letters := "true".toList, closes := true }
    new := "True".toList },
  { phrase := { opens := true, letters := "false".toList, closes := true }
    new := "False".toList }]

def javaRewordings : List Rewording := [
  { phrase := { opens := true, letters := "Sytem.".toList }, new := "System.".toList },
  { phrase := { opens := true, letters := "pubilc".toList, closes := true }
    new := "public".toList }]

def cppRewordings : List Rewording := [
  { phrase := { letters := "#inlcude".toList, closes := true }, new := "#include".toList },
  { phrase := { opens := true, letters := "mian(".toList }, new := "main(".toList }]

def rewordings : List (Text × List Rewording) := [
  ("cpp".toList, cppRewordings),
  ("java".toList, javaRewordings),
  ("javascript".toList, javascriptRewordings),
  ("python".toList, pythonRewordings)]

theorem catalog_corrections :
    catalog.toOption.map (fun c => c.profiles.map fun p => (p.id, p.corrections)) =
      some (rewordings.map fun r => (r.1, r.2.map Rewording.correction)) := by
  -- As lists of characters the tables are quick to evaluate, as strings they are not.
  unfold catalog tables javascript python java cpp
  repeat rw [String.toList_ofList]
  decide +kernel

theorem rewordings_settle : ∀ r ∈ rewordings, Rewording.Settles r.2 := by
  decide +kernel

theorem rewordings_within_lines : ∀ r ∈ rewordings, ∀ w ∈ r.2,
    Text.IsInline w.phrase.letters ∧ Text.IsInline w.new := by
  decide

theorem rewordings_nodup : (rewordings.map Prod.fst).Nodup := by
  decide

theorem mem_catalog {found : Catalog} (h : catalog = .ok found) : found ∈ catalog.toOption := by
  rw [h]
  rfl

theorem exists_catalog :
    ∃ found, catalog = .ok found ∧
      found.ids = ["cpp".toList, "java".toList, "javascript".toList, "python".toList] ∧
      ∀ profile ∈ found.profiles, ∃ r ∈ rewordings, profile.id = r.1 ∧
        profile.corrections = r.2.map Rewording.correction := by
  obtain ⟨found, hc, hp⟩ := Option.map_eq_some_iff.mp catalog_corrections
  refine ⟨found, ?_, ?_, ?_⟩
  · cases h : catalog with
    | ok c =>
      rw [h] at hc
      exact congrArg _ (Option.some.inj hc)
    | error e =>
      rw [h] at hc
      cases hc
  · have hids := congrArg (List.map Prod.fst) hp
    rw [List.map_map] at hids
    exact hids
  · intro profile hm
    have hr : (profile.id, profile.corrections) ∈
        rewordings.map fun r => (r.1, r.2.map Rewording.correction) := by
      rw [← hp]
      exact List.mem_map_of_mem hm
    obtain ⟨r, hr, he⟩ := List.mem_map.mp hr
    obtain ⟨hi, hw⟩ := Prod.mk.inj he
    exact ⟨r, hr, hi.symm, hw.symm⟩

theorem exists_profile {found : Catalog} (hc : catalog = .ok found) {r : Text × List Rewording}
    (hr : r ∈ rewordings) : ∃ profile ∈ found.profiles, profile.id = r.1 ∧
      profile.corrections = r.2.map Rewording.correction := by
  obtain ⟨_, hf, hp⟩ := Option.map_eq_some_iff.mp catalog_corrections
  obtain rfl := Option.some.inj ((mem_catalog hc).symm.trans hf)
  have hm := List.mem_map_of_mem (f := fun r => (r.1, r.2.map Rewording.correction)) hr
  rw [← hp] at hm
  obtain ⟨profile, hprofile, he⟩ := List.mem_map.mp hm
  obtain ⟨hid, hcorrections⟩ := Prod.mk.inj he
  exact ⟨profile, hprofile, hid, hcorrections⟩

theorem correct_get {found : Catalog} (hc : catalog = .ok found) {r : Text × List Rewording}
    (hr : r ∈ rewordings) (text : Text) :
    (found.get r.1).correct text = Rewording.applyAll r.2 text := by
  obtain ⟨_, hf, -, hprofiles⟩ := exists_catalog
  obtain rfl := Except.ok.inj (hc.symm.trans hf)
  obtain ⟨profile, hm, hid, -⟩ := exists_profile hc hr
  obtain ⟨s, hs, hsid, hcorrections⟩ :=
    hprofiles _ (Catalog.get_mem (Catalog.fallback_mem_of_ofTables hc) r.1)
  have hget : (found.get r.1).id = r.1 := by
    rw [← hid]
    exact Catalog.id_get_of_mem hm
  rw [Profile.correct_eq_applyAll hcorrections,
    List.inj_on_of_nodup_map rewordings_nodup hs hr (hsid.symm.trans hget)]

theorem correctsOnce_of_catalog {found : Catalog} (h : catalog = .ok found) :
    found.CorrectsOnce := by
  obtain ⟨_, hc, -, hprofiles⟩ := exists_catalog
  obtain rfl := Except.ok.inj (hc.symm.trans h)
  have hget (id : Text) := hprofiles _ (Catalog.get_mem (Catalog.fallback_mem_of_ofTables h) id)
  constructor
  · intro id text he
    obtain ⟨r, -, -, hr⟩ := hget id
    rw [Profile.correct_eq_applyAll hr] at he
    exact Rewording.eq_nil_of_applyAll he
  · intro id text
    obtain ⟨r, hm, -, hr⟩ := hget id
    exact Profile.correct_of_isNormal
      (Profile.isNormal_correct_of_settles hr (rewordings_settle r hm) text)

/-- Each shipped profile corrects every text to one in which none of its replacements has a match,
and so a second time changes nothing. -/
theorem correct_normalizes :
    ∃ found, catalog = .ok found ∧
      found.ids = ["cpp".toList, "java".toList, "javascript".toList, "python".toList] ∧
      ∀ profile ∈ found.profiles, ∀ text,
        (∀ correction ∈ profile.corrections,
          correction.pattern.occursIn (profile.correct text) = false) ∧
        profile.correct (profile.correct text) = profile.correct text := by
  obtain ⟨found, hc, hids, hprofiles⟩ := exists_catalog
  refine ⟨found, hc, hids, fun profile hm text => ?_⟩
  obtain ⟨r, hr, -, hcorrections⟩ := hprofiles profile hm
  have hn : profile.IsNormal (profile.correct text) :=
    Profile.isNormal_correct_of_settles hcorrections (rewordings_settle r hr) text
  exact ⟨hn, Profile.correct_of_isNormal hn⟩

end SnippetReview.Shipped
