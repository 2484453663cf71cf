import SnippetReview.Proofs.Correction.Rewording

/-!
Texts in which no replacement of a profile applies. Rewordings in a row lead to such a text if no
new text can bring back a phrase that was already replaced.
-/

namespace SnippetReview

open Pattern

namespace Profile

def IsNormal (profile : Profile) (text : Text) : Prop :=
  ∀ correction ∈ profile.corrections, correction.pattern.occursIn text = false

theorem correct_of_isNormal {profile : Profile} {text : Text} (h : profile.IsNormal text) :
    profile.correct text = text := by
  rw [IsNormal] at h
  rw [correct]
  generalize profile.corrections = corrections at h
  induction corrections with
  | nil => rfl
  | cons correction corrections ih =>
    have here := h correction List.mem_cons_self
    rw [List.foldl_cons, Correction.apply, Regex.replaceAll_of_not_occursIn here]
    exact ih fun c hc => h c (List.mem_cons_of_mem _ hc)

end Profile

namespace Pattern.Rewording

def applyAll (ws : List Rewording) (text : Text) : Text :=
  ws.foldl (fun text w => w.correction.apply text) text

/-- No new text overlaps the phrase that it is written for or a phrase earlier in the row. -/
def Settles (ws : List Rewording) : Prop :=
  (∀ w ∈ ws, w.phrase.Avoids w.new) ∧ ws.Pairwise fun v w => v.phrase.Avoids w.new

instance (ws : List Rewording) : Decidable (Settles ws) :=
  inferInstanceAs (Decidable (_ ∧ _))

theorem eq_nil_of_apply {w : Rewording} {text : Text} (h : w.correction.apply text = []) :
    text = [] := by
  have hr : Rewrites w.matcher w.new none text [] := by
    rw [← h]
    exact w.realizes.rewrites_replaceAll w.new text
  exact hr.eq_nil w.new_ne

theorem eq_nil_of_applyAll {ws : List Rewording} {text : Text} (h : applyAll ws text = []) :
    text = [] := by
  induction ws generalizing text with
  | nil => exact h
  | cons w ws ih => exact eq_nil_of_apply (ih h)

theorem occursIn_applyAll {ws : List Rewording} {v : Rewording}
    (ha : ∀ w ∈ ws, v.phrase.Avoids w.new) {text : Text} (h : v.regex.occursIn text = false) :
    v.regex.occursIn (applyAll ws text) = false := by
  induction ws generalizing text with
  | nil => exact h
  | cons w ws ih =>
    exact ih (fun u hu => ha u (List.mem_cons_of_mem _ hu))
      (occursIn_apply (ha w List.mem_cons_self) h)

theorem Settles.occursIn_applyAll {ws : List Rewording} (hs : Settles ws) (text : Text) :
    ∀ v ∈ ws, v.regex.occursIn (applyAll ws text) = false := by
  induction ws generalizing text with
  | nil => simp
  | cons w ws ih =>
    obtain ⟨own, order⟩ := hs
    obtain ⟨first, later⟩ := List.pairwise_cons.mp order
    intro v hv
    rcases List.mem_cons.mp hv with rfl | hv
    · exact Rewording.occursIn_applyAll first (occursIn_apply_self (own v List.mem_cons_self) text)
    · exact ih ⟨fun u hu => own u (List.mem_cons_of_mem _ hu), later⟩ (w.correction.apply text) v hv

end Pattern.Rewording

open Pattern.Rewording

namespace Profile

variable {profile : Profile} {ws : List Rewording}

theorem correct_eq_applyAll (hp : profile.corrections = ws.map Rewording.correction) (text : Text) :
    profile.correct text = applyAll ws text := by
  rw [correct, hp, List.foldl_map]
  rfl

theorem isNormal_correct_of_settles (hp : profile.corrections = ws.map Rewording.correction)
    (hs : Settles ws) (text : Text) : profile.IsNormal (profile.correct text) := by
  intro correction hc
  rw [hp] at hc
  obtain ⟨w, hw, rfl⟩ := List.mem_map.mp hc
  rw [correct_eq_applyAll hp]
  exact hs.occursIn_applyAll text w hw

end Profile

end SnippetReview
