import SnippetReview.Catalog
import SnippetReview.Proofs.Profile.Compile

namespace SnippetReview.Catalog

theorem mem_insertById {p q : Profile} {profiles : List Profile}
    (h : p ∈ insertById q profiles) : p = q ∨ p ∈ profiles := by
  induction profiles with
  | nil => exact .inl (List.mem_singleton.mp h)
  | cons first rest ih =>
    rw [insertById] at h
    split at h
    · exact (List.mem_cons.mp h).imp_right (List.mem_cons_of_mem _)
    · split at h
      · exact List.mem_cons.mp h
      · rcases List.mem_cons.mp h with rfl | h
        · exact .inr List.mem_cons_self
        · exact (ih h).imp_right (List.mem_cons_of_mem _)

theorem mem_of_mem_foldl_insertById {p : Profile} {profiles found : List Profile}
    (h : p ∈ profiles.foldl (fun found q => insertById q found) found) :
    p ∈ found ∨ p ∈ profiles := by
  induction profiles generalizing found with
  | nil => exact .inl h
  | cons q profiles ih =>
    rcases ih h with h | h
    · rcases mem_insertById h with rfl | h
      · exact .inr List.mem_cons_self
      · exact .inl h
    · exact .inr (List.mem_cons_of_mem _ h)

theorem mem_of_ofProfiles {profiles : List Profile} {catalog : Catalog}
    (h : ofProfiles profiles = .ok catalog) {p : Profile} (hp : p ∈ catalog.profiles) :
    p ∈ profiles := by
  rw [ofProfiles] at h
  split at h
  · cases h
    exact (mem_of_mem_foldl_insertById hp).resolve_left List.not_mem_nil
  · cases h

theorem find?_insertById (q : Profile) (profiles : List Profile) (id : Text) :
    (insertById q profiles).find? (fun p => p.id = id) =
      if q.id = id then some q else profiles.find? fun p => p.id = id := by
  induction profiles with
  | nil => by_cases hq : q.id = id <;> simp [insertById, hq]
  | cons p rest ih =>
    rw [insertById]
    split
    · rename_i he
      by_cases hq : q.id = id
      · simp [hq]
      · simp [hq, ← he]
    · rename_i hne
      split
      · by_cases hq : q.id = id <;> simp [hq]
      · by_cases hp : p.id = id
        · have hq : q.id ≠ id := fun hq => hne (hq.trans hp.symm)
          simp [hp, hq]
        · simp [hp, ih]

def lastWith? {α : Type} (idOf : α → Text) (id : Text) (l : List α) : Option α :=
  (l.filter fun a => idOf a = id).getLast?

theorem lastWith?_cons {α : Type} (idOf : α → Text) (id : Text) (a : α) (l : List α) :
    lastWith? idOf id (a :: l) =
      (lastWith? idOf id l).or (if idOf a = id then some a else none) := by
  by_cases h : idOf a = id
  · simp [lastWith?, h, List.getLast?_cons]
  · simp [lastWith?, h]

theorem lastWith?_isSome_iff {α : Type} {idOf : α → Text} {id : Text} {l : List α} :
    (lastWith? idOf id l).isSome = true ↔ ∃ a ∈ l, idOf a = id := by
  simp [lastWith?]

theorem find?_foldl_insertById (profiles found : List Profile) (id : Text) :
    (profiles.foldl (fun found p => insertById p found) found).find? (fun p => p.id = id) =
      (lastWith? Profile.id id profiles).or (found.find? fun p => p.id = id) := by
  induction profiles generalizing found with
  | nil => rfl
  | cons q profiles ih =>
    rw [List.foldl_cons, ih, find?_insertById, lastWith?_cons, Option.or_assoc]
    by_cases hq : q.id = id <;> simp [hq]

theorem find?_foldl_nil (profiles : List Profile) (id : Text) :
    (profiles.foldl (fun found p => insertById p found) []).find? (fun p => p.id = id) =
      lastWith? Profile.id id profiles := by
  rw [find?_foldl_insertById, List.find?_nil, Option.or_none]

theorem pairwise_insertById (q : Profile) {profiles : List Profile}
    (h : (profiles.map Profile.id).Pairwise (· < ·)) :
    ((insertById q profiles).map Profile.id).Pairwise (· < ·) := by
  induction profiles with
  | nil => exact List.pairwise_singleton _ _
  | cons p rest ih =>
    obtain ⟨hp, hrest⟩ := List.pairwise_cons.mp h
    rw [insertById]
    split
    · rename_i he
      rw [List.map_cons, he]
      exact h
    · rename_i hne
      split
      · rename_i hlt
        refine List.pairwise_cons.mpr ⟨?_, h⟩
        rw [List.map_cons, List.forall_mem_cons]
        exact ⟨hlt, fun id hid => List.lt_trans hlt (hp id hid)⟩
      · rename_i hnot
        -- What stands behind the first profile now is the new one or stood there before.
        refine List.pairwise_cons.mpr ⟨?_, ih hrest⟩
        intro id hid
        obtain ⟨r, hr, rfl⟩ := List.mem_map.mp hid
        rcases mem_insertById hr with rfl | hr
        · exact Classical.byContradiction fun hn =>
            hne (List.le_antisymm (List.not_lt.mp hn) (List.not_lt.mp hnot))
        · exact hp _ (List.mem_map_of_mem hr)

theorem pairwise_foldl_insertById (profiles : List Profile) {found : List Profile}
    (h : (found.map Profile.id).Pairwise (· < ·)) :
    ((profiles.foldl (fun found p => insertById p found) found).map Profile.id).Pairwise
      (· < ·) := by
  induction profiles generalizing found with
  | nil => exact h
  | cons q profiles ih => exact ih (pairwise_insertById q h)

theorem ofProfiles_eq_ok_iff {profiles : List Profile} {catalog : Catalog} :
    ofProfiles profiles = .ok catalog ↔
      catalog.profiles = profiles.foldl (fun found p => insertById p found) [] ∧
        lastWith? Profile.id defaultId profiles = some catalog.fallback := by
  obtain ⟨found, fallback⟩ := catalog
  rw [ofProfiles, find?_foldl_nil]
  cases hl : lastWith? Profile.id defaultId profiles with
  | none => simp
  | some last =>
    simp only [Except.ok.injEq, Catalog.mk.injEq, Option.some.injEq]
    exact and_congr_left' eq_comm

theorem find?_of_ofProfiles {profiles : List Profile} {catalog : Catalog}
    (h : ofProfiles profiles = .ok catalog) (id : Text) :
    catalog.find? id = lastWith? Profile.id id profiles := by
  rw [find?, (ofProfiles_eq_ok_iff.mp h).1, find?_foldl_nil]

theorem some_get_of_ofProfiles {profiles : List Profile} {catalog : Catalog}
    (h : ofProfiles profiles = .ok catalog) (id : Text) :
    some (catalog.get id) =
      (lastWith? Profile.id id profiles).or (lastWith? Profile.id defaultId profiles) := by
  rw [get, find?_of_ofProfiles h, (ofProfiles_eq_ok_iff.mp h).2]
  cases lastWith? Profile.id id profiles <;> rfl

theorem pairwise_ids_of_ofProfiles {profiles : List Profile} {catalog : Catalog}
    (h : ofProfiles profiles = .ok catalog) : catalog.ids.Pairwise (· < ·) := by
  rw [ids, (ofProfiles_eq_ok_iff.mp h).1]
  exact pairwise_foldl_insertById profiles .nil

theorem mem_ids_iff {catalog : Catalog} {id : Text} :
    id ∈ catalog.ids ↔ catalog.contains id = true := by
  simp [ids, contains, find?]

theorem exists_table {tables : List ProfileTable} {catalog : Catalog}
    (h : ofTables tables = .ok catalog) {p : Profile} (hp : p ∈ catalog.profiles) :
    ∃ t ∈ tables, t.compile = .ok p := by
  rw [ofTables, bind_eq_ok_iff] at h
  obtain ⟨profiles, hm, h⟩ := h
  exact exists_of_mem_of_mapM hm (mem_of_ofProfiles h hp)

theorem fallback_mem_of_ofProfiles {profiles : List Profile} {catalog : Catalog}
    (h : ofProfiles profiles = .ok catalog) : catalog.fallback ∈ catalog.profiles := by
  rw [ofProfiles] at h
  split at h
  · rename_i hf
    cases h
    exact List.mem_of_find?_eq_some hf
  · cases h

theorem fallback_mem_of_ofTables {tables : List ProfileTable} {catalog : Catalog}
    (h : ofTables tables = .ok catalog) : catalog.fallback ∈ catalog.profiles := by
  rw [ofTables, bind_eq_ok_iff] at h
  obtain ⟨_, -, h⟩ := h
  exact fallback_mem_of_ofProfiles h

theorem get_mem {catalog : Catalog} (h : catalog.fallback ∈ catalog.profiles) (id : Text) :
    catalog.get id ∈ catalog.profiles := by
  rw [get]
  cases hf : catalog.find? id with
  | none => exact h
  | some profile => exact List.mem_of_find?_eq_some hf

theorem id_get_of_mem {catalog : Catalog} {profile : Profile} (h : profile ∈ catalog.profiles) :
    (catalog.get profile.id).id = profile.id := by
  cases hf : catalog.find? profile.id with
  | none => exact absurd (decide_eq_true rfl) (List.find?_eq_none.mp hf profile h)
  | some found =>
    have hid := List.find?_some hf
    rw [get, hf]
    exact of_decide_eq_true hid

structure CorrectsOnce (catalog : Catalog) : Prop where
  keeps : ∀ id text, (catalog.get id).correct text = [] → text = []
  once : ∀ id text, (catalog.get id).correct ((catalog.get id).correct text) =
    (catalog.get id).correct text

end SnippetReview.Catalog
