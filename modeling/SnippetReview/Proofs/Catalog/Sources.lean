import SnippetReview.Proofs.Catalog
import SnippetReview.Proofs.Profile.Faults
import SnippetReview.Proofs.Utf8

namespace SnippetReview.Catalog

/-! ### Corresponding lists -/

section

variable {α β : Type} {r : α → β → Prop}

theorem rel_or {a a' : Option α} {b b' : Option β} (h : Option.Rel r a b)
    (h' : Option.Rel r a' b') : Option.Rel r (a.or a') (b.or b') := by
  cases h with
  | some hr => exact .some hr
  | none => exact h'

theorem isSome_of_rel {a : Option α} {b : Option β} (h : Option.Rel r a b) :
    a.isSome = b.isSome := by
  cases h <;> rfl

theorem lastWith?_rel {idOf : α → Text} {idOf' : β → Text} (hid : ∀ a b, r a b → idOf' b = idOf a)
    (id : Text) {l : List α} {m : List β} (h : List.Forall₂ r l m) :
    Option.Rel r (lastWith? idOf id l) (lastWith? idOf' id m) := by
  induction h with
  | nil => exact .none
  | @cons a b l m hab _ ih =>
    rw [lastWith?_cons, lastWith?_cons, hid a b hab]
    refine rel_or ih ?_
    split
    · exact .some hab
    · exact .none

end

/-! ### Texts and tables -/

def tables (sources : List Text) : List ProfileTable :=
  sources.filterMap fun text => (ProfileTable.read text).toOption

def sourceChecks (text : Text) : List (Option ProfileError) :=
  match ProfileTable.read text with
  | .error fault => [some fault]
  | .ok t => t.checks

def checks (sources : List Text) : List (Option ProfileError) :=
  sources.flatMap sourceChecks ++
    [if ∃ t ∈ tables sources, t.id = defaultId then none else some (.missingDefault defaultId)]

theorem read_compile_eq_ok_iff {text : Text} {p : Profile} :
    (ProfileTable.read text >>= ProfileTable.compile) = .ok p ↔
      ∃ t, ProfileTable.read text = .ok t ∧ t.CompilesTo p := by
  simp only [bind_eq_ok_iff, ProfileTable.compilesTo_iff]

theorem compilesTo_of_mapM {sources : List Text} {profiles : List Profile}
    (h : sources.mapM (fun text => ProfileTable.read text >>= ProfileTable.compile) =
      .ok profiles) : List.Forall₂ ProfileTable.CompilesTo (tables sources) profiles := by
  induction mapM_eq_ok_iff.mp h with
  | nil => exact .nil
  | @cons text p sources profiles hp hrest ih =>
    obtain ⟨t, ht, hc⟩ := read_compile_eq_ok_iff.mp hp
    have htables : tables (text :: sources) = t :: tables sources :=
      List.filterMap_cons_some (by rw [ht]; rfl)
    rw [htables]
    exact .cons hc (ih (mapM_eq_ok_iff.mpr hrest))

theorem exists_id_iff {l : List ProfileTable} {profiles : List Profile} (id : Text)
    (h : List.Forall₂ ProfileTable.CompilesTo l profiles) :
    (lastWith? Profile.id id profiles).isSome = true ↔ ∃ t ∈ l, t.id = id := by
  rw [← lastWith?_isSome_iff, isSome_of_rel (lastWith?_rel (fun _ _ hr => hr.id) id h)]

/-! ### Refused texts -/

theorem faultOf_source (text : Text) :
    faultOf (ProfileTable.read text >>= ProfileTable.compile) = firstFault (sourceChecks text) := by
  rw [sourceChecks]
  cases ProfileTable.read text with
  | error fault => rfl
  | ok t => exact t.faultOf_compile

theorem faultOf_ofProfiles (profiles : List Profile) :
    faultOf (ofProfiles profiles) =
      if (lastWith? Profile.id defaultId profiles).isSome then none
      else some (.missingDefault defaultId) := by
  rw [ofProfiles, find?_foldl_nil]
  cases lastWith? Profile.id defaultId profiles <;> rfl

theorem faultOf_ofSources (sources : List Text) :
    faultOf (ofSources sources) = firstFault (checks sources) := by
  -- The default profile is looked for only if there are profiles of all texts.
  have hlater (profiles : List Profile)
      (h : sources.mapM (fun text => ProfileTable.read text >>= ProfileTable.compile) =
        .ok profiles) :
      faultOf (ofProfiles profiles) =
        if ∃ t ∈ tables sources, t.id = defaultId then none
        else some (.missingDefault defaultId) := by
    simp only [faultOf_ofProfiles, exists_id_iff defaultId (compilesTo_of_mapM h)]
  rw [ofSources, faultOf_bind hlater, faultOf_mapM, checks, firstFault_append, firstFault_flatMap,
    firstFault_cons]
  simp only [faultOf_source]
  exact congrArg _ Option.or_none.symm

/-! ### Accepted texts -/

theorem exists_profiles {sources : List Text} {catalog : Catalog}
    (h : ofSources sources = .ok catalog) :
    ∃ profiles, List.Forall₂ ProfileTable.CompilesTo (tables sources) profiles ∧
      ofProfiles profiles = .ok catalog := by
  rw [ofSources, bind_eq_ok_iff] at h
  obtain ⟨profiles, hm, h⟩ := h
  exact ⟨profiles, compilesTo_of_mapM hm, h⟩

theorem contains_iff {sources : List Text} {catalog : Catalog}
    (h : ofSources sources = .ok catalog) (id : Text) :
    catalog.contains id = true ↔ ∃ t ∈ tables sources, t.id = id := by
  obtain ⟨profiles, hc, h⟩ := exists_profiles h
  rw [contains, find?_of_ofProfiles h, exists_id_iff id hc]

theorem exists_table_of_get {sources : List Text} {catalog : Catalog}
    (h : ofSources sources = .ok catalog) (id : Text) :
    ∃ t, (lastWith? ProfileTable.id id (tables sources)).or
        (lastWith? ProfileTable.id defaultId (tables sources)) = some t ∧
      t.CompilesTo (catalog.get id) := by
  obtain ⟨profiles, hc, h⟩ := exists_profiles h
  have hrel := rel_or (lastWith?_rel (fun _ _ hr => hr.id) id hc)
    (lastWith?_rel (fun _ _ hr => hr.id) defaultId hc)
  rw [← some_get_of_ofProfiles h] at hrel
  generalize (lastWith? ProfileTable.id id (tables sources)).or _ = found at hrel ⊢
  cases hrel with
  | some hr => exact ⟨_, rfl, hr⟩

theorem pairwise_encode_ids {sources : List Text} {catalog : Catalog}
    (h : ofSources sources = .ok catalog) :
    (catalog.ids.map Utf8.encode).Pairwise (· < ·) := by
  obtain ⟨profiles, -, h⟩ := exists_profiles h
  exact (pairwise_ids_of_ofProfiles h).map _ fun _ _ => Utf8.encode_lt_encode

theorem exists_catalog_iff (sources : List Text) :
    (∃ catalog, ofSources sources = .ok catalog) ↔
      (∀ text ∈ sources, ∃ t p, ProfileTable.read text = .ok t ∧ t.CompilesTo p) ∧
        ∃ t ∈ tables sources, t.id = defaultId := by
  have hsource (text : Text) : firstFault (sourceChecks text) = none ↔
      ∃ t p, ProfileTable.read text = .ok t ∧ t.CompilesTo p := by
    rw [← faultOf_source, faultOf_eq_none_iff, exists_comm]
    simp only [read_compile_eq_ok_iff]
  rw [← faultOf_eq_none_iff, faultOf_ofSources, checks, firstFault_append, firstFault_flatMap,
    Option.or_eq_none_iff, List.findSome?_eq_none_iff]
  simp only [hsource]
  refine and_congr_right' ?_
  simp [firstFault]

/-- Either the first check that fails is reported, or the catalog has all that the texts hold: a
table replaces the earlier ones with its id, and the default profile is the one that is left. -/
theorem catalog_of_sources (sources : List Text) :
    (∀ fault, ofSources sources = .error fault ↔ firstFault (checks sources) = some fault) ∧
    ((∃ catalog, ofSources sources = .ok catalog) ↔
      (∀ text ∈ sources, ∃ t p, ProfileTable.read text = .ok t ∧ t.CompilesTo p) ∧
        ∃ t ∈ tables sources, t.id = defaultId) ∧
    ∀ catalog, ofSources sources = .ok catalog →
      (∀ id, ∃ t, (lastWith? ProfileTable.id id (tables sources)).or
          (lastWith? ProfileTable.id defaultId (tables sources)) = some t ∧
        t.CompilesTo (catalog.get id)) ∧
      (∀ id, catalog.contains id = true ↔ ∃ t ∈ tables sources, t.id = id) ∧
      (catalog.ids.map Utf8.encode).Pairwise (· < ·) ∧
      ∀ id, id ∈ catalog.ids ↔ ∃ t ∈ tables sources, t.id = id := by
  refine ⟨fun fault => ?_, exists_catalog_iff sources, fun catalog h => ?_⟩
  · rw [← faultOf_eq_some_iff, faultOf_ofSources]
  · exact ⟨exists_table_of_get h, contains_iff h, pairwise_encode_ids h,
      fun id => mem_ids_iff.trans (contains_iff h id)⟩

def replacing : List Text :=
  ["[profile]\nid = \"javascript\"", "[profile]\nid = \"python\"",
    "[profile]\nid = \"javascript\"\ndescription = \"later\""].map String.toList

def selfMatching : List Text :=
  ["[profile]\nid = \"python\"\n[[rewrites]]\npattern = \"a\"\nreplacement = \"ba\"",
    "[profile"].map String.toList

theorem catalog_of_sources_replaced :
    (∃ catalog, ofSources replacing = .ok catalog ∧
      (catalog.get "ruby".toList).description = some "later".toList ∧
      catalog.contains "ruby".toList = false ∧ "python".toList ∈ catalog.ids) ∧
    ofSources selfMatching = .error (.selfMatching "python".toList "ba".toList) := by
  constructor
  · have hsome : (ofSources replacing).toOption.isSome = true := by decide +kernel
    obtain ⟨catalog, hc⟩ : ∃ catalog, ofSources replacing = .ok catalog := by
      cases h : ofSources replacing with
      | error fault => simp [h, Except.toOption] at hsome
      | ok catalog => exact ⟨catalog, rfl⟩
    obtain ⟨hget, hcontains, -, hids⟩ := (catalog_of_sources replacing).2.2 catalog hc
    refine ⟨catalog, hc, ?_, ?_, (hids _).mpr (by decide +kernel)⟩
    · obtain ⟨t, ht, hcompile⟩ := hget "ruby".toList
      have hlater : (lastWith? ProfileTable.id "ruby".toList (tables replacing)).or
          (lastWith? ProfileTable.id defaultId (tables replacing)) =
            some ⟨"javascript".toList, some "later".toList, [], [], []⟩ := by
        decide +kernel
      cases ht.symm.trans hlater
      exact hcompile.description
    · rw [Bool.eq_false_iff, ne_eq, hcontains]
      decide +kernel
  · exact ((catalog_of_sources selfMatching).1 _).mpr (by decide +kernel)

end SnippetReview.Catalog
