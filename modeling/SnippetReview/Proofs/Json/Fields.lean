import Mathlib.Data.List.Nodup
import Mathlib.Data.List.TakeWhile
import SnippetReview.Proofs.Json.Reading
import SnippetReview.Proofs.Text.Decimal

namespace SnippetReview.Json

theorem isNumber_ofNat (n : Nat) : Token.isNumber (Text.ofNat n) = true := by
  by_cases hn : n = 0
  · subst hn
    rfl
  · obtain ⟨c, rest, he⟩ := List.exists_cons_of_ne_nil (Text.ofNat_ne_nil n)
    have hall := Text.all_isDigit_ofNat n
    have hhead := Text.head?_ofNat (Nat.pos_of_ne_zero hn)
    rw [he] at hall hhead ⊢
    obtain ⟨hc, hr⟩ := Bool.and_eq_true_iff.mp (List.all_cons.symm.trans hall)
    have hz : c ≠ '0' := fun hz => hhead (congrArg some hz)
    have hm : c ≠ '-' := by
      rintro rfl
      cases hc
    have hd : rest.dropWhile Char.isDigit = [] :=
      List.dropWhile_eq_nil_iff.mpr fun x hx => List.all_eq_true.mp hr x hx
    simp [Token.isNumber, hm, hc, hd, Token.isNumberTail]

theorem isWordChar_of_isDigit {c : Char} (h : c.isDigit = true) : Token.isWordChar c = true := by
  simp [Token.isWordChar, Char.isAlphanum, h]

theorem isWritten_ofNat (n : Nat) : IsWritten (ofNat n) := by
  apply IsWritten.number (isNumber_ofNat n)
  rw [List.all_eq_true]
  intro c hc
  exact isWordChar_of_isDigit (Text.isDigit_of_mem_ofNat hc)

theorem isWritten_ofText (text : Text) : IsWritten (ofText text) :=
  .string (isQuotable_escape text)

theorem natural?_ofNat {n : Nat} (h : n < UInt64.size) : (ofNat n).natural? = some n := by
  simp [ofNat, natural?, Text.decimalValue_ofNat, Text.all_isDigit_ofNat, h]

theorem lt_of_natural? {value : Json} {n : Nat} (h : value.natural? = some n) :
    n < UInt64.size := by
  cases value with
  | number written =>
    simp only [natural?, Option.ite_none_right_eq_some, Bool.and_eq_true, decide_eq_true_eq] at h
    obtain ⟨⟨-, hn⟩, he⟩ := h
    rw [← Option.some.inj he]
    exact hn
  | _ => cases h

theorem text?_ofText (text : Text) : (ofText text).text? = some text :=
  Quoted.decode_escape text

def AreNames (names : List String) : Prop :=
  (∀ name ∈ names, Quoted.escape name.toList = name.toList) ∧ names.Nodup

instance (names : List String) : Decidable (AreNames names) :=
  inferInstanceAs (Decidable (_ ∧ _))

theorem isWritten_ofMembers {members : List (String × Json)} {names : List String}
    (hm : members.map Prod.fst = names) (hn : AreNames names)
    (hv : ∀ m ∈ members, IsWritten m.2) : IsWritten (ofMembers members) := by
  apply IsWritten.object
  · intro _ hk
    obtain ⟨m, hmem, rfl⟩ := List.mem_map.mp hk
    have he := hn.1 m.1 (hm ▸ List.mem_map_of_mem hmem)
    rw [← he]
    exact isQuotable_escape _
  · intro _ hk
    obtain ⟨m, hmem, rfl⟩ := List.mem_map.mp hk
    exact hv m hmem

theorem mapM_eq_some_map {α β : Type} {f : α → Option β} {g : α → β} {l : List α}
    (h : ∀ x ∈ l, f x = some (g x)) : l.mapM f = some (l.map g) := by
  induction l with
  | nil => rfl
  | cons x l ih =>
    rw [List.mapM_cons, h x List.mem_cons_self, ih fun y hy => h y (List.mem_cons_of_mem _ hy)]
    rfl

theorem exists_of_mem_mapM {α β : Type} {f : α → Option β} {l : List α} {found : List β}
    (h : l.mapM f = some found) {y : β} (hy : y ∈ found) : ∃ x ∈ l, f x = some y := by
  induction l generalizing found with
  | nil =>
    cases h
    cases hy
  | cons x l ih =>
    simp only [List.mapM_cons, Option.bind_eq_bind, Option.bind_eq_some_iff] at h
    obtain ⟨z, hz, rest, hrest, he⟩ := h
    cases he
    rcases List.mem_cons.mp hy with rfl | hy
    · exact ⟨x, List.mem_cons_self, hz⟩
    · obtain ⟨w, hw, hf⟩ := ih hrest hy
      exact ⟨w, List.mem_cons_of_mem _ hw, hf⟩

theorem field?_of_mem {members : List (Text × Json)} (hn : (members.map Prod.fst).Nodup)
    {m : Text × Json} (hm : m ∈ members) : field? members m.1 = some (some m.2) := by
  have hf : (members.filter fun k => k.1 = m.1) = [m] := by
    induction members with
    | nil => cases hm
    | cons k members ih =>
      obtain ⟨hk, hrest⟩ := List.nodup_cons.mp hn
      rcases List.mem_cons.mp hm with rfl | hm
      · have he : (members.filter fun k => k.1 = m.1) = [] := by
          rw [List.filter_eq_nil_iff]
          intro j hj he
          apply hk
          rw [← of_decide_eq_true he]
          exact List.mem_map_of_mem hj
        simp [he]
      · have hne : k.1 ≠ m.1 := by
          intro he
          apply hk
          rw [he]
          exact List.mem_map_of_mem hm
        simpa [hne] using ih hrest hm
  rw [field?, hf]

theorem decodeKeys_ofMembers {members : List (String × Json)} {names : List String}
    (hm : members.map Prod.fst = names) (hn : AreNames names) :
    decodeKeys (members.map fun m => (m.1.toList, m.2)) =
      some (members.map fun m => (m.1.toList, m.2)) := by
  rw [decodeKeys, List.mapM_map]
  apply mapM_eq_some_map
  intro m hmem
  have he := Quoted.decode_escape m.1.toList
  rw [hn.1 m.1 (hm ▸ List.mem_map_of_mem hmem)] at he
  simp [he]

theorem field?_eq_some_some_iff {members : List (Text × Json)} {name : Text} {value : Json} :
    field? members name = some (some value) ↔
      members.filter (fun m => m.1 = name) = [(name, value)] := by
  rw [field?]
  constructor
  · intro h
    split at h
    · cases h
    · rename_i m hm
      have hname : m.1 = name := by
        have hmem : m ∈ members.filter fun m => m.1 = name := hm ▸ List.mem_singleton_self m
        simpa using (List.mem_filter.mp hmem).2
      cases h
      rw [hm, ← hname]
    · cases h
  · intro h
    rw [h]

theorem field?_eq_some_iff {members : List (Text × Json)} {name : Text} {value : Option Json} :
    field? members name = some value ↔
      members.filter (fun m => m.1 = name) = value.toList.map fun v => (name, v) := by
  cases value with
  | some value => exact field?_eq_some_some_iff
  | none =>
    rw [field?]
    constructor
    · intro h
      split at h
      · assumption
      · cases h
      · cases h
    · intro h
      rw [h]
      rfl

def members? : Json → Option (List (Text × Json))
  | object members => decodeKeys members
  | _ => none

theorem members?_ofMembers {members : List (String × Json)} {names : List String}
    (hm : members.map Prod.fst = names) (hn : AreNames names) :
    (ofMembers members).members? = some (members.map fun m => (m.1.toList, m.2)) :=
  decodeKeys_ofMembers hm hn

theorem fields?_of_field? {members : List (String × Json)} {names found : List String}
    {values : List (Option Json)} (hm : members.map Prod.fst = found) (hn : AreNames found)
    (hv : (names.mapM fun name => field? (members.map fun m => (m.1.toList, m.2)) name.toList) =
      some values) :
    (ofMembers members).fields? names = some values := by
  rw [fields?, ofMembers, someFields?, decodeKeys_ofMembers hm hn]
  exact hv

theorem fields?_ofMembers {members : List (String × Json)} {names : List String}
    (hm : members.map Prod.fst = names) (hn : AreNames names) :
    (ofMembers members).fields? names = some (members.map fun m => some m.2) := by
  have hnodup : ((members.map fun m => (m.1.toList, m.2)).map Prod.fst).Nodup := by
    have hkeys : (members.map fun m => (m.1.toList, m.2)).map Prod.fst =
        names.map String.toList := by
      simp [← hm]
    rw [hkeys]
    exact hn.2.map fun _ _ he => String.toList_inj.mp he
  have hfield : ∀ m ∈ members,
      field? (members.map fun m => (m.1.toList, m.2)) m.1.toList = some (some m.2) := by
    intro m hmem
    exact field?_of_mem hnodup (List.mem_map_of_mem hmem)
  apply fields?_of_field? hm hn
  rw [← hm, List.mapM_map]
  exact mapM_eq_some_map hfield

end SnippetReview.Json
