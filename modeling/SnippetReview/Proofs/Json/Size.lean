import SnippetReview.Proofs.Json.Bytes

namespace SnippetReview.Json

/-! ### Decoded strings -/

namespace Quoted

theorem length_of_codesFrom {found : List Nat} {written : Text} {codes : List Nat}
    (h : codesFrom found written = some codes) : codes.length ≤ found.length + written.length := by
  fun_induction codesFrom found written with
  | case1 found =>
    cases h
    simp
  | case2 found a b c d rest n hn ih =>
    have := ih h
    simp only [List.length_cons] at this ⊢
    omega
  | case3 => cases h
  | case4 found c rest hc d hd ih =>
    have := ih h
    simp only [List.length_cons] at this ⊢
    omega
  | case5 => cases h
  | case6 => cases h
  | case7 found c rest _ _ _ ih =>
    have := ih h
    simp only [List.length_cons] at this ⊢
    omega

theorem length_of_joinFrom {found : Text} {codes : List Nat} {text : Text}
    (h : joinFrom found codes = some text) : text.length ≤ found.length + codes.length := by
  fun_induction joinFrom found codes with
  | case1 => cases h; simp
  | case2 => cases h
  | case3 => cases h; simp
  | case4 found n m rest hn hm ih =>
    have := ih h
    simp only [List.length_cons] at this ⊢
    omega
  | case5 => cases h
  | case6 => cases h
  | case7 found n m rest hn hm ih =>
    have := ih h
    simp only [List.length_cons] at this ⊢
    omega

theorem length_of_decode {written text : Text} (h : decode written = some text) :
    text.length ≤ written.length := by
  obtain ⟨codes, hc, hj⟩ := Option.bind_eq_some_iff.mp h
  have hc := length_of_codesFrom hc
  have hj := length_of_joinFrom hj
  simp only [List.length_nil] at hc hj
  omega

end Quoted

/-! ### Strings of values -/

inductive All (P : Text → Prop) : Json → Prop
  | null : All P null
  | bool (b : Bool) : All P (bool b)
  | number (written : Text) : All P (number written)
  | string {written : Text} (h : P written) : All P (string written)
  | array {items : List Json} (h : ∀ item ∈ items, All P item) : All P (array items)
  | object {members : List (Text × Json)} (h : ∀ m ∈ members, All P m.2) : All P (object members)

theorem All.mono {P Q : Text → Prop} {value : Json} (h : value.All P) (hpq : ∀ w, P w → Q w) :
    value.All Q := by
  induction h with
  | null => exact .null
  | bool b => exact .bool b
  | number written => exact .number written
  | string h => exact .string (hpq _ h)
  | array _ ih => exact .array ih
  | object _ ih => exact .object ih

section

variable {P : Text → Prop}

def Token.All (P : Text → Prop) : Token → Prop
  | quoted written => P written
  | scalar value => value.All P
  | _ => True

def Frame.All (P : Text → Prop) : Frame → Prop
  | array items => ∀ item ∈ items, item.All P
  | object members _ => ∀ m ∈ members, m.2.All P

theorem all_cons_member {key : Text} {v : Json} {members : List (Text × Json)} (hv : v.All P)
    (hm : ∀ m ∈ members, m.2.All P) : ∀ m ∈ (key, v) :: members, m.2.All P :=
  List.forall_mem_cons.mpr ⟨hv, hm⟩

def Stage.All (P : Text → Prop) : Stage → Prop
  | value outer => ∀ frame ∈ outer, frame.All P
  | item outer => ∀ frame ∈ outer, frame.All P
  | member outer => ∀ frame ∈ outer, frame.All P
  | key members outer => (∀ m ∈ members, m.2.All P) ∧ ∀ frame ∈ outer, frame.All P
  | colon _ members outer => (∀ m ∈ members, m.2.All P) ∧ ∀ frame ∈ outer, frame.All P
  | done v outer => v.All P ∧ ∀ frame ∈ outer, frame.All P

theorem Stage.all_of_begin? {outer : List Frame} (ho : ∀ frame ∈ outer, frame.All P) {token : Token}
    (ht : token.All P) {next : Stage} (h : begin? outer token = some next) : next.All P := by
  cases token with
  | openBracket =>
    cases h
    exact ho
  | openBrace =>
    cases h
    exact ho
  | scalar v =>
    cases h
    exact ⟨ht, ho⟩
  | quoted written =>
    cases h
    exact ⟨.string ht, ho⟩
  | _ => cases h

theorem Stage.All.next? {stage next : Stage} (hs : stage.All P) {token : Token} (ht : token.All P)
    (h : stage.next? token = some next) : next.All P := by
  unfold Stage.next? at h
  split at h
  · exact all_of_begin? hs ht h
  · cases h
    exact ⟨.array (List.forall_mem_nil _), hs⟩
  · have hempty : (Frame.array []).All P := List.forall_mem_nil _
    exact all_of_begin? (List.forall_mem_cons.mpr ⟨hempty, hs⟩) ht h
  · cases h
    exact ⟨.object (List.forall_mem_nil _), hs⟩
  · cases h
    exact ⟨List.forall_mem_nil _, hs⟩
  · cases h
    exact hs
  · cases h
    exact List.forall_mem_cons.mpr hs
  · cases h
    obtain ⟨hv, hf⟩ := hs
    obtain ⟨hitems, ho⟩ := List.forall_mem_cons.mp hf
    exact List.forall_mem_cons.mpr ⟨List.forall_mem_cons.mpr ⟨hv, hitems⟩, ho⟩
  · cases h
    obtain ⟨hv, hf⟩ := hs
    obtain ⟨hitems, ho⟩ := List.forall_mem_cons.mp hf
    refine ⟨.array fun item hm => ?_, ho⟩
    exact List.forall_mem_cons.mpr ⟨hv, hitems⟩ item (List.mem_reverse.mp hm)
  · cases h
    obtain ⟨hv, hf⟩ := hs
    obtain ⟨hmembers, ho⟩ := List.forall_mem_cons.mp hf
    exact ⟨all_cons_member hv hmembers, ho⟩
  · cases h
    obtain ⟨hv, hf⟩ := hs
    obtain ⟨hmembers, ho⟩ := List.forall_mem_cons.mp hf
    refine ⟨.object fun m hm => ?_, ho⟩
    exact all_cons_member hv hmembers m (List.mem_reverse.mp hm)
  · cases h

theorem all_of_foldlM {tokens : List Token} (ht : ∀ token ∈ tokens, token.All P)
    {stage last : Stage}
    (hs : stage.All P) (h : tokens.foldlM Stage.next? stage = some last) : last.All P := by
  induction tokens generalizing stage with
  | nil =>
    cases h
    exact hs
  | cons token tokens ih =>
    obtain ⟨next, hn, hl⟩ := Option.bind_eq_some_iff.mp h
    obtain ⟨htoken, htokens⟩ := List.forall_mem_cons.mp ht
    exact ih htokens (hs.next? htoken hn) hl

theorem all_of_ofTokens? {tokens : List Token} (ht : ∀ token ∈ tokens, token.All P) {value : Json}
    (h : ofTokens? tokens = some value) : value.All P := by
  obtain ⟨last, hl, hf⟩ := Option.bind_eq_some_iff.mp h
  have hstart : (Stage.value []).All P := List.forall_mem_nil _
  have hlast := all_of_foldlM ht hstart hl
  unfold Stage.finish? at hf
  split at hf
  · cases hf
    exact hlast.1
  · cases hf

end

/-! ### Strings of tokens -/

namespace Token

def Cut.size : Cut → Nat
  | between => 0
  | word chars => chars.length
  | string chars => chars.length
  | escape chars => chars.length
  | code _ chars => chars.length

def Spans (s : Scan) (n : Nat) : Prop :=
  (∀ token ∈ s.1, token.All fun written => written.length ≤ n) ∧ s.2.size ≤ n

theorem All.mono {P Q : Text → Prop} {token : Token} (h : token.All P) (hpq : ∀ w, P w → Q w) :
    token.All Q := by
  cases token with
  | quoted written => exact hpq _ h
  | scalar value => exact Json.All.mono h hpq
  | _ => trivial

theorem all_of_ofWord? {P : Text → Prop} {word : Text} {token : Token}
    (h : ofWord? word = some token) : token.All P := by
  unfold ofWord? at h
  split at h
  · cases h
    exact .null
  split at h
  · cases h
    exact .bool true
  split at h
  · cases h
    exact .bool false
  split at h
  · cases h
    exact .number word
  · cases h

theorem all_of_ofMark? {P : Text → Prop} {c : Char} {token : Token} (h : ofMark? c = some token) :
    token.All P := by
  unfold ofMark? at h
  iterate 6
    split at h
    · cases h
      trivial
  cases h

section

variable {n : Nat} {found : List Token} {c : Char} {s next : Scan}

theorem all_mono_of_le {m : Nat} (hm : m ≤ n)
    (h : ∀ token ∈ found, token.All fun written => written.length ≤ m) :
    ∀ token ∈ found, token.All fun written => written.length ≤ n :=
  fun token ht => (h token ht).mono fun _ hw => Nat.le_trans hw hm

theorem spans_of_begin? (hf : ∀ token ∈ found, token.All fun written => written.length ≤ n)
    (h : begin? found c = some next) : Spans next (n + 1) := by
  have hfound := all_mono_of_le (Nat.le_succ n) hf
  unfold begin? at h
  split at h
  · cases h
    exact ⟨hfound, Nat.zero_le _⟩
  split at h
  · cases h
    exact ⟨hfound, Nat.zero_le _⟩
  split at h
  · cases h
    exact ⟨hfound, Nat.le_add_left 1 n⟩
  · obtain ⟨token, ht, rfl⟩ := Option.map_eq_some_iff.mp h
    exact ⟨List.forall_mem_cons.mpr ⟨all_of_ofMark? ht, hfound⟩, Nat.zero_le _⟩

theorem Spans.next? (hs : Spans s n) (h : Token.next? s c = some next) : Spans next (n + 1) := by
  obtain ⟨hf, hsize⟩ := hs
  have hfound := all_mono_of_le (Nat.le_succ n) hf
  have hgrow : s.2.size + 1 ≤ n + 1 := Nat.succ_le_succ hsize
  unfold Token.next? at h
  split at h
  · exact spans_of_begin? hf h
  · split at h
    · cases h
      exact ⟨hfound, hgrow⟩
    · split at h
      · rename_i ht
        exact spans_of_begin? (List.forall_mem_cons.mpr ⟨all_of_ofWord? ht, hf⟩) h
      · cases h
  · split at h
    · cases h
      refine ⟨List.forall_mem_cons.mpr ⟨?_, hfound⟩, Nat.zero_le _⟩
      exact Nat.le_trans (Nat.le_of_eq List.length_reverse) (Nat.le_succ_of_le hsize)
    split at h
    · cases h
      exact ⟨hfound, hgrow⟩
    split at h
    · cases h
    · cases h
      exact ⟨hfound, hgrow⟩
  · split at h
    · cases h
      exact ⟨hfound, hgrow⟩
    split at h
    · cases h
      exact ⟨hfound, hgrow⟩
    · cases h
  · split at h
    · cases h
    split at h
    · cases h
      exact ⟨hfound, hgrow⟩
    · cases h
      exact ⟨hfound, hgrow⟩

theorem spans_of_foldlM {text : Text} (hs : Spans s n) (h : text.foldlM Token.next? s = some next) :
    Spans next (n + text.length) := by
  -- The bound grows by one with each character.
  induction text generalizing s n with
  | nil =>
    cases h
    exact hs
  | cons c text ih =>
    obtain ⟨step, hn, hl⟩ := Option.bind_eq_some_iff.mp h
    have hlast := ih (hs.next? hn) hl
    rwa [Nat.add_right_comm, Nat.add_assoc] at hlast

theorem all_of_scan? {text : Text} {tokens : List Token} (h : scan? text = some tokens) :
    ∀ token ∈ tokens, token.All fun written => written.length ≤ text.length := by
  obtain ⟨last, hl, hf⟩ := Option.bind_eq_some_iff.mp h
  have hstart : Spans ([], .between) 0 := ⟨List.forall_mem_nil _, Nat.le_refl 0⟩
  obtain ⟨hall, -⟩ := spans_of_foldlM hstart hl
  rw [Nat.zero_add] at hall
  unfold finish? at hf
  split at hf
  · cases hf
    exact fun token ht => hall token (List.mem_reverse.mp ht)
  · obtain ⟨token, ht, rfl⟩ := Option.map_eq_some_iff.mp hf
    have hcons := List.forall_mem_cons.mpr ⟨all_of_ofWord? ht, hall⟩
    exact fun t hm => hcons t (List.mem_reverse.mp hm)
  · cases hf

end

end Token

/-! ### Values in bytes -/

def Quoted.Within (n : Nat) (written : Text) : Prop :=
  ∀ text, decode written = some text → text.length ≤ n

theorem Quoted.within_of_length_le {n : Nat} {written : Text} (h : written.length ≤ n) :
    Within n written :=
  fun _ hd => Nat.le_trans (length_of_decode hd) h

theorem Token.All.ofBytes {n : Nat} {token : Token} (h : token.All fun w => w.length ≤ n) :
    token.ofBytes.All (Quoted.Within n) := by
  cases token with
  | quoted bytes =>
    rw [Token.ofBytes]
    cases hd : Utf8.decode? (bytes.map fun c => UInt8.ofNat c.toNat) with
    | none =>
      -- What stands for bytes that are no text decodes to none, however long they are.
      intro text ht
      cases ht
    | some written =>
      apply Quoted.within_of_length_le
      have hl := Utf8.length_of_decode? hd
      rw [List.length_map] at hl
      exact Nat.le_trans hl h
  | scalar value => exact Json.All.mono h fun _ => Quoted.within_of_length_le
  | _ => trivial

theorem within_of_readBytes? {bytes : List UInt8} {value : Json}
    (h : readBytes? bytes = some value) :
    value.All (Quoted.Within bytes.length) := by
  rw [readBytes?] at h
  split at h
  · rename_i text hd
    obtain ⟨tokens, ht, hv⟩ := Option.bind_eq_some_iff.mp h
    have hall := Token.all_of_scan? ht
    refine all_of_ofTokens? (fun token hm => (hall token hm).mono fun _ hw => ?_) hv
    exact Quoted.within_of_length_le (Nat.le_trans hw (Utf8.length_of_decode? hd))
  · obtain ⟨tokens, ht, hv⟩ := Option.bind_eq_some_iff.mp h
    have hall := Token.all_of_scan? ht
    rw [List.length_map] at hall
    refine all_of_ofTokens? ?_ hv
    rw [List.forall_mem_map]
    exact fun token hm => (hall token hm).ofBytes

theorem length_of_text? {n : Nat} {value : Json} (h : value.All (Quoted.Within n)) {text : Text}
    (ht : value.text? = some text) : text.length ≤ n := by
  cases h with
  | string h => exact h text ht
  | _ => cases ht

/-! ### Fields -/

theorem exists_of_field? {members : List (Text × Json)} {name : Text} {value : Json}
    (h : field? members name = some (some value)) : ∃ m ∈ members, m.2 = value := by
  rw [field?] at h
  split at h
  · cases h
  · rename_i m hm
    cases h
    have hmem : m ∈ members.filter fun m => m.1 = name := by
      rw [hm]
      exact List.mem_singleton.mpr rfl
    exact ⟨m, (List.mem_filter.mp hmem).1, rfl⟩
  · cases h

theorem all_of_someFields? {P : Text → Prop} {names : List String} {needed : Nat} {value : Json}
    (h : value.All P) {fields : List (Option Json)}
    (hf : value.someFields? names needed = some fields) {field : Json}
    (hm : some field ∈ fields) : field.All P := by
  cases h with
  | object h =>
    obtain ⟨decoded, hd, hfields⟩ := Option.bind_eq_some_iff.mp hf
    obtain ⟨name, -, hname⟩ := exists_of_mem_mapM hfields hm
    obtain ⟨m, hmem, rfl⟩ := exists_of_field? hname
    obtain ⟨k, hk, he⟩ := exists_of_mem_mapM hd hmem
    obtain ⟨key, -, rfl⟩ := Option.map_eq_some_iff.mp he
    exact h k hk
  | array h =>
    rw [someFields?] at hf
    split at hf
    · cases hf
      obtain ⟨i, -, hi⟩ := List.mem_map.mp hm
      exact h field (List.mem_of_getElem? hi)
    · cases hf
  | _ => cases hf

end SnippetReview.Json
