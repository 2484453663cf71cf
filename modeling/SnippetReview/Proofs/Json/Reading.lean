import SnippetReview.Json.Reader
import SnippetReview.Proofs.Json.Quoted

/-!
Written values are read back. Values are written and read from left to right, so a value is followed
as it is written after another text: reading goes on from the stage that it has come to there.
-/

namespace SnippetReview.Json

namespace Token

def settle? : Scan → Option (List Token)
  | (found, .between) => some found
  | (found, .word chars) => (ofWord? chars.reverse).map fun token => token :: found
  | _ => none

theorem finish?_eq (s : Scan) : finish? s = (settle? s).map List.reverse := by
  obtain ⟨found, cut⟩ := s
  cases cut with
  | word chars =>
    simp only [finish?, settle?, Option.map_map]
    rfl
  | _ => rfl

theorem next?_of_settle? {s : Scan} {found : List Token} (hs : settle? s = some found) {c : Char}
    (hc : isWordChar c = false) : next? s c = begin? found c := by
  obtain ⟨before, cut⟩ := s
  cases cut with
  | between =>
    obtain rfl := Option.some.inj hs
    rfl
  | word chars =>
    obtain ⟨token, ht, rfl⟩ := Option.map_eq_some_iff.mp hs
    simp [next?, hc, ht]
  | string | escape | code => cases hs

theorem begin?_mark {c : Char} {token : Token} (h : ofMark? c = some token) (found : List Token) :
    isWordChar c = false ∧ begin? found c = some (token :: found, .between) := by
  have hc : isWordChar c = false ∧ isSpace c = false ∧ c ≠ '"' := by
    unfold ofMark? at h
    split_ifs at h with h1 h2 h3 h4 h5 h6
    all_goals
      subst c
      decide
  obtain ⟨hw, hs, hq⟩ := hc
  refine ⟨hw, ?_⟩
  simp [begin?, hs, hq, hw, h]

theorem begin?_word {c : Char} (hc : isWordChar c = true) (found : List Token) :
    begin? found c = some (found, .word [c]) := by
  have hs : isSpace c = false := by
    cases hs : isSpace c with
    | false => rfl
    | true =>
      simp only [isSpace, Bool.or_eq_true, decide_eq_true_eq] at hs
      obtain ((rfl | rfl) | rfl) | rfl := hs <;> exact absurd hc (by decide)
  have hq : c ≠ '"' := by
    rintro rfl
    exact absurd hc (by decide)
  simp [begin?, hs, hq, hc]

theorem foldlM_word {word : Text} (h : word.all isWordChar = true) (found : List Token)
    (chars : Text) :
    word.foldlM next? (found, .word chars) = some (found, .word (word.reverse ++ chars)) := by
  induction word generalizing chars with
  | nil => rfl
  | cons c word ih =>
    obtain ⟨hc, hw⟩ := List.all_cons.symm.trans h |> Bool.and_eq_true_iff.mp
    have hn : next? (found, .word chars) c = some (found, .word (c :: chars)) := by
      simp [next?, hc]
    rw [List.foldlM_cons, hn]
    simpa using ih hw (c :: chars)

end Token

open Token

/-! ### Texts and words that are scanned as a whole -/

def IsQuotable (written : Text) : Prop :=
  ∀ found chars, written.foldlM next? (found, .string chars) =
    some (found, .string (written.reverse ++ chars))

theorem isQuotable_append {s t : Text} (hs : IsQuotable s) (ht : IsQuotable t) :
    IsQuotable (s ++ t) := by
  intro found chars
  rw [List.foldlM_append, hs]
  simpa using ht found (s.reverse ++ chars)

theorem isQuotable_escapeChar (c : Char) : IsQuotable (Quoted.escapeChar c) := by
  intro found chars
  rcases Quoted.escapeChar_cases c with ⟨d, he, hd, hu⟩ | ⟨hc, he⟩ | ⟨hq, hb, hc, he⟩
  · rw [he]
    simp [next?, hd, hu]
  · have hh := Quoted.hexValue?_hexDigit (n := c.toNat / 16) (by omega)
    have hl := Quoted.hexValue?_hexDigit (n := c.toNat % 16) (by omega)
    have h0 : Text.hexValue? '0' = some 0 := by decide
    rw [he]
    simp [next?, hh, hl, h0]
  · rw [he]
    simp [next?, hq, hb, hc]

theorem isQuotable_escape (text : Text) : IsQuotable (Quoted.escape text) := by
  induction text with
  | nil => exact fun _ _ => rfl
  | cons c text ih => exact isQuotable_append (isQuotable_escapeChar c) ih

inductive IsWritten : Json → Prop
  | null : IsWritten null
  | bool (b : Bool) : IsWritten (bool b)
  | number {written : Text} (h : isNumber written = true) (hw : written.all isWordChar = true) :
      IsWritten (number written)
  | string {written : Text} (h : IsQuotable written) : IsWritten (string written)
  | array {items : List Json} (h : ∀ item ∈ items, IsWritten item) : IsWritten (array items)
  | object {members : List (Text × Json)} (hk : ∀ m ∈ members, IsQuotable m.1)
      (hv : ∀ m ∈ members, IsWritten m.2) : IsWritten (object members)

theorem ofWord?_number {written : Text} (h : isNumber written = true) :
    ofWord? written = some (.scalar (number written)) := by
  have hn : ∀ word : Text, isNumber word = false → written ≠ word := by
    rintro word hw rfl
    exact absurd h (by simp [hw])
  unfold ofWord?
  rw [if_neg (hn _ (by decide)), if_neg (hn _ (by decide)), if_neg (hn _ (by decide)), if_pos h]

/-! ### Reading along a text, which is kept backwards -/

def scan (out : Text) : Option Scan :=
  out.reverse.foldlM next? ([], .between)

def parse (found : List Token) : Option Stage :=
  found.reverse.foldlM Stage.next? (.value [])

theorem scan_reverseAux (written out : Text) :
    scan (written.reverseAux out) = (scan out).bind fun s => written.foldlM next? s := by
  simp only [scan, List.reverseAux_eq, List.reverse_append, List.reverse_reverse,
    List.foldlM_append]
  rfl

theorem scan_cons (c : Char) (out : Text) :
    scan (c :: out) = (scan out).bind fun s => next? s c := by
  have h := scan_reverseAux [c] out
  simpa using h

theorem parse_cons (token : Token) (found : List Token) :
    parse (token :: found) = (parse found).bind fun stage => stage.next? token := by
  simp only [parse, List.reverse_cons, List.foldlM_append]
  simp

def At (out : Text) (stage : Stage) : Prop :=
  ∃ found, scan out = some (found, .between) ∧ parse found = some stage

def After (out : Text) (stage : Stage) : Prop :=
  ∃ s found, scan out = some s ∧ settle? s = some found ∧ parse found = some stage

def Stage.Awaits (stage : Stage) (outer : List Frame) : Prop :=
  ∀ token, token ≠ .closeBracket → stage.next? token = Stage.begin? outer token

theorem Stage.awaits_value (outer : List Frame) : (Stage.value outer).Awaits outer :=
  fun _ _ => rfl

theorem Stage.awaits_item (outer : List Frame) :
    (Stage.item outer).Awaits (.array [] :: outer) := by
  intro token ht
  cases token with
  | closeBracket => exact absurd rfl ht
  | _ => rfl

section

variable {out : Text} {stage next : Stage}

theorem At.after (h : At out stage) : After out stage := by
  obtain ⟨found, hs, hp⟩ := h
  exact ⟨(found, .between), found, hs, rfl, hp⟩

theorem After.mark (h : After out stage) {c : Char} {token : Token} (hc : ofMark? c = some token)
    (hn : stage.next? token = some next) : At (c :: out) next := by
  obtain ⟨s, found, hs, hf, hp⟩ := h
  obtain ⟨hw, hb⟩ := begin?_mark hc found
  refine ⟨token :: found, ?_, ?_⟩
  · rw [scan_cons, hs, Option.bind_some, next?_of_settle? hf hw, hb]
  · rw [parse_cons, hp, Option.bind_some, hn]

theorem At.quoted (h : At out stage) {written : Text} (hw : IsQuotable written)
    (hn : stage.next? (.quoted written) = some next) :
    At ('"' :: written.reverseAux ('"' :: out)) next := by
  obtain ⟨found, hs, hp⟩ := h
  have hopen : scan ('"' :: out) = some (found, .string []) := by
    rw [scan_cons, hs]
    rfl
  refine ⟨.quoted written :: found, ?_, ?_⟩
  · rw [scan_cons, scan_reverseAux, hopen, Option.bind_some, hw]
    simp [next?]
  · rw [parse_cons, hp, Option.bind_some, hn]

theorem At.scalar (h : At out stage) {outer : List Frame} (ha : stage.Awaits outer) {word : Text}
    {value : Json} (hne : word ≠ []) (hw : word.all isWordChar = true)
    (ht : ofWord? word = some (.scalar value)) :
    After (word.reverseAux out) (.done value outer) := by
  obtain ⟨found, hs, hp⟩ := h
  obtain ⟨c, rest, rfl⟩ := List.exists_cons_of_ne_nil hne
  obtain ⟨hc, hr⟩ := List.all_cons.symm.trans hw |> Bool.and_eq_true_iff.mp
  have hscan : scan ((c :: rest).reverseAux out) =
      some (found, .word (rest.reverse ++ [c])) := by
    have hb : next? (found, .between) c = some (found, .word [c]) := begin?_word hc found
    rw [scan_reverseAux, hs, Option.bind_some, List.foldlM_cons, hb]
    exact foldlM_word hr found [c]
  refine ⟨_, .scalar value :: found, hscan, ?_, ?_⟩
  · simp [settle?, ht]
  · rw [parse_cons, hp, Option.bind_some, ha (.scalar value) nofun]
    rfl

end

/-! ### Values -/

def ReadsBack (value : Json) : Prop :=
  ∀ out stage outer, At out stage → stage.Awaits outer →
    After (writeAfter out value) (.done value outer)

theorem readsBack_items {items : List Json} (h : ∀ item ∈ items, ReadsBack item) {out : Text}
    {value : Json} {done : List Json} {outer : List Frame}
    (ha : After out (.done value (.array done :: outer))) :
    At (']' :: writeItems out items) (.done (.array ((value :: done).reverse ++ items)) outer) := by
  -- The frame grows by one item at each comma, so it is general.
  induction items generalizing out value done with
  | nil =>
    rw [writeItems, List.append_nil]
    exact ha.mark rfl rfl
  | cons item items ih =>
    have hcomma : At (',' :: out) (.value (.array (value :: done) :: outer)) := ha.mark rfl rfl
    have hitem := h item List.mem_cons_self _ _ _ hcomma (Stage.awaits_value _)
    have hrest := ih (fun j hj => h j (List.mem_cons_of_mem _ hj)) hitem
    rw [writeItems]
    simpa using hrest

theorem readsBack_members {members : List (Text × Json)} (hk : ∀ m ∈ members, IsQuotable m.1)
    (hv : ∀ m ∈ members, ReadsBack m.2) {out : Text} {value : Json} {key : Text}
    {done : List (Text × Json)} {outer : List Frame}
    (ha : After out (.done value (.object done key :: outer))) :
    At ('\x7d' :: writeMembers out members)
      (.done (.object (((key, value) :: done).reverse ++ members)) outer) := by
  induction members generalizing out value key done with
  | nil =>
    rw [writeMembers, List.append_nil]
    exact ha.mark rfl rfl
  | cons m members ih =>
    obtain ⟨k, v⟩ := m
    have hcomma : At (',' :: out) (.key ((key, value) :: done) outer) := ha.mark rfl rfl
    have hname := hcomma.quoted (hk (k, v) List.mem_cons_self) rfl
    have hcolon : At (':' :: '"' :: k.reverseAux ('"' :: ',' :: out))
        (.value (.object ((key, value) :: done) k :: outer)) := hname.after.mark rfl rfl
    have hvalue := hv (k, v) List.mem_cons_self _ _ _ hcolon (Stage.awaits_value _)
    have hrest := ih (fun m hm => hk m (List.mem_cons_of_mem _ hm))
      (fun m hm => hv m (List.mem_cons_of_mem _ hm)) hvalue
    rw [writeMembers]
    simpa using hrest

theorem IsWritten.readsBack {value : Json} (h : IsWritten value) : ReadsBack value := by
  induction h with
  | null =>
    intro out stage outer hat haw
    exact hat.scalar haw (by decide) (by decide) rfl
  | bool b =>
    intro out stage outer hat haw
    cases b
    · exact hat.scalar haw (by decide) (by decide) rfl
    · exact hat.scalar haw (by decide) (by decide) rfl
  | @number written h hw =>
    intro out stage outer hat haw
    have hne : written ≠ [] := by
      rintro rfl
      cases h
    exact hat.scalar haw hne hw (ofWord?_number h)
  | @string written h =>
    intro out stage outer hat haw
    exact (hat.quoted h (haw (.quoted written) nofun)).after
  | @array items h ih =>
    intro out stage outer hat haw
    have hopen : At ('[' :: out) (.item outer) := hat.after.mark rfl (haw _ nofun)
    cases items with
    | nil => exact (hopen.after.mark rfl rfl).after
    | cons item items =>
      have hitem := ih item List.mem_cons_self _ _ _ hopen (Stage.awaits_item outer)
      exact (readsBack_items (fun j hj => ih j (List.mem_cons_of_mem _ hj)) hitem).after
  | @object members hk hv ih =>
    intro out stage outer hat haw
    have hopen : At ('\x7b' :: out) (.member outer) := hat.after.mark rfl (haw _ nofun)
    cases members with
    | nil => exact (hopen.after.mark rfl rfl).after
    | cons m members =>
      obtain ⟨k, v⟩ := m
      have hname := hopen.quoted (hk (k, v) List.mem_cons_self) rfl
      have hcolon : At (':' :: '"' :: k.reverseAux ('"' :: '\x7b' :: out))
          (.value (.object [] k :: outer)) := hname.after.mark rfl rfl
      have hvalue := ih (k, v) List.mem_cons_self _ _ _ hcolon (Stage.awaits_value _)
      exact (readsBack_members (fun m hm => hk m (List.mem_cons_of_mem _ hm))
        (fun m hm => ih m (List.mem_cons_of_mem _ hm)) hvalue).after

theorem read?_write {value : Json} (h : IsWritten value) : read? value.write = some value := by
  have hat : At [] (.value []) := ⟨[], rfl, rfl⟩
  obtain ⟨s, found, hs, hf, hp⟩ := h.readsBack [] _ _ hat (Stage.awaits_value [])
  have hscan : Token.scan? value.write = some found.reverse := by
    have hs' : value.write.foldlM next? ([], .between) = some s := hs
    rw [Token.scan?, hs', Option.bind_some, finish?_eq, hf, Option.map_some]
  have hp' : found.reverse.foldlM Stage.next? (.value []) = some (.done value []) := hp
  rw [read?, hscan, Option.bind_some, ofTokens?, hp']
  rfl

/-! ### The ends of a written object -/

theorem suffix_reverseAux (written out : Text) : out <:+ written.reverseAux out := by
  rw [List.reverseAux_eq]
  exact List.suffix_append _ _

theorem suffix_writeItems {items : List Json}
    (h : ∀ item ∈ items, ∀ out, out <:+ writeAfter out item)
    (out : Text) : out <:+ writeItems out items := by
  induction items generalizing out with
  | nil => exact List.suffix_rfl
  | cons item items ih =>
    rw [writeItems]
    apply List.IsSuffix.trans ?_ (ih (fun j hj => h j (List.mem_cons_of_mem _ hj)) _)
    exact (List.suffix_cons ',' out).trans (h item List.mem_cons_self _)

theorem suffix_key (mark : Char) (key out : Text) :
    mark :: out <:+ ':' :: '"' :: key.reverseAux ('"' :: mark :: out) := by
  have hname := (List.suffix_cons '"' (mark :: out)).trans (suffix_reverseAux key _)
  exact hname.trans ((List.suffix_cons _ _).trans (List.suffix_cons _ _))

theorem suffix_writeMembers {members : List (Text × Json)}
    (h : ∀ m ∈ members, ∀ out, out <:+ writeAfter out m.2) (out : Text) :
    out <:+ writeMembers out members := by
  induction members generalizing out with
  | nil => exact List.suffix_rfl
  | cons m members ih =>
    rw [writeMembers]
    apply List.IsSuffix.trans ?_ (ih (fun m hm => h m (List.mem_cons_of_mem _ hm)) _)
    apply List.IsSuffix.trans ?_ (h m List.mem_cons_self _)
    exact (List.suffix_cons ',' out).trans (suffix_key ',' m.1 out)

theorem writeAfter_array {items : List Json}
    (h : ∀ item ∈ items, ∀ out, out <:+ writeAfter out item)
    (out : Text) : ∃ rest, writeAfter out (array items) = ']' :: rest ∧ '[' :: out <:+ rest := by
  cases items with
  | nil => exact ⟨_, rfl, List.suffix_rfl⟩
  | cons item items =>
    refine ⟨_, rfl, ?_⟩
    apply (h item List.mem_cons_self ('[' :: out)).trans
    exact suffix_writeItems (fun j hj => h j (List.mem_cons_of_mem _ hj)) _

theorem writeAfter_object {members : List (Text × Json)}
    (h : ∀ m ∈ members, ∀ out, out <:+ writeAfter out m.2) (out : Text) :
    ∃ rest, writeAfter out (object members) = '\x7d' :: rest ∧ '\x7b' :: out <:+ rest := by
  cases members with
  | nil => exact ⟨_, rfl, List.suffix_rfl⟩
  | cons m members =>
    refine ⟨_, rfl, ?_⟩
    apply (suffix_key '\x7b' m.1 out).trans
    apply (h m List.mem_cons_self _).trans
    exact suffix_writeMembers (fun m hm => h m (List.mem_cons_of_mem _ hm)) _

theorem IsWritten.suffix_writeAfter {value : Json} (h : IsWritten value) (out : Text) :
    out <:+ writeAfter out value := by
  induction h generalizing out with
  | null => exact suffix_reverseAux _ _
  | bool b => cases b <;> exact suffix_reverseAux _ _
  | number => exact suffix_reverseAux _ _
  | string =>
    rw [writeAfter]
    exact ((List.suffix_cons '"' out).trans (suffix_reverseAux _ _)).trans (List.suffix_cons _ _)
  | array h ih =>
    obtain ⟨rest, he, hs⟩ := writeAfter_array ih out
    rw [he]
    exact ((List.suffix_cons _ _).trans hs).trans (List.suffix_cons _ _)
  | object hk hv ih =>
    obtain ⟨rest, he, hs⟩ := writeAfter_object ih out
    rw [he]
    exact ((List.suffix_cons _ _).trans hs).trans (List.suffix_cons _ _)

theorem write_object {members : List (Text × Json)} (h : IsWritten (object members)) :
    ∃ inner, (object members).write = '\x7b' :: (inner ++ ['\x7d']) := by
  cases h with
  | object hk hv =>
    obtain ⟨rest, he, before, hs⟩ := writeAfter_object (fun m hm => (hv m hm).suffix_writeAfter) []
    exact ⟨before.reverse, by simp [write, he, ← hs]⟩

end SnippetReview.Json
