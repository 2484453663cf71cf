import SnippetReview.Editor.Range
import SnippetReview.Proofs.Text.Pieces
import SnippetReview.Proofs.Text.Units

/-!
Documents laid out in rows, and the places in them that an editor means by a line and a column. Rows
end at newlines alone, or at each of the three line ends that the protocol of editors knows.
-/

namespace SnippetReview.Editor

inductive LineEnd where
  | newline
  | carriageReturn
  | both
  deriving DecidableEq, Repr

def LineEnd.text : LineEnd → Text
  | newline => ['\n']
  | carriageReturn => ['\r']
  | both => ['\r', '\n']

structure Row where
  text : Text
  ending : LineEnd
  deriving DecidableEq, Repr

def Row.whole (r : Row) : Text :=
  r.text ++ r.ending.text

structure Layout where
  rows : List Row
  last : Text
  deriving DecidableEq, Repr

namespace Layout

def text (l : Layout) : Text :=
  l.rows.flatMap Row.whole ++ l.last

def below (r : Row) (l : Layout) : Layout :=
  ⟨r :: l.rows, l.last⟩

def newlinesFrom (line : Text) : Text → Layout
  | [] => ⟨[], line.reverse⟩
  | '\n' :: rest => (newlinesFrom [] rest).below ⟨line.reverse, .newline⟩
  | c :: rest => newlinesFrom (c :: line) rest

def ofNewlines (text : Text) : Layout :=
  newlinesFrom [] text

def lineEndsFrom (line : Text) : Text → Layout
  | [] => ⟨[], line.reverse⟩
  | '\r' :: '\n' :: rest => (lineEndsFrom [] rest).below ⟨line.reverse, .both⟩
  | '\r' :: rest => (lineEndsFrom [] rest).below ⟨line.reverse, .carriageReturn⟩
  | '\n' :: rest => (lineEndsFrom [] rest).below ⟨line.reverse, .newline⟩
  | c :: rest => lineEndsFrom (c :: line) rest

def ofLineEnds (text : Text) : Layout :=
  lineEndsFrom [] text

/-! ### Places -/

def line? (l : Layout) (n : Nat) : Option Text :=
  (l.rows.map Row.text ++ [l.last])[n]?

def before (l : Layout) (n : Nat) : Text :=
  (l.rows.take n).flatMap Row.whole

def place? (l : Layout) (line column : Nat) : Option Nat := do
  return (l.before line).length + (← Text.chars? column (← l.line? line))

def offset? (l : Layout) (p : Position) : Option Nat :=
  l.place? p.line.toNat p.character.toNat

/-- The place of a position whose column may be past the end of the line, where it means the end. -/
def nearest? (l : Layout) (p : Position) : Option Nat := do
  let line ← l.line? p.line.toNat
  l.place? p.line.toNat (min p.character.toNat (Text.length16 line))

def selection? (l : Layout) (r : Range) : Option Text := do
  return (l.text.take (← l.offset? r.finish)).drop (← l.offset? r.start)

def replace? (l : Layout) (r : Range) (new : Text) : Option Text := do
  return l.text.take (← l.nearest? r.start) ++ new ++ l.text.drop (← l.nearest? r.finish)

/-! ### Lines and the text around them -/

variable {l : Layout} {n : Nat} {line : Text}

theorem line?_length (l : Layout) : l.line? l.rows.length = some l.last := by
  rw [line?, List.getElem?_append_right (by simp)]
  simp

theorem le_length_of_line? (h : l.line? n = some line) : n ≤ l.rows.length := by
  have hlt := (List.getElem?_eq_some_iff.mp h).1
  simp at hlt
  omega

theorem exists_line? (l : Layout) {n : Nat} (h : n ≤ l.rows.length) :
    ∃ line, l.line? n = some line := by
  have hlt : n < (l.rows.map Row.text ++ [l.last]).length := by
    simp
    omega
  exact ⟨_, List.getElem?_eq_getElem hlt⟩

theorem text_eq_of_line? (h : l.line? n = some line) :
    ∃ after, l.text = l.before n ++ (line ++ after) ∧ (after = [] ↔ n = l.rows.length) := by
  rcases Nat.lt_or_eq_of_le (le_length_of_line? h) with hn | rfl
  · -- The line is that of a row, and at least its end stands behind it.
    have hrow : line = l.rows[n].text := by
      rw [line?, List.getElem?_append_left (by simpa using hn)] at h
      simpa [hn] using h.symm
    refine ⟨l.rows[n].ending.text ++ ((l.rows.drop (n + 1)).flatMap Row.whole ++ l.last), ?_, ?_⟩
    · have hrows : l.rows = l.rows.take n ++ l.rows[n] :: l.rows.drop (n + 1) := by
        rw [← List.drop_eq_getElem_cons hn, List.take_append_drop]
      have hflat : l.rows.flatMap Row.whole =
          l.before n ++ (l.rows[n].whole ++ (l.rows.drop (n + 1)).flatMap Row.whole) := by
        conv_lhs => rw [hrows]
        rw [List.flatMap_append, List.flatMap_cons, before]
      rw [text, hflat, hrow, Row.whole]
      simp
    · have hend : l.rows[n].ending.text ≠ [] := by
        cases l.rows[n].ending <;> exact List.cons_ne_nil _ _
      simp [hend, Nat.ne_of_lt hn]
  · rw [line?_length] at h
    obtain rfl := Option.some.inj h
    exact ⟨[], by simp [text, before], by simp⟩

theorem place?_length16 (h : l.line? n = some line) {shown : Text} (hs : shown <+: line) :
    l.place? n (Text.length16 shown) = some ((l.before n).length + shown.length) := by
  obtain ⟨rest, rfl⟩ := hs
  simp [place?, h, Text.chars?_length16]

theorem place?_zero (h : l.line? n = some line) : l.place? n 0 = some (l.before n).length :=
  place?_length16 h (List.nil_prefix (l := line))

theorem place?_start (l : Layout) : l.place? 0 0 = some 0 := by
  obtain ⟨line, hl⟩ := l.exists_line? (Nat.zero_le _)
  exact place?_zero hl

theorem selection?_of_line? (h : l.line? n = some line) {shown : Text} (hs : shown <+: line)
    {r : Range} (hstart : r.start.line.toNat = n ∧ r.start.character.toNat = 0)
    (hfinish : r.finish.line.toNat = n ∧ r.finish.character.toNat = Text.length16 shown) :
    l.selection? r = some shown := by
  obtain ⟨after, ht, -⟩ := text_eq_of_line? h
  have hs' : l.offset? r.start = some (l.before n).length := by
    rw [offset?, hstart.1, hstart.2, place?_zero h]
  have hf : l.offset? r.finish = some ((l.before n).length + shown.length) := by
    rw [offset?, hfinish.1, hfinish.2, place?_length16 h hs]
  obtain ⟨rest, rfl⟩ := hs
  simp [selection?, hs', hf, ht, List.take_append, List.take_of_length_le]

theorem place?_last (l : Layout) :
    l.place? l.rows.length (Text.length16 l.last) = some l.text.length := by
  rw [place?_length16 (line?_length l) (List.prefix_refl _), text, before, List.take_length,
    List.length_append]

theorem lt_length_of_place? {column k : Nat} (h : l.place? n column = some k)
    (hn : n < l.rows.length) : k < l.text.length := by
  simp only [place?, Option.pure_def, Option.bind_eq_bind, Option.bind_eq_some_iff,
    Option.some.injEq] at h
  obtain ⟨line, hl, found, hf, rfl⟩ := h
  obtain ⟨after, ht, ha⟩ := text_eq_of_line? hl
  -- Only behind the last line there is nothing.
  have hne : 0 < after.length := List.length_pos_iff.mpr (mt ha.mp (Nat.ne_of_lt hn))
  have hle := Text.le_length_of_chars? hf
  rw [ht, List.length_append, List.length_append]
  omega

/-! ### Newlines -/

theorem text_below (r : Row) (l : Layout) : (l.below r).text = r.whole ++ l.text := by
  simp [text, below]

theorem text_newlinesFrom (line text : Text) :
    (newlinesFrom line text).text = line.reverse ++ text := by
  fun_induction newlinesFrom line text with
  | case1 line => rw [List.append_nil]; rfl
  | case2 line rest ih => rw [text_below, ih, Row.whole, LineEnd.text]; simp
  | case3 line c rest _ ih => rw [ih]; simp

theorem text_ofNewlines (text : Text) : (ofNewlines text).text = text :=
  text_newlinesFrom [] text

theorem newlinesFrom_of_not_mem {text : Text} (h : '\n' ∉ text) (line : Text) :
    newlinesFrom line text = ⟨[], line.reverse ++ text⟩ := by
  fun_induction newlinesFrom line text with
  | case1 line => rw [List.append_nil]
  | case2 => exact absurd List.mem_cons_self h
  | case3 line c rest _ ih => rw [ih (List.not_mem_of_not_mem_cons h)]; simp

theorem newlinesFrom_append {first : Text} (h : '\n' ∉ first) (line rest : Text) :
    newlinesFrom line (first ++ '\n' :: rest) =
      (ofNewlines rest).below ⟨line.reverse ++ first, .newline⟩ := by
  induction first generalizing line with
  | nil => simp [newlinesFrom, ofNewlines]
  | cons c first ih =>
    have hc : c ≠ '\n' := Ne.symm (List.ne_of_not_mem_cons h)
    rw [List.cons_append, newlinesFrom, ih (List.not_mem_of_not_mem_cons h)]
    · simp
    · exact hc

theorem line?_of_lines {text : Text} {i : Nat} {line : Text}
    (h : (Text.lines text)[i]? = some line) :
    ∃ whole, (ofNewlines text).line? i = some whole ∧ line <+: whole := by
  induction text using Text.lines_induction generalizing i with
  | last text hn =>
    -- Rules do not look at an empty last line.
    by_cases hne : text = []
    · subst hne
      cases h
    · rw [Text.lines_of_not_mem hn hne] at h
      cases i with
      | zero =>
        cases h
        exact ⟨line, by rw [ofNewlines, newlinesFrom_of_not_mem hn]; rfl, List.prefix_rfl⟩
      | succ => cases h
  | cons first rest hf ih =>
    rw [Text.lines_cons hf] at h
    rw [ofNewlines, newlinesFrom_append hf]
    cases i with
    | zero =>
      cases h
      exact ⟨first, rfl, Text.isPrefix_closeLine first⟩
    | succ i => exact ih h

theorem length_rows_newlinesFrom (line text : Text) :
    (newlinesFrom line text).rows.length = text.count '\n' := by
  fun_induction newlinesFrom line text with
  | case1 => rfl
  | case2 line rest ih => rw [below, List.length_cons, ih, List.count_cons_self]
  | case3 line c rest hc ih => rw [ih, List.count_cons_of_ne hc]

-- The words may wrap around here, and both sides do so alike.
theorem foldl_advance (line text : Text) (n : Nat) :
    text.foldl Position.advance ⟨UInt32.ofNat n, UInt32.ofNat (Text.length16 line)⟩ =
      ⟨UInt32.ofNat (n + (newlinesFrom line text).rows.length),
        UInt32.ofNat (Text.length16 (newlinesFrom line text).last)⟩ := by
  fun_induction newlinesFrom line text generalizing n with
  | case1 line => simp [Text.length16_reverse]
  | case2 line rest ih =>
    have hp : Position.advance ⟨UInt32.ofNat n, UInt32.ofNat (Text.length16 line)⟩ '\n' =
        ⟨UInt32.ofNat (n + 1), UInt32.ofNat (Text.length16 [])⟩ := by
      simp [Position.advance, Text.length16_nil]
    rw [List.foldl_cons, hp, ih]
    simp [below, Nat.add_assoc, Nat.add_comm 1]
  | case3 line c rest hc ih =>
    have hp : Position.advance ⟨UInt32.ofNat n, UInt32.ofNat (Text.length16 line)⟩ c =
        ⟨UInt32.ofNat n, UInt32.ofNat (Text.length16 (c :: line))⟩ := by
      rw [Position.advance, if_neg hc, Text.length16_cons, Nat.add_comm, UInt32.ofNat_add]
    rw [List.foldl_cons, hp, ih]

theorem endOf_eq (text : Text) :
    Position.endOf text = ⟨UInt32.ofNat (ofNewlines text).rows.length,
      UInt32.ofNat (Text.length16 (ofNewlines text).last)⟩ := by
  have h := foldl_advance [] text 0
  rwa [Nat.zero_add] at h

/-! ### All line ends -/

theorem text_lineEndsFrom (line text : Text) :
    (lineEndsFrom line text).text = line.reverse ++ text := by
  fun_induction lineEndsFrom line text with
  | case1 line => rw [List.append_nil]; rfl
  | case5 line c rest _ _ _ ih => rw [ih]; simp
  | _ =>
    rename_i ih
    rw [text_below, ih, Row.whole, LineEnd.text]
    simp

theorem text_ofLineEnds (text : Text) : (ofLineEnds text).text = text :=
  text_lineEndsFrom [] text

-- The lines that end in a carriage return alone come on top of those that end in newlines.
theorem length_rows_lineEndsFrom (line text : Text) :
    (lineEndsFrom line text).rows.length = text.count '\n' +
      (lineEndsFrom line text).rows.countP fun row => row.ending = .carriageReturn := by
  fun_induction lineEndsFrom line text with
  | case1 => rfl
  | case2 line rest ih => simp [below, ih]; omega
  | case3 line rest _ ih => simp [below, ih]; omega
  | case4 line rest ih => simp [below, ih]; omega
  | case5 line c rest _ _ hc ih => rw [ih, List.count_cons_of_ne hc]

theorem last_lineEndsFrom {line text : Text}
    (h : ∀ row ∈ (lineEndsFrom line text).rows, row.ending ≠ .carriageReturn) :
    (lineEndsFrom line text).last = (newlinesFrom line text).last := by
  fun_induction lineEndsFrom line text with
  | case1 => rfl
  | case2 line rest ih =>
    rw [below, List.forall_mem_cons] at h
    exact ih h.2
  | case3 line rest _ ih =>
    rw [below, List.forall_mem_cons] at h
    exact absurd rfl h.1
  | case4 line rest ih =>
    rw [below, List.forall_mem_cons] at h
    exact ih h.2
  | case5 line c rest _ _ hc ih =>
    rw [newlinesFrom]
    · exact ih h
    · exact hc

/-- Some carriage return is not followed by a newline. -/
def HasLoneReturn (text : Text) : Prop :=
  ∃ before after, text = before ++ '\r' :: after ∧ after.head? ≠ some '\n'

theorem not_hasLoneReturn_nil : ¬ HasLoneReturn [] := by
  rintro ⟨before, after, h, -⟩
  simp at h

theorem hasLoneReturn_cons {c : Char} {rest : Text} :
    HasLoneReturn (c :: rest) ↔ (c = '\r' ∧ rest.head? ≠ some '\n') ∨ HasLoneReturn rest := by
  constructor
  · rintro ⟨before, after, h, hn⟩
    cases before with
    | nil =>
      cases h
      exact .inl ⟨rfl, hn⟩
    | cons d before =>
      cases h
      exact .inr ⟨before, after, rfl, hn⟩
  · rintro (⟨rfl, hn⟩ | ⟨before, after, rfl, hn⟩)
    · exact ⟨[], rest, rfl, hn⟩
    · exact ⟨c :: before, after, rfl, hn⟩

theorem hasLoneReturn_iff_lineEndsFrom (line text : Text) :
    HasLoneReturn text ↔
      ∃ row ∈ (lineEndsFrom line text).rows, row.ending = .carriageReturn := by
  fun_induction lineEndsFrom line text with
  | case1 => simp [not_hasLoneReturn_nil]
  | case2 line rest ih => simp [hasLoneReturn_cons, below, ih]
  | case3 line rest hn ih =>
    -- The pattern with a newline behind the carriage return did not match.
    have hhead : rest.head? ≠ some '\n' := by
      intro he
      obtain ⟨rest, rfl⟩ := List.head?_eq_some_iff.mp he
      exact hn rest rfl
    simp [hasLoneReturn_cons, below, hhead]
  | case4 line rest ih => simp [hasLoneReturn_cons, below, ih]
  | case5 line c rest _ hr _ ih =>
    have hc : c ≠ '\r' := hr
    simp [hasLoneReturn_cons, hc, ih]

theorem hasLoneReturn_iff {text : Text} :
    HasLoneReturn text ↔ ∃ row ∈ (ofLineEnds text).rows, row.ending = .carriageReturn :=
  hasLoneReturn_iff_lineEndsFrom [] text

instance (text : Text) : Decidable (HasLoneReturn text) :=
  decidable_of_iff _ hasLoneReturn_iff.symm

theorem last_of_not_hasLoneReturn {text : Text} (h : ¬ HasLoneReturn text) :
    (ofLineEnds text).rows.length = (ofNewlines text).rows.length ∧
      (ofLineEnds text).last = (ofNewlines text).last := by
  have hrows : ∀ row ∈ (lineEndsFrom [] text).rows, row.ending ≠ .carriageReturn :=
    fun row hr he => h (hasLoneReturn_iff.mpr ⟨row, hr, he⟩)
  have hcount :
      (lineEndsFrom [] text).rows.countP (fun row => row.ending = .carriageReturn) = 0 := by
    simpa [List.countP_eq_zero] using hrows
  refine ⟨?_, last_lineEndsFrom hrows⟩
  rw [ofLineEnds, length_rows_lineEndsFrom, hcount, ofNewlines, length_rows_newlinesFrom,
    Nat.add_zero]

theorem length_rows_lt_of_hasLoneReturn {text : Text} (h : HasLoneReturn text) :
    (ofNewlines text).rows.length < (ofLineEnds text).rows.length := by
  obtain ⟨row, hr, he⟩ := hasLoneReturn_iff.mp h
  have hcount : 0 < (lineEndsFrom [] text).rows.countP fun row => row.ending = .carriageReturn :=
    List.countP_pos_iff.mpr ⟨row, hr, by simpa using he⟩
  rw [ofNewlines, length_rows_newlinesFrom, ofLineEnds, length_rows_lineEndsFrom]
  omega

end Layout

end SnippetReview.Editor
