import SnippetReview.Pattern.Property
import SnippetReview.Pattern.Regex

namespace SnippetReview.Pattern

inductive Fault where
  | unclosedGroup
  | unopenedGroup
  | unclosedClass
  | badRange
  | missingOperand
  | badRepetition
  | badEscape
  | unknownProperty
  | badFlags
  | badGroupName
  | lookaround
  | partialCharacter
  | tooDeep
  | tooLarge
  deriving DecidableEq, Repr

structure Flags where
  anyCase : Bool := false
  multiLine : Bool := false
  dotAll : Bool := false
  swapGreed : Bool := false
  unicode : Bool := true
  anyLineEnd : Bool := false
  spaced : Bool := false
  deriving DecidableEq, Repr

namespace Reader

def dropComment : Text → Text
  | [] => []
  | c :: rest => if c == '\n' then rest else dropComment rest

def dropSpace : Nat → Text → Text
  | 0, text => text
  | fuel + 1, text =>
    match text with
    | [] => []
    | c :: rest =>
      if Text.isBlank c then dropSpace fuel rest
      else if c == '#' then dropSpace fuel (dropComment rest)
      else text

def skip (flags : Flags) (text : Text) : Text :=
  if flags.spaced then dropSpace text.length text else text

inductive Atom where
  /-- A character; `byte` if it was written with two hexadecimal digits. -/
  | char (c : Char) (byte : Bool)
  | cls (s : CharClass)
  | look (a : Assertion)

def isHexDigit (c : Char) : Bool :=
  c.isDigit || ('a' ≤ c && c ≤ 'f') || ('A' ≤ c && c ≤ 'F')

def hexDigitValue (c : Char) : Nat :=
  if c.isDigit then c.toNat - '0'.toNat
  else if 'a' ≤ c && c ≤ 'f' then c.toNat - 'a'.toNat + 10
  else c.toNat - 'A'.toNat + 10

def hexValue (digits : Text) : Nat :=
  digits.foldl (fun n c => n * 16 + hexDigitValue c) 0

def charOfCode? (n : Nat) : Option Char :=
  if h : n.isValidChar then some (Char.ofNatAux n h) else none

def fixedHex (flags : Flags) : Nat → Text → Text → Except Fault (Char × Text)
  | 0, digits, rest =>
    match charOfCode? (hexValue digits.reverse) with
    | some c => .ok (c, rest)
    | none => .error .badEscape
  | count + 1, digits, text =>
    match text with
    | [] => .error .badEscape
    | c :: rest =>
      if isHexDigit c then fixedHex flags count (c :: digits) (skip flags rest)
      else .error .badEscape

def bracedHex (flags : Flags) : Nat → Text → Text → Except Fault (Char × Text)
  | 0, _, _ => .error .badEscape
  | fuel + 1, digits, text =>
    match skip flags text with
    | [] => .error .badEscape
    | c :: rest =>
      if c == '\x7d' then
        if digits.isEmpty then .error .badEscape
        else
          match charOfCode? (hexValue digits.reverse) with
          | some c => .ok (c, skip flags rest)
          | none => .error .badEscape
      else if isHexDigit c then bracedHex flags fuel (c :: digits) rest
      else .error .badEscape

def braced (flags : Flags) : Nat → Text → Text → Except Fault (Text × Text)
  | 0, _, _ => .error .badEscape
  | fuel + 1, name, text =>
    match skip flags text with
    | [] => .error .badEscape
    | c :: rest =>
      if c == '\x7d' then .ok (name.reverse, rest) else braced flags fuel (c :: name) rest

def cutAt? (separator : Text) : Text → Text → Option (Text × Text)
  | _, [] => none
  | before, c :: rest =>
    if separator.isPrefixOf (c :: rest) then
      some (before.reverse, (c :: rest).drop separator.length)
    else cutAt? separator (c :: before) rest

def propertyClass? (name : Text) : Option CharClass :=
  match cutAt? ['!', '='] [] name with
  | some (property, value) => (Property.valued? property value).map .compl
  | none =>
    match cutAt? [':'] [] name with
    | some (property, value) => Property.valued? property value
    | none =>
      match cutAt? ['='] [] name with
      | some (property, value) => Property.valued? property value
      | none => Property.named? name

def fold (flags : Flags) (s : CharClass) : CharClass :=
  if flags.anyCase then (if flags.unicode then .anyCase s else .anyAsciiCase s) else s

def checked (flags : Flags) (s : CharClass) : Except Fault CharClass :=
  if flags.unicode || s.isAscii then .ok s else .error .partialCharacter

def signed (flags : Flags) (negated : Bool) (s : CharClass) : Except Fault CharClass :=
  checked flags (if negated then .compl s else s)

def perlClass (flags : Flags) (c : Char) : CharClass :=
  if c == 'd' then (if flags.unicode then .digit else .asciiDigit)
  else if c == 's' then (if flags.unicode then .blank else .asciiBlank)
  else (if flags.unicode then .word else .asciiWord)

def propertyEscape (flags : Flags) (negated : Bool) (text : Text) : Except Fault (Atom × Text) := do
  let (found, rest) ←
    match skip flags text with
    | [] => throw .badEscape
    | c :: rest =>
      if c == '\x7b' then do
        let (name, rest) ← braced flags (rest.length + 1) [] rest
        pure (propertyClass? name, rest)
      else if c == '\\' then throw .unknownProperty
      else pure (Property.named? [c], skip flags rest)
  if !flags.unicode then throw .partialCharacter
  match found with
  | none => throw .unknownProperty
  | some s =>
    let s := fold flags s
    pure (.cls (if negated then .compl s else s), rest)

def isMeta (c : Char) : Bool :=
  "\\.+*?()|[]\x7b\x7d^$#&-~".toList.contains c

def isEscapable (c : Char) : Bool :=
  isMeta c || (c.toNat < 0x80 && !c.isAlphanum && c != '<' && c != '>')

def isEdgeNameChar (c : Char) : Bool :=
  c.isAlpha || c == '-'

def edgeName (flags : Flags) : Nat → Text → Text → Text × Text
  | 0, name, text => (name.reverse, text)
  | fuel + 1, name, text =>
    match text with
    | c :: rest =>
      if isEdgeNameChar c then edgeName flags fuel (c :: name) (skip flags rest)
      else (name.reverse, text)
    | [] => (name.reverse, [])

def edgeOfName? (name : String) : Option WordEdge :=
  if name == "start" then some .start
  else if name == "end" then some .finish
  else if name == "start-half" then some .halfStart
  else if name == "end-half" then some .halfFinish
  else none

def wordEdge (flags : Flags) (text : Text) : Except Fault (Atom × Text) :=
  let plain : Except Fault (Atom × Text) := .ok (.look (.word .boundary (!flags.unicode)), text)
  match text with
  | c :: rest =>
    if c == '\x7b' then
      match skip flags rest with
      | [] => .error .badEscape
      | d :: more =>
        if isEdgeNameChar d then
          match edgeName flags (more.length + 1) [] (d :: more) with
          | (name, e :: rest) =>
            if e == '\x7d' then
              match edgeOfName? (String.ofList name) with
              | some edge => .ok (.look (.word edge (!flags.unicode)), rest)
              | none => .error .badEscape
            else .error .badEscape
          | (_, []) => .error .badEscape
        else plain
    else plain
  | [] => plain

def controlOf? (c : Char) : Option Char :=
  if c == 'a' then some '\x07'
  else if c == 'f' then some '\x0c'
  else if c == 't' then some '\t'
  else if c == 'n' then some '\n'
  else if c == 'r' then some '\r'
  else if c == 'v' then some '\x0b'
  else none

def hexEscape (flags : Flags) (kind : Char) (text : Text) : Except Fault (Atom × Text) :=
  match skip flags text with
  | [] => .error .badEscape
  | c :: rest =>
    if c == '\x7b' then
      (bracedHex flags (rest.length + 1) [] rest).map fun (c, rest) => (.char c false, rest)
    else
      let count := if kind == 'x' then 2 else if kind == 'u' then 4 else 8
      (fixedHex flags count [] (c :: rest)).map fun (c, rest) => (.char c (kind == 'x'), rest)

def escape (flags : Flags) : Text → Except Fault (Atom × Text)
  | [] => .error .badEscape
  | c :: rest =>
    let ascii := !flags.unicode
    if c == 'x' || c == 'u' || c == 'U' then hexEscape flags c rest
    else if c == 'p' then propertyEscape flags false rest
    else if c == 'P' then propertyEscape flags true rest
    else if c == 'd' || c == 's' || c == 'w' then .ok (.cls (perlClass flags c), rest)
    else if c == 'D' || c == 'S' || c == 'W' then
      (signed flags true (perlClass flags c.toLower)).map fun s => (.cls s, rest)
    else if isEscapable c then .ok (.char c false, rest)
    else if c == 'A' then .ok (.look .textStart, rest)
    else if c == 'z' then .ok (.look .textEnd, rest)
    else if c == 'b' then wordEdge flags rest
    else if c == 'B' then .ok (.look (.word .inside ascii), rest)
    else if c == '<' then .ok (.look (.word .start ascii), rest)
    else if c == '>' then .ok (.look (.word .finish ascii), rest)
    else
      match controlOf? c with
      | some d => .ok (.char d false, rest)
      | none => .error .badEscape

def checkChar (flags : Flags) (c : Char) (byte : Bool) : Except Fault Char :=
  if !flags.unicode && byte && 0x80 ≤ c.toNat then .error .partialCharacter else .ok c

def memberChar (flags : Flags) (c : Char) : Except Fault Char :=
  if !flags.unicode && 0x80 ≤ c.toNat then .error .partialCharacter else .ok c

def charRegex (flags : Flags) (c : Char) : Regex :=
  if !flags.anyCase then .chars (.single c)
  else if flags.unicode then
    .chars (if (Unicode.caseVariants c).length = 1 then .single c else .anyCase (.single c))
  else .chars (if c.isAlpha then .anyAsciiCase (.single c) else .single c)

/-! ### Bracketed classes -/

abbrev Sized := CharClass × Nat

def unionItems : List Sized → Sized
  | [] => (.never, 0)
  | [item] => item
  | items =>
    let items := items.reverse
    (items.foldr (fun item s => .union item.1 s) .never,
      1 + items.foldl (fun n item => max n item.2) 0)

inductive ClassOp where
  | inter
  | diff
  | symmDiff

abbrev ClassOperand := Option (ClassOp × Sized)

def closeOperand (flags : Flags) (left : ClassOperand) (items : List Sized) : Sized :=
  let right := unionItems items
  match left with
  | none => right
  | some (op, left) =>
    let s := fold flags left.1
    let t := fold flags right.1
    let joined :=
      match op with
      | .inter => .inter s t
      | .diff => .diff s t
      | .symmDiff => .symmDiff s t
    (joined, 1 + max left.2 right.2)

def closeClass (flags : Flags) (negated : Bool) (s : Sized) : Except Fault Sized := do
  let s' ← signed flags negated (fold flags s.1)
  pure (s', 1 + s.2)

def ranges (pairs : List (Char × Char)) : CharClass :=
  pairs.foldr (fun p s => .union (.range p.1 p.2) s) .never

def asciiClass? (name : String) : Option CharClass :=
  if name == "alnum" then some (ranges [('0', '9'), ('A', 'Z'), ('a', 'z')])
  else if name == "alpha" then some (ranges [('A', 'Z'), ('a', 'z')])
  else if name == "ascii" then some (ranges [('\x00', '\x7f')])
  else if name == "blank" then some (ranges [('\t', '\t'), (' ', ' ')])
  else if name == "cntrl" then some (ranges [('\x00', '\x1f'), ('\x7f', '\x7f')])
  else if name == "digit" then some (ranges [('0', '9')])
  else if name == "graph" then some (ranges [('!', '~')])
  else if name == "lower" then some (ranges [('a', 'z')])
  else if name == "print" then some (ranges [(' ', '~')])
  else if name == "punct" then some (ranges [('!', '/'), (':', '@'), ('[', '\x60'), ('\x7b', '~')])
  else if name == "space" then some (ranges [('\t', '\r'), (' ', ' ')])
  else if name == "upper" then some (ranges [('A', 'Z')])
  else if name == "word" then some (ranges [('0', '9'), ('A', 'Z'), ('_', '_'), ('a', 'z')])
  else if name == "xdigit" then some (ranges [('0', '9'), ('A', 'F'), ('a', 'f')])
  else none

def namedClass? (text : Text) : Option (Bool × CharClass × Text) :=
  match text with
  | ':' :: rest =>
    let (negated, rest) :=
      match rest with
      | '^' :: rest => (true, rest)
      | _ => (false, rest)
    let name := rest.takeWhile (· != ':')
    match rest.drop name.length with
    | ':' :: ']' :: after =>
      (asciiClass? (String.ofList name)).map fun s => (negated, s, after)
    | _ => none
  | _ => none

def openClass (flags : Flags) (text : Text) : Except Fault (Bool × List Sized × Text) :=
  let text := skip flags text
  let (negated, text) :=
    match text with
    | '^' :: rest => (true, skip flags rest)
    | _ => (false, text)
  let rec hyphens (items : List Sized) : Nat → Text → List Sized × Text
    | 0, text => (items, text)
    | fuel + 1, text =>
      match text with
      | '-' :: rest => hyphens ((.single '-', 0) :: items) fuel (skip flags rest)
      | _ => (items, text)
  let (items, text) := hyphens [] text.length text
  match text with
  | [] => .error .unclosedClass
  | ']' :: rest =>
    if items.isEmpty then
      match skip flags rest with
      | [] => .error .unclosedClass
      | text => .ok (negated, [(.single ']', 0)], text)
    else .ok (negated, items, text)
  | _ => .ok (negated, items, text)

def classAtom (flags : Flags) : Text → Except Fault (Atom × Text)
  | [] => .error .unclosedClass
  | '\\' :: rest => escape flags rest
  | c :: rest => .ok (.char c false, rest)

def atomChar (flags : Flags) : Atom → Except Fault Char
  | .char c byte => do memberChar flags (← checkChar flags c byte)
  | _ => .error .badRange

def atomClass (flags : Flags) : Atom → Except Fault CharClass
  | .char c byte => do return .single (← memberChar flags (← checkChar flags c byte))
  | .cls s => .ok s
  | .look _ => .error .badEscape

def classItem (flags : Flags) (text : Text) : Except Fault (Sized × Text) := do
  let (first, rest) ← classAtom flags text
  match skip flags rest with
  | [] => throw .unclosedClass
  | '-' :: more =>
    match skip flags more with
    | [] => throw .unclosedClass
    | d :: after =>
      if d == ']' || d == '-' then pure ((← atomClass flags first, 0), '-' :: more)
      else do
        let (last, rest) ← classAtom flags (d :: after)
        let lo ← atomChar flags first
        let hi ← atomChar flags last
        if lo ≤ hi then pure ((.range lo hi, 0), rest) else throw .badRange
  | rest => pure ((← atomClass flags first, 0), rest)

def classRest (flags : Flags) :
    Nat → Bool → ClassOperand → List Sized → Text → Except Fault (Sized × Text)
  | 0, _, _, _, _ => .error .unclosedClass
  | fuel + 1, negated, left, items, text =>
    match skip flags text with
    | [] => .error .unclosedClass
    | ']' :: rest => do
      pure (← closeClass flags negated (closeOperand flags left items), rest)
    | '[' :: rest =>
      match namedClass? rest with
      | some (negative, s, rest) => do
        let s ← signed flags negative (fold flags s)
        classRest flags fuel negated left ((s, 0) :: items) rest
      | none => do
        let (negative, first, rest) ← openClass flags rest
        let (inner, rest) ← classRest flags fuel negative none first rest
        classRest flags fuel negated left (inner :: items) rest
    | '&' :: '&' :: rest =>
      classRest flags fuel negated (some (.inter, closeOperand flags left items)) [] rest
    | '-' :: '-' :: rest =>
      classRest flags fuel negated (some (.diff, closeOperand flags left items)) [] rest
    | '~' :: '~' :: rest =>
      classRest flags fuel negated (some (.symmDiff, closeOperand flags left items)) [] rest
    | text => do
      let (item, rest) ← classItem flags text
      classRest flags fuel negated left (item :: items) rest

def bracketed (flags : Flags) (text : Text) : Except Fault (Sized × Text) := do
  let (negated, items, rest) ← openClass flags text
  classRest flags (rest.length + 1) negated none items rest

/-! ### Flags and group names -/

def setFlag (flags : Flags) (on : Bool) (c : Char) : Option Flags :=
  if c == 'i' then some { flags with anyCase := on }
  else if c == 'm' then some { flags with multiLine := on }
  else if c == 's' then some { flags with dotAll := on }
  else if c == 'U' then some { flags with swapGreed := on }
  else if c == 'u' then some { flags with unicode := on }
  else if c == 'R' then some { flags with anyLineEnd := on }
  else if c == 'x' then some { flags with spaced := on }
  else none

def readFlags : Flags → Text → Text → Except Fault (Flags × Text × Text)
  | _, _, [] => .error .badFlags
  | flags, seen, c :: rest =>
    if c == ':' || c == ')' then
      if seen.head? == some '-' then .error .badFlags else .ok (flags, seen, c :: rest)
    else if seen.contains c then .error .badFlags
    else if c == '-' then readFlags flags ('-' :: seen) rest
    else
      match setFlag flags (!seen.contains '-') c with
      | some flags => readFlags flags (c :: seen) rest
      | none => .error .badFlags

def isNameStart (c : Char) : Bool :=
  c == '_' || Unicode.alphabetic.contains c

def isNameChar (c : Char) : Bool :=
  isNameStart c || c == '.' || c == '[' || c == ']' ||
    Property.numbers.any (Unicode.Ranges.contains · c)

def groupName (text : Text) : Except Fault (Text × Text) :=
  let name := text.takeWhile (· != '>')
  match name, text.drop name.length with
  | c :: more, '>' :: rest =>
    if isNameStart c && more.all isNameChar then .ok (name, rest) else .error .badGroupName
  | _, _ => .error .badGroupName

/-! ### Repetitions -/

structure Count where
  least : Nat
  most : Option Nat

def decimal (flags : Flags) (text : Text) : Option Nat × Text :=
  let rec digits (found : Text) : Nat → Text → Text × Text
    | 0, text => (found.reverse, text)
    | fuel + 1, text =>
      match text with
      | c :: rest =>
        if c.isDigit then digits (c :: found) fuel (skip flags rest) else (found.reverse, text)
      | [] => (found.reverse, [])
  let text := Text.trimLeft text
  let (found, rest) := digits [] text.length text
  let n := found.foldl (fun n c => n * 10 + (c.toNat - '0'.toNat)) 0
  (if found.isEmpty || UInt32.size ≤ n then none else some n, skip flags (Text.trimLeft rest))

def braceCount (flags : Flags) (text : Text) : Except Fault (Count × Text) :=
  match decimal flags (skip flags text) with
  | (some least, '\x7d' :: rest) => .ok (⟨least, some least⟩, skip flags rest)
  | (some least, ',' :: rest) =>
    match skip flags rest with
    | '\x7d' :: rest => .ok (⟨least, none⟩, skip flags rest)
    | rest =>
      match decimal flags rest with
      | (some most, '\x7d' :: rest) =>
        if least ≤ most then .ok (⟨least, some most⟩, skip flags rest) else .error .badRepetition
      | _ => .error .badRepetition
  | _ => .error .badRepetition

def repeated (r : Regex) (count : Count) (greedy : Bool) : Regex :=
  match count.most with
  | none =>
    match r with
    | .chars s => .run s count.least greedy
    | _ =>
      if count.least = 0 then .star r greedy
      else if count.least = 1 then .seq r (.star r greedy)
      else .seq (.copies r count.least) (.star r greedy)
  | some most =>
    if most = count.least then .copies r most
    else if count.least = 0 then .upTo r most greedy
    else .seq (.copies r count.least) (.upTo r (most - count.least) greedy)

/-! ### Groups and alternatives -/

inductive Piece where
  | setting
  | expr (r : Regex) (depth : Nat)

structure Level where
  pieces : List Piece := []
  branches : List (Regex × Nat) := []

def Piece.regex : Piece → Regex
  | setting => .empty
  | expr r _ => r

def Piece.depth : Piece → Nat
  | setting => 0
  | expr _ n => n

def joinPieces : List Piece → Regex × Nat
  | [] => (.empty, 0)
  | [p] => (p.regex, p.depth)
  | last :: before =>
    (before.foldl (fun r p => match p with
      | .setting => r
      | .expr q _ => .seq q r) last.regex,
      1 + (last :: before).foldl (fun n p => max n p.depth) 0)

def either : Regex → Regex → Regex
  | .chars s, .chars t => .chars (.union s t)
  | r, q => .alt r q

def Level.close (level : Level) : Regex × Nat :=
  let last := joinPieces level.pieces
  match level.branches with
  | [] => last
  | branches =>
    (branches.foldl (fun r b => either b.1 r) last.1,
      1 + branches.foldl (fun n b => max n b.2) last.2)

/-- A pattern being read: the group at hand, the groups around it with the flags to come back to,
and the group names in use. -/
structure State where
  flags : Flags := {}
  level : Level := {}
  outer : List (Flags × Level) := []
  names : List Text := []

def State.push (state : State) (piece : Piece) : State :=
  { state with level := { state.level with pieces := piece :: state.level.pieces } }

def State.pushRegex (state : State) (r : Regex) : State :=
  state.push (.expr r 0)

def State.repeatLast (state : State) (count : Count) (greedy : Bool) : Except Fault State :=
  match state.level.pieces with
  | .expr r depth :: pieces =>
    .ok { state with
      level := { state.level with
        pieces := .expr (repeated r count (greedy != state.flags.swapGreed)) (depth + 1)
          :: pieces } }
  | _ => .error .missingOperand

def State.open (state : State) (flags : Flags) : State :=
  { state with flags := flags, level := {}, outer := (state.flags, state.level) :: state.outer }

def State.close (state : State) : Except Fault State :=
  match state.outer with
  | [] => .error .unopenedGroup
  | (flags, level) :: outer =>
    let (r, depth) := state.level.close
    .ok ({ state with flags := flags, level := level, outer := outer }.push (.expr r (depth + 1)))

def lazyMark : Text → Bool × Text
  | '?' :: rest => (false, rest)
  | rest => (true, rest)

def atomRegex (flags : Flags) : Atom → Except Fault Regex
  | .char c byte => do return charRegex flags (← checkChar flags c byte)
  | .cls s => .ok (.chars s)
  | .look a => .ok (.look a)

def dot (flags : Flags) : Except Fault Regex :=
  if !flags.unicode then .error .partialCharacter
  else if flags.dotAll then .ok (.chars .any)
  else if flags.anyLineEnd then .ok (.chars (.compl (.union (.single '\r') (.single '\n'))))
  else .ok (.chars (.compl (.single '\n')))

def lineStart (flags : Flags) : Assertion :=
  if flags.multiLine then (if flags.anyLineEnd then .anyLineStart else .lineStart) else .textStart

def lineEnd (flags : Flags) : Assertion :=
  if flags.multiLine then (if flags.anyLineEnd then .anyLineEnd else .lineEnd) else .textEnd

def openGroup (state : State) (text : Text) : Except Fault (State × Text) :=
  let named (text : Text) : Except Fault (State × Text) := do
    let (name, rest) ← groupName text
    if state.names.contains name then throw .badGroupName
    pure ({ state with names := name :: state.names }.open state.flags, rest)
  match skip state.flags text with
  | '?' :: '=' :: _ => .error .lookaround
  | '?' :: '!' :: _ => .error .lookaround
  | '?' :: '<' :: '=' :: _ => .error .lookaround
  | '?' :: '<' :: '!' :: _ => .error .lookaround
  | '?' :: 'P' :: '<' :: rest => named rest
  | '?' :: '<' :: rest => named rest
  | '?' :: rest => do
    let (flags, seen, rest) ← readFlags state.flags [] rest
    match rest with
    | ':' :: rest => pure (state.open flags, rest)
    | _ :: rest =>
      if seen.isEmpty then throw .missingOperand
      pure ({ state with flags := flags }.push .setting, rest)
    | [] => throw .badFlags
  | rest => .ok (state.open state.flags, rest)

def step (state : State) : Text → Except Fault (State × Text)
  | [] => .ok (state, [])
  | c :: rest => do
    let flags := state.flags
    if c == '(' then openGroup state rest
    else if c == ')' then return (← state.close, rest)
    else if c == '|' then
      let level := { branches := joinPieces state.level.pieces :: state.level.branches }
      return ({ state with level := level }, rest)
    else if c == '[' then
      let ((s, depth), rest) ← bracketed flags rest
      return (state.push (.expr (.chars s) depth), rest)
    else if c == '?' || c == '*' || c == '+' then
      let (greedy, rest) := lazyMark rest
      let count : Count :=
        if c == '?' then ⟨0, some 1⟩ else if c == '*' then ⟨0, none⟩ else ⟨1, none⟩
      return (← state.repeatLast count greedy, rest)
    else if c == '\x7b' then
      let (count, rest) ← braceCount flags rest
      let (greedy, rest) := lazyMark rest
      return (← state.repeatLast count greedy, rest)
    else if c == '\\' then
      let (atom, rest) ← escape flags rest
      return (state.pushRegex (← atomRegex flags atom), rest)
    else if c == '.' then return (state.pushRegex (← dot flags), rest)
    else if c == '^' then return (state.pushRegex (.look (lineStart flags)), rest)
    else if c == '$' then return (state.pushRegex (.look (lineEnd flags)), rest)
    else return (state.pushRegex (charRegex flags c), rest)

def readAll : Nat → State → Text → Except Fault State
  | 0, state, _ => .ok state
  | fuel + 1, state, text =>
    match skip state.flags text with
    | [] => .ok state
    | text => do
      let (state, rest) ← step state text
      readAll fuel state rest

end Reader

def depthLimit : Nat := 250

def costLimit : Nat := 10485760

def Regex.read (text : Text) : Except Fault Regex := do
  let state ← Reader.readAll (text.length + 1) {} text
  if !state.outer.isEmpty then throw .unclosedGroup
  let (r, depth) := state.level.close
  if depthLimit < depth then throw .tooDeep
  if costLimit < r.cost then throw .tooLarge
  pure r

end SnippetReview.Pattern
