import SnippetReview.Text

namespace SnippetReview.Toml

inductive Origin where
  | braces
  | header
  | implied
  /-- As the parent in a dotted key. -/
  | dotted
  deriving DecidableEq, Repr

inductive Value where
  | string (text : Text)
  | integer (n : Int)
  | float (literal : Text)
  | boolean (b : Bool)
  | datetime (literal : Text)
  | array (ofTables : Bool) (items : List Value)
  | table (origin : Origin) (entries : List (Text × Value))

abbrev Entries := List (Text × Value)

namespace Entries

def get? (entries : Entries) (key : Text) : Option Value :=
  entries.lookup key

def replace (entries : Entries) (key : Text) (value : Value) : Entries :=
  entries.map fun entry => if entry.1 == key then (key, value) else entry

def add? (entries : Entries) (key : Text) (value : Value) : Option Entries :=
  if (entries.get? key).isSome then none else some (entries ++ [(key, value)])

def changeLast (change : Entries → Option Entries) : List Value → Option (List Value)
  | [] => none
  | [.table origin entries] => do return [.table origin (← change entries)]
  | [_] => none
  | item :: items => do return item :: (← changeLast change items)

/-- Changes the table under a key, which is made if there is none. A dotted key cannot go into a
table with a header, and nothing goes into a table in braces. The change is told whether the table
was made by a dotted key. -/
def within (dotted : Bool) (key : Text) (change : Bool → Entries → Option Entries)
    (entries : Entries) : Option Entries :=
  match entries.get? key with
  | none => do
    let origin := if dotted then .dotted else .implied
    return entries ++ [(key, .table origin (← change dotted []))]
  | some (.table .braces _) => none
  | some (.table .header inner) => do
    if dotted then none
    else return entries.replace key (.table .header (← change false inner))
  | some (.table origin inner) => do
    return entries.replace key (.table origin (← change (origin == .dotted) inner))
  | some (.array true items) => do
    return entries.replace key (.array true (← changeLast (change false) items))
  | some _ => none

def put? (value : Value) : Bool → List Text → Entries → Option Entries
  | _, [], _ => none
  | own, [key], entries => if own then entries.add? key value else none
  | _, key :: path, entries =>
    entries.within true key fun own inner => put? value own path inner

end Entries

structure Pair where
  key : List Text
  value : Value

def addPairs (entries : Entries) (pairs : List Pair) : Option Entries :=
  pairs.foldlM (fun entries pair => entries.put? pair.value true pair.key) entries

structure Section where
  /-- The section is a further element of an array of tables. -/
  ofArray : Bool
  path : List Text
  pairs : List Pair

namespace Section

def place (s : Section) (key : Text) (entries : Entries) : Option Entries :=
  match s.ofArray, entries.get? key with
  | false, none => do entries.add? key (.table .header (← addPairs [] s.pairs))
  | false, some (.table .implied inner) => do
    return entries.replace key (.table .header (← addPairs inner s.pairs))
  | true, none => do entries.add? key (.array true [.table .header (← addPairs [] s.pairs)])
  | true, some (.array true items) => do
    let item := .table .header (← addPairs [] s.pairs)
    return entries.replace key (.array true (items ++ [item]))
  | _, some _ => none

def addAt (s : Section) : List Text → Entries → Option Entries
  | [], _ => none
  | [key], entries => s.place key entries
  | key :: path, entries => entries.within false key fun _ inner => addAt s path inner

end Section

def document? (pairs : List Pair) (sections : List Section) : Option Entries := do
  sections.foldlM (fun entries s => s.addAt s.path entries) (← addPairs [] pairs)

namespace Value

def ofPairs? (pairs : List Pair) : Option Value := do
  return .table .braces (← addPairs [] pairs)

def text? : Value → Option Text
  | string text => some text
  | _ => none

def boolean? : Value → Option Bool
  | boolean b => some b
  | _ => none

def natural? : Value → Option Nat
  | integer n => if 0 ≤ n ∧ n < UInt64.size then some n.toNat else none
  | _ => none

def items? : Value → Option (List Value)
  | array _ items => some items
  | _ => none

def fields? (names : List String) (needed : Nat) : Value → Option (List (Option Value))
  | table _ entries => some (names.map fun name => Entries.get? entries name.toList)
  | array _ items =>
    if needed ≤ items.length then
      some ((List.range names.length).map fun i => items[i]?)
    else none
  | _ => none

def fieldOr? {α : Type} (read : Value → Option α) (otherwise : α) : Option Value → Option α
  | none => some otherwise
  | some value => read value

end Value

end SnippetReview.Toml
