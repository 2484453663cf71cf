import SnippetReview.Pattern.CharClass
import SnippetReview.Unicode.Category
import SnippetReview.Unicode.Letter
import SnippetReview.Unicode.Script

namespace SnippetReview.Pattern.Property

open Unicode

def normalize (name : Text) : Text :=
  let body :=
    match name with
    | i :: s :: rest => if i.toLower == 'i' && s.toLower == 's' then rest else name
    | _ => name
  let plain := (body.filter fun c => c.toNat < 0x80 && c != ' ' && c != '_' && c != '-').map
    Char.toLower
  if plain == ['c'] && body.length < name.length then ['i', 's', 'c'] else plain

def unionOf (tables : List Ranges) : CharClass :=
  tables.foldr (fun t s => .union (.table t) s) .never

def letters : List Ranges :=
  [Category.uppercaseLetter, Category.lowercaseLetter, Category.titlecaseLetter,
    Category.modifierLetter, Category.otherLetter]

def marks : List Ranges :=
  [Category.nonspacingMark, Category.spacingMark, Category.enclosingMark]

def numbers : List Ranges :=
  [Category.decimalNumber, Category.letterNumber, Category.otherNumber]

def punctuation : List Ranges :=
  [Category.connectorPunctuation, Category.dashPunctuation, Category.openPunctuation,
    Category.closePunctuation, Category.initialPunctuation, Category.finalPunctuation,
    Category.otherPunctuation]

def symbols : List Ranges :=
  [Category.mathSymbol, Category.currencySymbol, Category.modifierSymbol, Category.otherSymbol]

def separators : List Ranges :=
  [Category.spaceSeparator, Category.lineSeparator, Category.paragraphSeparator]

def others : List Ranges :=
  [Category.control, Category.format, Category.privateUse, Category.unassigned]

def categories : List (List String × List Ranges) := [
  (["l", "letter"], letters),
  (["lc", "casedletter"], letters.take 3),
  (["lu", "uppercaseletter"], [Category.uppercaseLetter]),
  (["ll", "lowercaseletter"], [Category.lowercaseLetter]),
  (["lt", "titlecaseletter"], [Category.titlecaseLetter]),
  (["lm", "modifierletter"], [Category.modifierLetter]),
  (["lo", "otherletter"], [Category.otherLetter]),
  (["m", "mark", "combiningmark"], marks),
  (["mn", "nonspacingmark"], [Category.nonspacingMark]),
  (["mc", "spacingmark"], [Category.spacingMark]),
  (["me", "enclosingmark"], [Category.enclosingMark]),
  (["n", "number"], numbers),
  (["nd", "decimalnumber", "digit"], [Category.decimalNumber]),
  (["nl", "letternumber"], [Category.letterNumber]),
  (["no", "othernumber"], [Category.otherNumber]),
  (["p", "punctuation", "punct"], punctuation),
  (["pc", "connectorpunctuation"], [Category.connectorPunctuation]),
  (["pd", "dashpunctuation"], [Category.dashPunctuation]),
  (["ps", "openpunctuation"], [Category.openPunctuation]),
  (["pe", "closepunctuation"], [Category.closePunctuation]),
  (["pi", "initialpunctuation"], [Category.initialPunctuation]),
  (["pf", "finalpunctuation"], [Category.finalPunctuation]),
  (["po", "otherpunctuation"], [Category.otherPunctuation]),
  (["s", "symbol"], symbols),
  (["sm", "mathsymbol"], [Category.mathSymbol]),
  (["sc", "currencysymbol"], [Category.currencySymbol]),
  (["sk", "modifiersymbol"], [Category.modifierSymbol]),
  (["so", "othersymbol"], [Category.otherSymbol]),
  (["z", "separator"], separators),
  (["zs", "spaceseparator"], [Category.spaceSeparator]),
  (["zl", "lineseparator"], [Category.lineSeparator]),
  (["zp", "paragraphseparator"], [Category.paragraphSeparator]),
  (["c", "other"], others),
  (["cc", "control", "cntrl"], [Category.control]),
  (["cf", "format"], [Category.format]),
  (["co", "privateuse"], [Category.privateUse]),
  (["cn", "unassigned"], [Category.unassigned])]

def category? (name : String) : Option CharClass :=
  if name == "any" then some .any
  else if name == "assigned" then some (.compl (.table Category.unassigned))
  else if name == "ascii" then some (.range (Char.ofNat 0) (Char.ofNat 0x7F))
  else (categories.find? fun entry => entry.1.contains name).map fun entry => unionOf entry.2

def script? (name : String) : Option CharClass :=
  (Script.byName.find? fun entry => entry.1.contains name).map fun entry => .table entry.2

def binary? (name : String) : Option CharClass :=
  if name == "alphabetic" || name == "alpha" then some (.table alphabetic)
  else if name == "lowercase" || name == "lower" then some (.table lowercase)
  else if name == "uppercase" || name == "upper" then some (.table uppercase)
  else if name == "whitespace" || name == "wspace" || name == "space" then some .blank
  else if name == "ideographic" || name == "ideo" then some (.table ideographic)
  else if name == "hexdigit" || name == "hex" then some (.table hexDigit)
  else if name == "asciihexdigit" || name == "ahex" then
    some (.union (.range '0' '9') (.union (.range 'A' 'F') (.range 'a' 'f')))
  else none

def named? (name : Text) : Option CharClass :=
  let name := String.ofList (normalize name)
  (binary? name).orElse fun _ => (category? name).orElse fun _ => script? name

def valued? (property value : Text) : Option CharClass :=
  let property := String.ofList (normalize property)
  let value := String.ofList (normalize value)
  if property == "gc" || property == "generalcategory" then category? value
  else if property == "sc" || property == "script" then script? value
  else none

end SnippetReview.Pattern.Property
