import SnippetReview.Shipped

namespace SnippetReview.Shipped

def javascriptSource : Text :=
  "# JavaScript profile.\n# Also serves as the fallback for any language id the registry does not know.

[profile]
id = \"javascript\"
description = \"JavaScript keyword typos, condition syntax, equality and bracket balance\"

[[line_rules]]
name = \"console-log-parens\"
severity = \"error\"
message = \"console.log requires parentheses\"
matches = 'console\\.log'
unless = '\\('

[[line_rules]]
name = \"typo-function\"
severity = \"error\"
message = \"Typo: 'funtion' should be 'function'\"
matches = '\\bfuntion\\s'

[[line_rules]]
name = \"typo-return\"
severity = \"error\"
message = \"Typo: 'retrun' should be 'return'\"
matches = '\\bretrun\\b'

[[line_rules]]
name = \"typo-const\"
severity = \"error\"
message = \"Typo: 'cosnt' should be 'const'\"
matches = '\\bcosnt\\s'

[[line_rules]]
name = \"typo-let\"
severity = \"error\"
message = \"Typo: 'lte' should be 'let'\"
matches = '\\blte\\s'

[[line_rules]]
name = \"variable-spelling\"
severity = \"warning\"
message = \"Typo in variable spelling\"
matches = 'varible|variabel'

[[line_rules]]
name = \"if-parens\"
severity = \"error\"
message = \"if statement requires parentheses around condition\"
matches = '\\bif\\b\\s*[^\\s(]'
unless = '^(?://|/\\*|\\*)'

[[line_rules]]
name = \"strict-equality\"
severity = \"warning\"
message = \"Consider using === instead of == for strict equality\"
matches = '[^!=<>]==[^=]'
unless = '==='

[[line_rules]]
name = \"missing-semicolon\"
severity = \"warning\"
message = \"Missing semicolon at end of statement\"
matches = '='
unless = '[;\x7b\x7d,]$|^//|^/\\*|^\\*|^(?:if|else|for|while)\\b|function|=>'

[[source_rules]]
name = \"unmatched-braces\"
severity = \"error\"
message = \"Unmatched curly braces: \x7bopen\x7d opening, \x7bclose\x7d closing\"
open = \"\x7b\"
close = \"\x7d\"

[[source_rules]]
name = \"unmatched-parens\"
severity = \"error\"
message = \"Unmatched parentheses: \x7bopen\x7d opening, \x7bclose\x7d closing\"
open = \"(\"
close = \")\"

[[rewrites]]
pattern = '\\bfuntion '
replacement = \"function \"

[[rewrites]]
pattern = '\\bretrun\\b'
replacement = \"return\"

[[rewrites]]
pattern = '\\bcosnt '
replacement = \"const \"

[[rewrites]]
pattern = '\\blte '
replacement = \"let \"
".toList

def pythonSource : Text :=
  "[profile]
id = \"python\"
description = \"Python keyword typos, block colons, boolean literals and operators\"

[[line_rules]]
name = \"typo-print\"
severity = \"error\"
message = \"Typo: should be 'print('\"
matches = '\\b(?:pritn|prnit)\\('

[[line_rules]]
name = \"def-colon\"
severity = \"error\"
message = \"Function definition missing colon ':'\"
matches = '\\bdef\\s'
unless = ':'

[[line_rules]]
name = \"if-colon\"
severity = \"error\"
message = \"if statement missing colon ':'\"
matches = '\\b(?:el)?if\\s'
unless = ':|\\belse\\b'

[[line_rules]]
name = \"elseif\"
severity = \"error\"
message = \"Python uses 'elif' not 'elseif'\"
matches = '\\belseif\\b'

[[line_rules]]
name = \"lowercase-true\"
severity = \"error\"
message = \"Python uses 'True' not 'true' (capital T)\"
matches = '\\btrue\\b'

[[line_rules]]
name = \"lowercase-false\"
severity = \"error\"
message = \"Python uses 'False' not 'false' (capital F)\"
matches = '\\bfalse\\b'

[[line_rules]]
name = \"c-style-and\"
severity = \"error\"
message = \"Python uses 'and' not '&&'\"
matches = '&&'

[[line_rules]]
name = \"c-style-or\"
severity = \"error\"
message = \"Python uses 'or' not '||'\"
matches = '\\|\\|'

[[line_rules]]
name = \"trailing-semicolon\"
severity = \"warning\"
message = \"Python doesn't require semicolons\"
matches = ';$'

[[rewrites]]
pattern = '\\bpritn\\('
replacement = \"print(\"

[[rewrites]]
pattern = '\\bprnit\\('
replacement = \"print(\"

[[rewrites]]
pattern = '\\belseif\\b'
replacement = \"elif\"

[[rewrites]]
pattern = '[ \\t]*&&[ \\t]*'
replacement = \" and \"

[[rewrites]]
pattern = '[ \\t]*\\|\\|[ \\t]*'
replacement = \" or \"

[[rewrites]]
pattern = '\\btrue\\b'
replacement = \"True\"

[[rewrites]]
pattern = '\\bfalse\\b'
replacement = \"False\"
".toList

def javaSource : Text :=
  "[profile]
id = \"java\"
description = \"Java statement termination, main signature and naming conventions\"

[[line_rules]]
name = \"typo-system\"
severity = \"error\"
message = \"Typo: 'Sytem' should be 'System'\"
matches = '\\bSytem\\.'

[[line_rules]]
name = \"typo-public\"
severity = \"error\"
message = \"Typo: 'pubilc' should be 'public'\"
matches = '\\bpubilc\\b'

[[line_rules]]
name = \"println-semicolon\"
severity = \"error\"
message = \"Missing semicolon after println statement\"
matches = 'System\\.out\\.println'
unless = ';\\s*(?://.*)?$'

[[line_rules]]
name = \"main-args\"
severity = \"error\"
message = \"main method should have 'String[] args' parameter\"
matches = 'public\\s+static\\s+void\\s+main\\b'
unless = 'String\\s*(?:\\[\\s*\\]|\\.\\.\\.)'

[[line_rules]]
name = \"class-name-case\"
severity = \"warning\"
message = \"Class names should start with uppercase letter\"
matches = '\\bclass\\s+[^A-Z\\s]'

[[source_rules]]
name = \"unmatched-braces\"
severity = \"error\"
message = \"Unmatched curly braces: \x7bopen\x7d opening, \x7bclose\x7d closing\"
open = \"\x7b\"
close = \"\x7d\"

[[rewrites]]
pattern = '\\bSytem\\.'
replacement = \"System.\"

[[rewrites]]
pattern = '\\bpubilc\\b'
replacement = \"public\"
".toList

def cppSource : Text :=
  "[profile]
id = \"cpp\"
description = \"C++ stream operators, include directives and main conventions\"

[[line_rules]]
name = \"typo-include\"
severity = \"error\"
message = \"Typo: '#inlcude' should be '#include'\"
matches = '#\\s*inlcude\\b'

[[line_rules]]
name = \"cout-operator\"
severity = \"error\"
message = \"cout requires << operator\"
matches = '\\bcout\\b'
unless = '<<'

[[line_rules]]
name = \"cin-operator\"
severity = \"error\"
message = \"cin requires >> operator\"
matches = '\\bcin\\b'
unless = '>>'

[[line_rules]]
name = \"include-delimiters\"
severity = \"error\"
message = \"include directive needs <> or quotes\"
matches = '#\\s*include\\b'
unless = '[<\"]'

[[line_rules]]
name = \"typo-main\"
severity = \"error\"
message = \"Typo: 'mian' should be 'main'\"
matches = '\\bmian\\s*\\('

[[line_rules]]
name = \"main-return\"
severity = \"warning\"
message = \"main function should return an integer\"
matches = '\\bint\\s+main\\b'
unless_source = '\\breturn\\b'

[[source_rules]]
name = \"unmatched-braces\"
severity = \"error\"
message = \"Unmatched curly braces: \x7bopen\x7d opening, \x7bclose\x7d closing\"
open = \"\x7b\"
close = \"\x7d\"

[[rewrites]]
pattern = '#inlcude\\b'
replacement = \"#include\"

[[rewrites]]
pattern = '\\bmian\\('
replacement = \"main(\"
".toList

def sources : List Text :=
  [javascriptSource, pythonSource, javaSource, cppSource]

-- The kernel takes long to take a string apart, so each becomes the list of its characters first.
theorem sources_read :
    sources.map (fun source => (ProfileTable.read source).toOption) = tables.map some := by
  have hjavascript : (ProfileTable.read javascriptSource).toOption = some javascript := by
    unfold javascriptSource javascript
    repeat rw [String.toList_ofList]
    decide +kernel
  have hpython : (ProfileTable.read pythonSource).toOption = some python := by
    unfold pythonSource python
    repeat rw [String.toList_ofList]
    decide +kernel
  have hjava : (ProfileTable.read javaSource).toOption = some java := by
    unfold javaSource java
    repeat rw [String.toList_ofList]
    decide +kernel
  have hcpp : (ProfileTable.read cppSource).toOption = some cpp := by
    unfold cppSource cpp
    repeat rw [String.toList_ofList]
    decide +kernel
  simp only [sources, tables, List.map_cons, List.map_nil, hjavascript, hpython, hjava, hcpp]

theorem compile_sources {sources : List Text} {tables : List ProfileTable}
    (h : sources.map (fun source => (ProfileTable.read source).toOption) = tables.map some) :
    (sources.mapM fun source => do (← ProfileTable.read source).compile) =
      tables.mapM ProfileTable.compile := by
  induction sources generalizing tables with
  | nil =>
    obtain rfl := List.map_eq_nil_iff.mp h.symm
    rfl
  | cons source sources ih =>
    cases tables with
    | nil => cases h
    | cons t tables =>
      obtain ⟨hread, hrest⟩ := List.cons.inj h
      replace hread : (ProfileTable.read source).toOption = some t := hread
      cases hs : ProfileTable.read source with
      | error e =>
        rw [hs] at hread
        cases hread
      | ok found =>
        rw [hs] at hread
        cases hread
        rw [List.mapM_cons, List.mapM_cons, ih hrest, hs]
        rfl

/-- The catalog that comes with the program is that of the documents that come with it. -/
theorem catalog_eq_ofSources : catalog = Catalog.ofSources sources := by
  rw [catalog, Catalog.ofTables, Catalog.ofSources, compile_sources sources_read]

end SnippetReview.Shipped
