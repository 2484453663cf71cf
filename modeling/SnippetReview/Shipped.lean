import SnippetReview.Catalog

namespace SnippetReview.Shipped

def javascript : ProfileTable where
  id := "javascript".toList
  description :=
    some "JavaScript keyword typos, condition syntax, equality and bracket balance".toList
  lineRules := [
    { name := "console-log-parens".toList
      severity := .error
      message := "console.log requires parentheses".toList
      pattern := "console\\.log".toList
      exempt := some "\\(".toList },
    { name := "typo-function".toList
      severity := .error
      message := "Typo: 'funtion' should be 'function'".toList
      pattern := "\\bfuntion\\s".toList },
    { name := "typo-return".toList
      severity := .error
      message := "Typo: 'retrun' should be 'return'".toList
      pattern := "\\bretrun\\b".toList },
    { name := "typo-const".toList
      severity := .error
      message := "Typo: 'cosnt' should be 'const'".toList
      pattern := "\\bcosnt\\s".toList },
    { name := "typo-let".toList
      severity := .error
      message := "Typo: 'lte' should be 'let'".toList
      pattern := "\\blte\\s".toList },
    { name := "variable-spelling".toList
      severity := .warning
      message := "Typo in variable spelling".toList
      pattern := "varible|variabel".toList },
    { name := "if-parens".toList
      severity := .error
      message := "if statement requires parentheses around condition".toList
      pattern := "\\bif\\b\\s*[^\\s(]".toList
      exempt := some "^(?://|/\\*|\\*)".toList },
    { name := "strict-equality".toList
      severity := .warning
      message := "Consider using === instead of == for strict equality".toList
      pattern := "[^!=<>]==[^=]".toList
      exempt := some "===".toList },
    { name := "missing-semicolon".toList
      severity := .warning
      message := "Missing semicolon at end of statement".toList
      pattern := "=".toList
      exempt := some "[;\x7b\x7d,]$|^//|^/\\*|^\\*|^(?:if|else|for|while)\\b|function|=>".toList }]
  balanceRules := [
    { name := "unmatched-braces".toList
      severity := .error
      message := "Unmatched curly braces: \x7bopen\x7d opening, \x7bclose\x7d closing".toList
      opening := "\x7b".toList
      closing := "\x7d".toList },
    { name := "unmatched-parens".toList
      severity := .error
      message := "Unmatched parentheses: \x7bopen\x7d opening, \x7bclose\x7d closing".toList
      opening := "(".toList
      closing := ")".toList }]
  corrections := [
    { pattern := "\\bfuntion ".toList, replacement := "function ".toList },
    { pattern := "\\bretrun\\b".toList, replacement := "return".toList },
    { pattern := "\\bcosnt ".toList, replacement := "const ".toList },
    { pattern := "\\blte ".toList, replacement := "let ".toList }]

def python : ProfileTable where
  id := "python".toList
  description := some "Python keyword typos, block colons, boolean literals and operators".toList
  lineRules := [
    { name := "typo-print".toList
      severity := .error
      message := "Typo: should be 'print('".toList
      pattern := "\\b(?:pritn|prnit)\\(".toList },
    { name := "def-colon".toList
      severity := .error
      message := "Function definition missing colon ':'".toList
      pattern := "\\bdef\\s".toList
      exempt := some ":".toList },
    { name := "if-colon".toList
      severity := .error
      message := "if statement missing colon ':'".toList
      pattern := "\\b(?:el)?if\\s".toList
      exempt := some ":|\\belse\\b".toList },
    { name := "elseif".toList
      severity := .error
      message := "Python uses 'elif' not 'elseif'".toList
      pattern := "\\belseif\\b".toList },
    { name := "lowercase-true".toList
      severity := .error
      message := "Python uses 'True' not 'true' (capital T)".toList
      pattern := "\\btrue\\b".toList },
    { name := "lowercase-false".toList
      severity := .error
      message := "Python uses 'False' not 'false' (capital F)".toList
      pattern := "\\bfalse\\b".toList },
    { name := "c-style-and".toList
      severity := .error
      message := "Python uses 'and' not '&&'".toList
      pattern := "&&".toList },
    { name := "c-style-or".toList
      severity := .error
      message := "Python uses 'or' not '||'".toList
      pattern := "\\|\\|".toList },
    { name := "trailing-semicolon".toList
      severity := .warning
      message := "Python doesn't require semicolons".toList
      pattern := ";$".toList }]
  corrections := [
    { pattern := "\\bpritn\\(".toList, replacement := "print(".toList },
    { pattern := "\\bprnit\\(".toList, replacement := "print(".toList },
    { pattern := "\\belseif\\b".toList, replacement := "elif".toList },
    { pattern := "[ \\t]*&&[ \\t]*".toList, replacement := " and ".toList },
    { pattern := "[ \\t]*\\|\\|[ \\t]*".toList, replacement := " or ".toList },
    { pattern := "\\btrue\\b".toList, replacement := "True".toList },
    { pattern := "\\bfalse\\b".toList, replacement := "False".toList }]

def java : ProfileTable where
  id := "java".toList
  description := some "Java statement termination, main signature and naming conventions".toList
  lineRules := [
    { name := "typo-system".toList
      severity := .error
      message := "Typo: 'Sytem' should be 'System'".toList
      pattern := "\\bSytem\\.".toList },
    { name := "typo-public".toList
      severity := .error
      message := "Typo: 'pubilc' should be 'public'".toList
      pattern := "\\bpubilc\\b".toList },
    { name := "println-semicolon".toList
      severity := .error
      message := "Missing semicolon after println statement".toList
      pattern := "System\\.out\\.println".toList
      exempt := some ";\\s*(?://.*)?$".toList },
    { name := "main-args".toList
      severity := .error
      message := "main method should have 'String[] args' parameter".toList
      pattern := "public\\s+static\\s+void\\s+main\\b".toList
      exempt := some "String\\s*(?:\\[\\s*\\]|\\.\\.\\.)".toList },
    { name := "class-name-case".toList
      severity := .warning
      message := "Class names should start with uppercase letter".toList
      pattern := "\\bclass\\s+[^A-Z\\s]".toList }]
  balanceRules := [
    { name := "unmatched-braces".toList
      severity := .error
      message := "Unmatched curly braces: \x7bopen\x7d opening, \x7bclose\x7d closing".toList
      opening := "\x7b".toList
      closing := "\x7d".toList }]
  corrections := [
    { pattern := "\\bSytem\\.".toList, replacement := "System.".toList },
    { pattern := "\\bpubilc\\b".toList, replacement := "public".toList }]

def cpp : ProfileTable where
  id := "cpp".toList
  description := some "C++ stream operators, include directives and main conventions".toList
  lineRules := [
    { name := "typo-include".toList
      severity := .error
      message := "Typo: '#inlcude' should be '#include'".toList
      pattern := "#\\s*inlcude\\b".toList },
    { name := "cout-operator".toList
      severity := .error
      message := "cout requires << operator".toList
      pattern := "\\bcout\\b".toList
      exempt := some "<<".toList },
    { name := "cin-operator".toList
      severity := .error
      message := "cin requires >> operator".toList
      pattern := "\\bcin\\b".toList
      exempt := some ">>".toList },
    { name := "include-delimiters".toList
      severity := .error
      message := "include directive needs <> or quotes".toList
      pattern := "#\\s*include\\b".toList
      exempt := some "[<\"]".toList },
    { name := "typo-main".toList
      severity := .error
      message := "Typo: 'mian' should be 'main'".toList
      pattern := "\\bmian\\s*\\(".toList },
    { name := "main-return".toList
      severity := .warning
      message := "main function should return an integer".toList
      pattern := "\\bint\\s+main\\b".toList
      exemptSource := some "\\breturn\\b".toList }]
  balanceRules := [
    { name := "unmatched-braces".toList
      severity := .error
      message := "Unmatched curly braces: \x7bopen\x7d opening, \x7bclose\x7d closing".toList
      opening := "\x7b".toList
      closing := "\x7d".toList }]
  corrections := [
    { pattern := "#inlcude\\b".toList, replacement := "#include".toList },
    { pattern := "\\bmian\\(".toList, replacement := "main(".toList }]

def tables : List ProfileTable :=
  [javascript, python, java, cpp]

def catalog : Except ProfileError Catalog :=
  Catalog.ofTables tables

end SnippetReview.Shipped
