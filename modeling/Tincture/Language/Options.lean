import Tincture.Language.Keyword
import Tincture.Rule

/-!
Languages described by options.

Most languages share strings, comments, numbers and names, and differ in a few choices. `Options`
holds these choices and `Options.rules` turns them into rules.
-/

namespace Tincture

/-- Which string literals a language has. -/
inductive StringDelimiters where
  /-- Single and double quotes, up to the end of the line. -/
  | singleLine
  /-- Single, double and back quotes, over lines. -/
  | multiLine
  /-- Single and double quotes, tripled or not, over lines. -/
  | tripleQuoted
deriving DecidableEq, Inhabited

/-- What a number sign begins. -/
inductive HashComments where
  | none
  /-- A comment up to the end of the line; with C style comments, a directive instead. -/
  | line
  /-- A comment up to the end of the line, or between three number signs. -/
  | block
deriving DecidableEq, Inhabited

/-- Which regular expression literals a language has. -/
inductive RegexLiterals where
  | none
  | singleLine
  | multiLine
deriving DecidableEq, Inhabited

/-- The choices that describe a language. -/
structure Options where
  stringDelimiters : StringDelimiters := .singleLine
  /-- Whether a string may begin with an at sign and a quote. -/
  verbatimStrings : Bool := false
  hashComments : HashComments := .none
  /-- Whether two slashes begin a comment, and a slash and a star a longer one. -/
  cStyleComments : Bool := false
  regexLiterals : RegexLiterals := .none
  keywords : List String := []
  /-- The names of types, besides those that look like one. -/
  typePattern : Option Pattern := .none
deriving DecidableEq, Inhabited

namespace Options

/-- What may stand before a regular expression literal, as opposed to a division. -/
def regexPreceder : String :=
  "(?:^^\\.?|[+-]|[!=]=?=?|\\#|%=?|&&?=?|\\(|\\*=?|[+\\-]=|->|\\/=?|::?|<<?=?|>>?>?=?|,|;|\\?|@|\\[|~|"
  ++ "\\\x7b|\\^\\^?=?|\\|\\|?=?|break|case|continue|delete|do|else|finally|instanceof|return|throw|try|"
  ++ "typeof)\\s*"

/-- The names of types in the standard libraries of C and its kin. -/
def cTypes : String :=
  "^(DIR|FILE|array|vector|(de|priority_)?queue|(forward_)?list|stack|(const_)?(reverse_)?iterator|"
  ++ "(unordered_)?(multi)?(set|map)|bitset|u?(int|float)\\d*)\\b"

/-- The characters blanks begin with. -/
def blanks : String := " \r\n\t\u00a0"

/-- The options with the keywords of some groups. -/
def withKeywords (o : Options) (groups : List String) : Options :=
  { o with keywords := Keyword.split groups }

/-- String literals in single and double quotes on one line. -/
def singleLineString : String :=
  "^(?:\'(?:[^\\\\\'\\r\\n]|\\\\.)*(?:\'|$)|\"(?:[^\\\\\"\\r\\n]|\\\\.)*(?:\"|$))"

/-- String literals in single, double and back quotes over lines. -/
def multiLineString : String :=
  "^(?:\'(?:[^\\\\\']|\\\\[\\s\\S])*(?:\'|$)|\"(?:[^\\\\\"]|\\\\[\\s\\S])*(?:\"|$)|"
  ++ "\x60(?:[^\\\\\x60]|\\\\[\\s\\S])*(?:\x60|$))"

/-- String literals in single and double quotes, tripled or not, over lines. -/
def tripleQuotedString : String :=
  "^(?:\'\'\'(?:[^\'\\\\]|\\\\[\\s\\S]|\'\x7b1,2\x7d(?=[^\']))*(?:\'\'\'|$)|"
  ++ "\"\"\"(?:[^\"\\\\]|\\\\[\\s\\S]|\"\x7b1,2\x7d(?=[^\"]))*(?:\"\"\"|$)|"
  ++ "\'(?:[^\\\\\']|\\\\[\\s\\S])*(?:\'|$)|\"(?:[^\\\\\"]|\\\\[\\s\\S])*(?:\"|$))"

/-- The rule for string literals. -/
def stringRule (o : Options) : Rule :=
  match o.stringDelimiters with
  | .tripleQuoted => (Rule.tagged .string tripleQuotedString).withShortcut "\'\""
  | .multiLine => (Rule.tagged .string multiLineString).withShortcut "\'\"\x60"
  | .singleLine => (Rule.tagged .string singleLineString).withShortcut "\"\'"

/-- Directives, up to a comment that may not be closed, and comments. -/
def directive : String :=
  "^#(?:(?:define|e(?:l|nd)if|else|error|ifn?def|include|line|pragma|undef|warning)\\b|"
  ++ "[^\\r\\n]*)"

/-- The rule for comments and directives that begin with a number sign, if there are any. -/
def hashRule? (o : Options) : Option Rule :=
  match o.hashComments, o.cStyleComments with
  | .none, _ => none
  | .block, true =>
    some ((Rule.tagged .comment "^#(?:##(?:[^#]|#(?!##))*(?:###|$)|.*)").withShortcut "#")
  | .line, true =>
    some ((Rule.tagged .comment directive).withShortcut "#")
  | _, false => some ((Rule.tagged .comment "^#[^\\r\\n]*").withShortcut "#")

/-- The rule for the file a directive includes, if there are directives. -/
def includeRule? (o : Options) : Option Rule :=
  match o.hashComments, o.cStyleComments with
  | .line, true =>
    some (Rule.tagged .string
      "^<(?:(?:(?:\\.\\.\\/)*|\\/?)(?:[\\w-]+(?:\\/[\\w-]+)+)?[\\w-]+\\.h(?:h|pp|\\+\\+)?|[a-z]\\w*)>")
  | _, _ => none

/-- The rule for regular expression literals, if there are any. -/
def regexRule? (o : Options) : Option Rule :=
  let literal (excluded any : String) :=
    "/(?=[^/*" ++ excluded ++ "])(?:[^/\\x5B\\x5C" ++ excluded ++ "]|\\x5C" ++ any
      ++ "|\\x5B(?:[^\\x5C\\x5D" ++ excluded ++ "]|\\x5C" ++ any ++ ")*(?:\\x5D|$))+/"
  let rule (excluded any : String) :=
    Rule.embedding "regex" ("^" ++ regexPreceder ++ "(" ++ literal excluded any ++ ")")
  match o.regexLiterals with
  | .none => none
  | .singleLine => some (rule "\\n\\r" ".")
  | .multiLine => some (rule "" "[\\S\\s]")

/-- Whether a character is punctuation of ASCII. -/
def isPunctuation (c : Char) : Bool :=
  let n := c.toNat
  (33 ≤ n && n ≤ 47) || (58 ≤ n && n ≤ 64) || (91 ≤ n && n ≤ 96) || (123 ≤ n && n ≤ 126)

/-- Escapes the punctuation in a keyword. -/
def escapeKeyword (keyword : String) : String :=
  String.ofList (keyword.toList.flatMap fun c =>
    if isPunctuation c && c != '_' then ['\\', c] else [c])

/-- The rule for keywords, if there are any. -/
def keywordRule? (o : Options) : Option Rule :=
  if o.keywords.isEmpty then none
  else
    some (Rule.tagged .keyword
      ("^(?:" ++ "|".intercalate (o.keywords.map escapeKeyword) ++ ")\\b"))

/-- The pattern for punctuation, which must not run into a regular expression literal. -/
def punctuationSource (o : Options) : String :=
  "^.[^\\s\\w.$@\'\"\x60/\\\\]*" ++ if o.regexLiterals = .none then "" else "(?!s*/)"

/-- The rules for what all languages have. -/
def commonRules (o : Options) : List Rule :=
  [ Rule.taggedIgnoringCase .literal "^@[a-z_$][a-z_$@0-9]*",
    Rule.tagged .typeName "^(?:[@_]?[A-Z]+[a-z][A-Za-z_$@0-9]*|\\w+_t\\b)",
    Rule.taggedIgnoringCase .plain "^[a-z_$][a-z_$@0-9]*",
    (Rule.taggedIgnoringCase .literal
      "^(?:0x[a-f0-9]+|(?:\\d(?:_\\d+)*\\d*(?:\\.\\d*)?|\\.\\d\\+)(?:e[+\\-]?\\d+)?)[a-z]*").withShortcut
      "0123456789",
    Rule.tagged .plain "^\\\\[\\s\\S]?",
    Rule.tagged .punctuation o.punctuationSource ]

/-- The rules of a language with these options. -/
def rules (o : Options) : RuleSet where
  shortcuts :=
    [o.stringRule] ++ o.hashRule?.toList ++ [(Rule.tagged .plain "^\\s+").withShortcut blanks]
  fallbacks :=
    (if o.verbatimStrings then [Rule.tagged .string "^@\"(?:[^\"]|\"\")*(?:\"|$)"] else [])
      ++ o.includeRule?.toList
      ++ (if o.cStyleComments then
          [ Rule.tagged .comment "^\\/\\/[^\\r\\n]*",
            Rule.tagged .comment "^\\/\\*[\\s\\S]*?(?:\\*\\/|$)" ]
        else [])
      ++ o.regexRule?.toList
      ++ o.typePattern.toList.map (fun pattern => { style := .terminal .typeName, pattern })
      ++ o.keywordRule?.toList
      ++ o.commonRules

end Options

end Tincture
