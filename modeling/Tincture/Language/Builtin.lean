import Tincture.Language.Definition

/-!
The languages that come with the library.
-/

namespace Tincture.Builtin

/-- The language of code that is in no known language. -/
def defaultCode : String := "default-code"

/-- The language of markup that is in no known language. -/
def defaultMarkup : String := "default-markup"

/-- The rules of markup around and between tags. -/
def markupRules : RuleSet where
  fallbacks :=
    [ Rule.tagged .plain "^[^<?]+",
      Rule.tagged .declaration "^<!\\w[^>]*(?:>|$)",
      Rule.tagged .comment "^<!--[\\s\\S]*?(?:-->|$)",
      Rule.embedding "" "^<\\?([\\s\\S]+?)(?:\\?>|$)",
      Rule.embedding "" "^<%([\\s\\S]+?)(?:%>|$)",
      Rule.tagged .punctuation "^(?:<[%?]|[%?]>)",
      Rule.embeddingIgnoringCase "" "^<xmp\\b[^>]*>([\\s\\S]+?)<\\/xmp\\b[^>]*>",
      Rule.embeddingIgnoringCase "js" "^<script\\b[^>]*>([\\s\\S]*?)(<\\/script\\b[^>]*>)",
      Rule.embeddingIgnoringCase "css" "^<style\\b[^>]*>([\\s\\S]*?)(<\\/style\\b[^>]*>)",
      Rule.embeddingIgnoringCase "in.tag" "^(<\\/?[a-z][^<>]*>)" ]

/-- The rules of the inside of a tag. -/
def tagRules : RuleSet where
  shortcuts :=
    [ (Rule.tagged .plain "^[\\s]+").withShortcut " \t\r\n",
      (Rule.tagged .attributeValue "^(?:\"[^\"]*\"?|\'[^\']*\'?)").withShortcut "\"\'" ]
  fallbacks :=
    [ Rule.taggedIgnoringCase .markup "^^<\\/?[a-z](?:[\\w.:-]*\\w)?|\\/?>$",
      Rule.taggedIgnoringCase .attributeName "^(?!style[\\s=]|on)[a-z](?:[\\w:-]*\\w)?",
      Rule.embedding "uq.val" "^=\\s*([^>\'\"\\s]*(?:[^>\'\"\\s\\/]|\\/(?=\\s)))",
      Rule.tagged .punctuation "^[=<>\\/]+",
      Rule.embeddingIgnoringCase "js" "^on\\w+\\s*=\\s*\"([^\"]+)\"",
      Rule.embeddingIgnoringCase "js" "^on\\w+\\s*=\\s*\'([^\']+)\'",
      Rule.embeddingIgnoringCase "js" "^on\\w+\\s*=\\s*([^\"\'>\\s]+)",
      Rule.embeddingIgnoringCase "css" "^style\\s*=\\s*\"([^\"]+)\"",
      Rule.embeddingIgnoringCase "css" "^style\\s*=\\s*\'([^\']+)\'",
      Rule.embeddingIgnoringCase "css" "^style\\s*=\\s*([^\"\'>\\s]+)" ]

/-- A single rule for the whole of a text. -/
def wholeText (tag : Tag) : RuleSet where
  fallbacks := [Rule.tagged tag "^[\\s\\S]+"]

/-- A language described by options. -/
def optioned (names : List String) (options : Options) : Definition :=
  { names, options := some options }

/-- A language described by rules. -/
def ruled (names : List String) (rules : RuleSet) : Definition :=
  { names, rules := some rules }

/-- All languages, in order of registration. -/
def definitions : List Definition :=
  [ optioned [defaultCode]
      (Options.withKeywords
        { hashComments := .line, cStyleComments := true, stringDelimiters := .multiLine,
          regexLiterals := .singleLine } Keyword.ofAll),
    ruled [defaultMarkup, "htm", "html", "mxml", "xhtml", "xml", "xsl"] markupRules,
    ruled ["in.tag"] tagRules,
    ruled ["uq.val"] (wholeText .attributeValue),
    optioned ["c", "cc", "cpp", "cxx", "cyc", "m"]
      (Options.withKeywords
        { hashComments := .line, cStyleComments := true,
          typePattern := some { source := Options.cTypes } } Keyword.ofCpp),
    optioned ["json"] (Options.withKeywords {} Keyword.ofJson),
    optioned ["cs"]
      (Options.withKeywords
        { hashComments := .line, cStyleComments := true, verbatimStrings := true,
          typePattern := some { source := Options.cTypes } } Keyword.ofCsharp),
    optioned ["java"] (Options.withKeywords { cStyleComments := true } Keyword.ofJava),
    optioned ["bash", "bsh", "csh", "sh"]
      (Options.withKeywords { hashComments := .line, stringDelimiters := .multiLine }
        Keyword.ofShell),
    optioned ["cv", "py", "python"]
      (Options.withKeywords { hashComments := .line, stringDelimiters := .tripleQuoted }
        Keyword.ofPython),
    optioned ["perl", "pl", "pm"]
      (Options.withKeywords
        { hashComments := .line, stringDelimiters := .multiLine, regexLiterals := .multiLine }
        Keyword.ofPerl),
    optioned ["rb", "ruby"]
      (Options.withKeywords
        { hashComments := .line, stringDelimiters := .multiLine, regexLiterals := .singleLine }
        Keyword.ofRuby),
    optioned ["javascript", "js", "ts", "typescript"]
      (Options.withKeywords { cStyleComments := true, regexLiterals := .singleLine }
        Keyword.ofJscript),
    optioned ["coffee"]
      (Options.withKeywords
        { hashComments := .block, cStyleComments := true, stringDelimiters := .tripleQuoted,
          regexLiterals := .singleLine } Keyword.ofCoffee),
    ruled ["regex"] (wholeText .string) ]

end Tincture.Builtin
