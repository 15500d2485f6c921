import Tincture.Decoration
import Tincture.Text.Lower
import Tincture.Text.Utf8

/-!
HTML.

A decorated text becomes a block of code with a span for each line, and in it a span for each
decorated piece of the line. Lines may be numbered, and the block carries data attributes.
-/

namespace Tincture.Html

/-- The stylesheet for classes without a mark. -/
def stylesheet : String :=
  ".arancio-l \x7b
  display: block;
\x7d
.arancio-ln \x7b
  display: inline-block;
  user-select: none;
  white-space: pre;
  margin-right: 0.4em;
  min-width: 3ch;
  text-align: right;
  opacity: 0.8;
\x7d
.arancio .str, .arancio .atv \x7b color: #080; \x7d
.arancio .kwd, .arancio .tag \x7b color: #008; \x7d
.arancio .com \x7b color: #800; \x7d
.arancio .typ, .arancio .atn, .arancio .dec \x7b color: #606; \x7d
.arancio .lit \x7b color: #066; \x7d
.arancio .pun \x7b color: #660; \x7d
.arancio .pln \x7b color: #000; \x7d
"

/-- One character as text or in an attribute. -/
def escapeChar : Char → List Char
  | '>' => "&gt;".toList
  | '<' => "&lt;".toList
  | '&' => "&amp;".toList
  | '\'' => "&#39;".toList
  | '"' => "&quot;".toList
  | c => [c]

/-- Characters as text or in an attribute. -/
def escape (cs : List Char) : List Char := cs.flatMap escapeChar

/-- A key as part of an attribute's name: in lower case, with dashes for what is neither letter nor
number. -/
def slug (key : String) : String :=
  String.ofList ((lowerCase key.toList).map fun c =>
    if isAlphanumeric c || c == '-' then c else '-')

/-- How texts are rendered. -/
structure Page where
  /-- What the class of each span begins with. -/
  classMark : String := ""
  /-- Data attributes besides the language. -/
  metadata : List (String × String) := []
  /-- The number of the first line, if lines are numbered. -/
  firstLine : Option Int := none

/-- The lines finished so far, the last one first, and the one being written. -/
structure Lines where
  finished : List String := []
  current : String := ""

namespace Lines

/-- Ends the line being written. -/
def endLine (l : Lines) : Lines := { finished := l.current :: l.finished }

/-- Writes on. -/
def write (l : Lines) (s : String) : Lines := { l with current := l.current ++ s }

end Lines

namespace Page

/-- A piece of a line with its tag; an empty one leaves nothing. -/
def piece (p : Page) (tag : Tag) (cs : List Char) : String :=
  if cs.isEmpty then ""
  else
    "<span class=\"" ++ p.classMark ++ tag.name ++ "\">" ++ String.ofList (escape cs) ++ "</span>"

/-- Writes text with a tag, `part` being the part of its current line in reverse. -/
def writeText (p : Page) (tag : Tag) (l : Lines) (part : List Char) : List Char → Lines
  | [] => l.write (p.piece tag part.reverse)
  | c :: rest =>
    if c = '\n' then p.writeText tag (l.write (p.piece tag part.reverse)).endLine [] rest
    else p.writeText tag l (c :: part) rest

/-- Writes the text of a span, if its range is one of the text. -/
def writeSpan (p : Page) (source : List Char) (l : Lines) (s : Span) : Lines :=
  match sliceBytes? source s.start s.stop with
  | some cs => p.writeText s.tag l [] cs
  | none => l

/-- The lines of a decorated text. A line feed at the end begins no line of its own. -/
def lines (p : Page) (source : List Char) (ds : List Decoration) : List String :=
  let l := (spans (byteLength source) ds).foldl (p.writeSpan source) {}
  let l := if source.getLast? = some '\n' ∧ l.current.isEmpty then l else l.endLine
  l.finished.reverse

/-- The number of the next line. Numbers are signed machine words: the greatest is followed by the
least. -/
def nextNumber (n : Int) : Int := (n + 1).bmod UInt64.size

/-- Wraps lines, numbered if the page says so. -/
def wrapLines (number : Option Int) : List String → String
  | [] => ""
  | line :: rest =>
    let shown := match number with
      | some n => "<span class=\"arancio-ln\">" ++ toString n ++ "</span>"
      | none => ""
    "<span class=\"arancio-l\">" ++ shown ++ line ++ "</span>"
      ++ wrapLines (number.map nextNumber) rest

/-- A data attribute. -/
def dataAttribute (name value : String) : String :=
  "data-" ++ name ++ "=\"" ++ String.ofList (escape value.toList) ++ "\""

/-- The data attributes: the language, and then the metadata sorted by key. -/
def attributes (p : Page) (language : String) : String :=
  " ".intercalate (dataAttribute "lang" language
    :: (p.metadata.mergeSort (fun a b => decide (a.1 ≤ b.1))).map fun (key, value) =>
      dataAttribute (slug key) value)

/-- Renders a decorated text. -/
def render (p : Page) (language source : String) (ds : List Decoration) : String :=
  "<pre class=\"arancio\"><code " ++ p.attributes language ++ ">"
    ++ wrapLines p.firstLine (p.lines source.toList ds) ++ "</code></pre>"

end Page

end Tincture.Html
