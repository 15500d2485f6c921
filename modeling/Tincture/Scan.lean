import Std.Data.HashMap
import Tincture.Decoration
import Tincture.Registry

/-!
Scanning.

A scan cuts a text into tokens and decorates each; a token with embedded text is cut in three, the
embedded part is scanned in its language and the parts around it once more in the same one. How deep
scans may nest is limited, and each text begins with a plain decoration, so that no tag runs on from
the text before.

The tags of tokens are remembered for each lexer throughout a scan.
-/

namespace Tincture

/-- How deep scans may nest. -/
def maxEmbeddingDepth : Nat := 64

/-- The tags of tokens met in a scan, by the key of the lexer and the token. -/
abbrev TagCache := Std.HashMap (Option Nat × String) Tag

namespace Scan

/-- Decorations, and the tags known after them. -/
abbrev Result := List Decoration × TagCache

variable {E : Type} [Engine E]

/-- Scans a text with a lexer from a position on. -/
abbrev Scanner (E : Type := Regex) := KeyedLexer E → List Char → Nat → TagCache → Result

/-- Classifies a token, by the tag that is known or else anew; a new tag is remembered. -/
def classify (l : KeyedLexer E) (token : List Char) (cache : TagCache) :
    Classification × TagCache :=
  let key := (l.key, String.ofList token)
  match cache[key]? with
  | some tag => (.terminal tag, cache)
  | none =>
    match l.lexer.classify token with
    | .terminal tag => (.terminal tag, cache.insert key tag)
    | other => (other, cache)

/-- Scans embedded text; without a lexer for it, it is plain. -/
def embedded (r : Registry E) (nested : Scanner E) (language : String) (text : List Char)
    (pos : Nat) (cache : TagCache) : Result :=
  match r.embedded? language text with
  | some l => nested l text pos cache
  | none => ([⟨pos, .plain⟩], cache)

/-- Scans text around embedded text, if there is any. -/
def around (nested : Scanner E) (l : KeyedLexer E) (text : List Char) (pos : Nat)
    (cache : TagCache) : Result :=
  if text.isEmpty then ([], cache) else nested l text pos cache

/-- Decorates one token. -/
def token (r : Registry E) (nested : Scanner E) (l : KeyedLexer E) (text : List Char) (pos : Nat)
    (cache : TagCache) : Result :=
  match classify l text cache with
  | (.terminal tag, cache) => ([⟨pos, tag⟩], cache)
  | (.embedded language start stop, cache) =>
    let before := text.take start
    let group := (text.take stop).drop start
    let after := text.drop stop
    let (first, cache) := around nested l before pos cache
    let inner := advance pos (byteLength before)
    let (second, cache) := embedded r nested language group inner cache
    let (third, cache) := around nested l after (advance inner (byteLength group)) cache
    (first ++ second ++ third, cache)

/-- Decorates tokens that follow one another. -/
def tokens (r : Registry E) (nested : Scanner E) (l : KeyedLexer E) :
    Nat → List (List Char) → TagCache → Result
  | _, [], cache => ([], cache)
  | pos, text :: rest, cache =>
    let (first, cache) := token r nested l text pos cache
    let (others, cache) := tokens r nested l (advance pos (byteLength text)) rest cache
    (first ++ others, cache)

/-- Scans a text with a lexer, `levels` levels of nesting being left, this one included. Text beyond
the last level is source. -/
def text (r : Registry E) : Nat → Scanner E
  | 0 => fun _ _ pos cache => ([⟨pos, .source⟩], cache)
  | levels + 1 => fun l source pos cache =>
    let (decorations, cache) := tokens r (text r levels) l pos (l.lexer.tokens source) cache
    (⟨pos, .plain⟩ :: decorations, cache)

/-- The decorations of a text before they are simplified. -/
def decorations (r : Registry E) (l : KeyedLexer E) (source : List Char) (pos : Nat) :
    List Decoration :=
  (text r (maxEmbeddingDepth + 1) l source pos ∅).1

/-- Scans a text with a lexer and simplifies its decorations. -/
def simplified (r : Registry E) (l : KeyedLexer E) (source : List Char) (pos : Nat) :
    List Decoration :=
  simplify (decorations r l source pos) (advance pos (byteLength source))

end Scan

namespace Registry

variable {E : Type} [Engine E]

/-- Scans a text with a lexer of its own; embedded languages are those of the registry. -/
def scanWith (r : Registry E) (lexer : Lexer E) (source : String) (base : Nat) :
    Except Error (List Decoration) :=
  if r.frozen then .ok (Scan.simplified r ⟨none, lexer⟩ source.toList base)
  else .error .notFrozen

/-- Scans a text in a language, positions counting from `base`. Without a lexer for it, all of it is
plain. -/
def scan (r : Registry E) (language source : String) (base : Nat) :
    Except Error (List Decoration) :=
  if r.frozen then
    match r.embedded? language source.toList with
    | some l => .ok (Scan.simplified r l source.toList base)
    | none => .ok (if source.isEmpty then [] else [⟨base, .plain⟩])
  else .error .notFrozen

end Registry

end Tincture
