import Tincture.Describe
import Tincture.Main
import Tincture.Proofs.Outcome
import Tincture.Proofs.Text.Utf8
import Tincture.Proofs.Text.Digit
import Tincture.Proofs.Text.Ascii
import Tincture.Proofs.Text.Bytes
import Tincture.Proofs.Text.CodeSet
import Tincture.Proofs.Text.Fold
import Tincture.Proofs.Decoration.Painting
import Tincture.Proofs.Decoration.Simplify
import Tincture.Proofs.Lexer.Partition
import Tincture.Proofs.Lexer.Parts
import Tincture.Proofs.Lexer.Shortcuts
import Tincture.Proofs.Lexer.Decision
import Tincture.Proofs.Lexer.Faults
import Tincture.Proofs.Scan.Uncached
import Tincture.Proofs.Scan.Reference
import Tincture.Proofs.Scan.Coverage
import Tincture.Proofs.Registry.Entries
import Tincture.Proofs.Language.BuiltinRules
import Tincture.Proofs.Registry.FirstWins
import Tincture.Proofs.Regex.Locality
import Tincture.Proofs.Regex.Outline
import Tincture.Proofs.Regex.Enclosure
import Tincture.Proofs.Union.Sturdy
import Tincture.Proofs.Lexer.Compiling
import Tincture.Proofs.Language.KeywordPattern
import Tincture.Proofs.Language.OptionRules
import Tincture.Proofs.Language.KeywordCoding
import Tincture.Proofs.Language.StyleName
import Tincture.Proofs.Json.Reading
import Tincture.Proofs.Json.Fields
import Tincture.Proofs.Language.RoundTrip
import Tincture.Proofs.Dump.Records
import Tincture.Proofs.Dump.Reload
import Tincture.Proofs.Scan.Caching
import Tincture.Proofs.Scan.Reach
import Tincture.Proofs.Regex.Way
import Tincture.Proofs.Regex.Walk
import Tincture.Proofs.Regex.Alike
import Tincture.Proofs.Regex.ClassBody
import Tincture.Proofs.Regex.Atom
import Tincture.Proofs.Regex.Phrase
import Tincture.Proofs.Regex.NamedClass
import Tincture.Proofs.Regex.WhiteSpace
import Tincture.Proofs.Regex.AsciiText
import Tincture.Proofs.Regex.Tandem
import Tincture.Proofs.Union.Anything
import Tincture.Proofs.Union.Rewriting
import Tincture.Proofs.Union.FirstAlternative
import Tincture.Proofs.Union.Ranges
import Tincture.Proofs.Union.ClassReading
import Tincture.Proofs.Union.BothCases
import Tincture.Proofs.Regex.Nesting
import Tincture.Proofs.Union.Leading
import Tincture.Proofs.Union.Octal
import Tincture.Proofs.Union.Cutting
import Tincture.Proofs.Union.PartRanges
import Tincture.Proofs.Union.Delimiters
import Tincture.Proofs.Union.Marks
import Tincture.Proofs.Union.References
import Tincture.Proofs.Union.Independence
import Tincture.Proofs.Union.TameClass
import Tincture.Proofs.Union.ClassMeaning
import Tincture.Proofs.Union.Refusal
import Tincture.Proofs.Union.CaseFolding
import Tincture.Proofs.Html.Escape
import Tincture.Proofs.Html.Block
import Tincture.Proofs.Html.Lines
import Tincture.Proofs.Html.Rendering
import Tincture.Proofs.Language.KeywordSplitting
import Tincture.Proofs.Language.KeywordMatching
import Tincture.Proofs.Language.OneToken
import Tincture.Proofs.Language.Spacing
import Tincture.Proofs.Scan.Shifting
import Tincture.Proofs.Scan.Growth
import Tincture.Proofs.Union.TokenRanges
import Tincture.Proofs.Registry.Reordering
import Tincture.Proofs.CommandLine.BuildOrder
