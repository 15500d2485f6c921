/-!
What can be wrong with the text of a regular expression.
-/

namespace Tincture.Regex

/-- A fault in the text of a regular expression. -/
inductive Fault where
  | endAtEscape
  | endAtControl
  | endInGroup
  | unmatchedOpen
  | unmatchedClose
  | undefinedGroupOption
  | emptyClass
  | openClass
  | emptyRange
  | classEndsRange
  | missingTarget
  | reversedBounds
  | bigRepeat
  | bigNumber
  | invalidCodePoint
  | shortSequence
  | invalidReference
  | invalidLookBehind
  | invalidProperty (name : String)
deriving DecidableEq

/-- The wording of a fault. -/
def Fault.message : Fault → String
  | .endAtEscape => "end pattern at escape"
  | .endAtControl => "end pattern at control"
  | .endInGroup => "end pattern in group"
  | .unmatchedOpen => "end pattern with unmatched parenthesis"
  | .unmatchedClose => "unmatched close parenthesis"
  | .undefinedGroupOption => "undefined group option"
  | .emptyClass => "empty char-class"
  | .openClass => "premature end of char-class"
  | .emptyRange => "empty range in char class"
  | .classEndsRange => "char-class value at end of range"
  | .missingTarget => "target of repeat operator is not specified"
  | .reversedBounds => "upper is smaller than lower in repeat range"
  | .bigRepeat => "too big number for repeat range"
  | .bigNumber => "too big number"
  | .invalidCodePoint => "invalid code point value"
  | .shortSequence => "too short multibyte code string"
  | .invalidReference => "invalid backref number/name"
  | .invalidLookBehind => "invalid pattern in look-behind"
  | .invalidProperty name => "invalid character property name \x7b" ++ name ++ "\x7d"

end Tincture.Regex
