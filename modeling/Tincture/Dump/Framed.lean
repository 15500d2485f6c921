import Tincture.Dump.Codec
import Tincture.Dump.Content
import Tincture.Dump.Frame

/-!
The format of dumps: records one after the other, in frames.

No record at all is a single zero byte; what holds records begins with a signature.
-/

namespace Tincture

namespace Dump

/-- Records of patterns. -/
def pattern : Codec PatternRecord :=
  (Codec.text.pair Codec.bool).via (fun p => (p.source, p.ignoreCase))
    (fun (source, ignoreCase) => some { source, ignoreCase }) fun _ => rfl

/-- Records of rules. -/
def rule : Codec RuleRecord :=
  (Codec.text.pair (pattern.pair (pattern.option.pair Codec.text.option))).via
    (fun r => (r.style, r.pattern, r.context, r.shortcut))
    (fun (style, pattern, context, shortcut) => some { style, pattern, context, shortcut })
    fun _ => rfl

/-- Records of languages. -/
def language : Codec LanguageRecord :=
  (Codec.text.list.pair (rule.list.pair rule.list)).via
    (fun l => (l.names, l.shortcuts, l.fallbacks))
    (fun (names, shortcuts, fallbacks) => some { names, shortcuts, fallbacks }) fun _ => rfl

/-- What records begin with. -/
def signature : List UInt8 := [0x74, 0x69, 0x6e, 0x63, 0x74]

/-- The bytes of records. -/
def encode : List LanguageRecord → List UInt8
  | [] => [0]
  | languages => signature ++ language.list.encode languages

/-- The records in bytes. -/
def decode? (bytes : List UInt8) : Option (List LanguageRecord) :=
  if bytes = [0] then some []
  else if bytes.take signature.length = signature then
    match language.list.decode? (bytes.drop signature.length) with
    | some (languages, []) => some languages
    | _ => none
  else none

theorem decode?_encode (languages : List LanguageRecord) :
    decode? (encode languages) = some languages := by
  cases languages with
  | nil => rfl
  | cons l ls =>
    have body := language.list.decode?_encode (l :: ls) []
    rw [List.append_nil] at body
    rw [encode, decode?, if_neg (by simp [signature]), if_pos List.take_left, List.drop_left, body]
    exact nofun

/-- Reads the records in frames. -/
def readFrames (bytes : List UInt8) : Except Error (List LanguageRecord) :=
  match Frame.unpack? bytes with
  | none => .error (.file .brokenFrame)
  | some content =>
    match decode? content with
    | none => .error .dump
    | some languages => .ok languages

/-- Records in frames. -/
def framed : Format where
  write languages := Frame.pack (encode languages)
  read := readFrames
  read_write languages := by rw [readFrames, Frame.unpack?_pack]; simp only [decode?_encode]

end Dump

namespace Registry

variable {E : Type} [Engine E]

/-- The bytes of a dump of the registry. -/
def dump (r : Registry E) (format : Dump.Format := Dump.framed) : List UInt8 :=
  format.write (Dump.records r.definitions)

/-- The frozen registry in the bytes of a dump. -/
def load (bytes : List UInt8) (format : Dump.Format := Dump.framed) :
    Except Error (Registry E) := do
  match Dump.definitions? (← format.read bytes) with
  | none => .error .dump
  | some ds => ofDefinitions ds

end Registry

end Tincture
