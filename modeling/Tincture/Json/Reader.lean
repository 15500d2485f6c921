import Tincture.Json.Token

/-!
Reading JSON documents.

The containers that are still open stand on a stack, and each token takes the reader from one
phase to the next, so documents of any depth are read. `Json.parse?` accepts a document exactly when
the last token leaves a complete value and an empty stack.
-/

namespace Tincture.Json

/-- The fields of an object. -/
abbrev Fields := List (Option String × Json)

/-- A container that waits for the value being read; what it holds already is in reverse. -/
inductive Frame where
  | list (items : List Json)
  | record (fields : Fields) (key : Option String)

/-- What the reader has just seen and may see next. -/
inductive Phase where
  /-- A value must come. -/
  | value
  /-- A list has been opened: a value or its end must come. -/
  | listStart
  /-- An object has been opened: a key or its end must come. -/
  | recordStart
  /-- A key must come, after the fields so far. -/
  | key (fields : Fields)
  /-- A colon must come, after this key. -/
  | colon (fields : Fields) (key : Option String)
  /-- A value is complete. -/
  | ended (value : Json)

/-- The state of the reader. -/
structure Progress where
  frames : List Frame
  phase : Phase

namespace Progress

/-- Begins a value with a token, if it can begin one. -/
def begin? (frames : List Frame) : Token → Option Progress
  | .openList => some ⟨.list [] :: frames, .listStart⟩
  | .openRecord => some ⟨frames, .recordStart⟩
  | .text content => some ⟨frames, .ended (.text content)⟩
  | .atom value => some ⟨frames, .ended value⟩
  | _ => none

/-- Goes on after a complete value. -/
def resume? (value : Json) : List Frame → Token → Option Progress
  | .list items :: frames, .comma => some ⟨.list (value :: items) :: frames, .value⟩
  | .list items :: frames, .closeList => some ⟨frames, .ended (.list (value :: items).reverse)⟩
  | .record fields key :: frames, .comma => some ⟨frames, .key ((key, value) :: fields)⟩
  | .record fields key :: frames, .closeRecord =>
    some ⟨frames, .ended (.record ((key, value) :: fields).reverse)⟩
  | _, _ => none

/-- Takes one token. -/
def step? (p : Progress) (token : Token) : Option Progress :=
  match p.phase with
  | .value => begin? p.frames token
  | .listStart =>
    match token with
    | .closeList => some ⟨p.frames.tail, .ended (.list [])⟩
    | _ => begin? p.frames token
  | .recordStart =>
    match token with
    | .closeRecord => some ⟨p.frames, .ended (.record [])⟩
    | .text key => some ⟨p.frames, .colon [] key⟩
    | _ => none
  | .key fields =>
    match token with
    | .text key => some ⟨p.frames, .colon fields key⟩
    | _ => none
  | .colon fields key =>
    match token with
    | .colon => some ⟨.record fields key :: p.frames, .value⟩
    | _ => none
  | .ended value => resume? value p.frames token

/-- The value read, if it is complete. -/
def finish? (p : Progress) : Option Json :=
  match p.frames, p.phase with
  | [], .ended value => some value
  | _, _ => none

end Progress

/-- The value of a document; `none` when it is malformed. -/
def parse? (document : String) : Option Json := do
  let tokens ← Token.scan document.toList
  let progress ← tokens.foldlM Progress.step? ⟨[], .value⟩
  progress.finish?

end Tincture.Json
