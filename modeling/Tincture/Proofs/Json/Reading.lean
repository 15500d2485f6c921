import Mathlib.Data.List.Basic
import Tincture.Json.Printer
import Tincture.Json.Reader
import Tincture.Proofs.Text.Digit

/-!
Documents that are written on one line and read again.

What is written of a value is cut into the same tokens whatever follows it (`Cut`), and these tokens
take the reader from where a value must come to where that value is complete (`Reads`). Both hold of
a list or an object if they hold of its parts: the reader passes from part to part in the same
manner (`Passage`). So they hold of every value made of words, strings, lists and objects
(`Wordy.spelled`).
-/

namespace Tincture.Json

namespace Token

/-! ### Strings -/

theorem Draft.pushUnit_toNat {d : Draft} (whole : d.half = none) {c : Char}
    (low : c.toNat < 0xD800) : d.pushUnit c.toNat = d.push c := by
  rw [pushUnit, whole]
  dsimp only
  rw [if_neg (by omega), if_neg (by omega), Char.ofNat_toNat]

/-- A character that is written is read as itself. -/
theorem text?_escape {d : Draft} (whole : d.half = none) (c : Char) (rest : List Char) :
    text? d (escape c ++ rest) = text? (d.push c) rest := by
  unfold escape
  split
  any_goals rfl
  rename_i quote backslash _ _ _ _ _
  split
  · rename_i small
    have two : 1 < 16 := by decide
    have same : numeral 16 (digits 16 4 c.toNat) = c.toNat := numeral_digits two (by decide) ..
    have valid : (digits 16 4 c.toNat).all (isDigitIn 16) = true :=
      List.all_eq_true.mpr (isDigitIn_of_mem_digits two (by decide))
    have length : (digits 16 4 c.toNat).length = 4 :=
      length_digits two (by decide) (show c.toNat < 0x10000 by omega)
    match digits 16 4 c.toNat, length, same, valid with
    | [x, y, z, w], _, same, valid =>
      rw [List.append_assoc, List.cons_append, List.cons_append, List.nil_append, List.cons_append,
        List.cons_append, List.cons_append, List.cons_append, List.nil_append, text?, if_pos valid,
        same, Draft.pushUnit_toNat whole (by omega)]
  · rename_i large
    have plain : (decide (c.toNat < 32) || c == '\\') = false := by
      rw [decide_eq_false large, Bool.false_or, beq_eq_false_iff_ne]
      exact backslash
    rw [List.singleton_append, text?, plain]
    · rfl
    · exact quote
    · exact fun _ _ _ _ _ eq _ => backslash eq
    · exact fun _ _ eq _ => backslash eq

/-- The characters of a string, up to the quote that closes it. -/
theorem text?_flatMap_escape {done cs rest : List Char} :
    text? { chars := some done } (cs.flatMap escape ++ '"' :: rest) =
      some (.text (some (String.ofList (done.reverse ++ cs))), rest) := by
  induction cs generalizing done with
  | nil =>
    rw [List.append_nil]
    rfl
  | cons c cs ih =>
    have next : Draft.push { chars := some done } c = { chars := some (c :: done) } := rfl
    rw [List.flatMap_cons, List.append_assoc, text?_escape rfl, next, ih, List.reverse_cons,
      List.append_assoc, List.singleton_append]

/-! ### Cutting -/

/-- The characters are these tokens, whatever follows. -/
def Cut (cs : List Char) (ts : List Token) : Prop :=
  ∀ rest, scan (cs ++ rest) = (scan rest).map (ts ++ ·)

theorem Cut.append {cs ds : List Char} {ts us : List Token} (first : Cut cs ts)
    (second : Cut ds us) : Cut (cs ++ ds) (ts ++ us) := by
  intro rest
  rw [List.append_assoc, first, second, Option.map_map]
  congr 1
  funext vs
  rw [Function.comp_apply, List.append_assoc]

theorem Cut.scan {cs : List Char} {ts : List Token} (cut : Cut cs ts) : scan cs = some ts := by
  have nothing : Token.scan [] = some [] := by
    rw [Token.scan]
    rfl
  have whole := cut []
  rwa [List.append_nil, nothing, Option.map_some, List.append_nil] at whole

theorem scan_cons {c : Char} {token : Token} {cs after : List Char} (solid : isBlank c = false)
    (next : next? (c :: cs) = some (token, after)) (shorter : after.length ≤ cs.length) :
    Token.scan (c :: cs) = (Token.scan after).map (token :: ·) := by
  rw [Token.scan, List.dropWhile_cons_of_neg (by rw [solid]; exact Bool.false_ne_true)]
  dsimp only
  rw [next]
  dsimp only
  rw [if_pos (by rw [List.length_cons]; omega)]

/-- One token. -/
theorem Cut.one {c : Char} {cs : List Char} {token : Token} (solid : isBlank c = false)
    (next : ∀ rest, next? (c :: (cs ++ rest)) = some (token, rest)) : Cut (c :: cs) [token] :=
  fun rest => scan_cons solid (next rest) (List.suffix_append cs rest).length_le

theorem cut_quote (s : String) : Cut (quote s).toList [.text (some s)] := by
  rw [quote, String.toList_ofList, List.cons_append]
  refine .one rfl fun rest => ?_
  rw [List.append_assoc, next?, List.singleton_append]
  exact text?_flatMap_escape.trans (by rw [List.reverse_nil, List.nil_append, String.ofList_toList])

end Token

/-! ### Values -/

/-- A value made of words, strings, lists and objects; it has no number, and each of its strings
stands for a text. -/
inductive Wordy : Json → Prop
  | null : Wordy .null
  | bool (value : Bool) : Wordy (.bool value)
  | string (s : String) : Wordy (string s)
  | list {items : List Json} (parts : ∀ item ∈ items, Wordy item) : Wordy (.list items)
  | object {fields : List (String × Json)} (parts : ∀ field ∈ fields, Wordy field.2) :
    Wordy (object fields)

/-- The reader after taking tokens. -/
def Progress.run? (p : Progress) (ts : List Token) : Option Progress := ts.foldlM step? p

theorem Progress.run?_append {p q : Progress} {ts : List Token} (h : p.run? ts = some q)
    (us : List Token) : p.run? (ts ++ us) = q.run? us := by
  rw [run?] at h
  rw [run?, List.foldlM_append, h]
  rfl

/-- The tokens take the reader over the value. -/
def Reads (ts : List Token) (j : Json) : Prop :=
  ∀ frames, Progress.run? ⟨frames, .value⟩ ts = some ⟨frames, .ended j⟩

/-- What is written of the value is cut into tokens that are read as the value. -/
def Spelled (j : Json) : Prop :=
  ∃ ts, Token.Cut j.compact.toList ts ∧ Reads ts j

/-! ### Parts between commas -/

open Token Progress

/-- How the reader passes through the parts of a container: where a part must come, the parts before
it being held in reverse, where one has just been read, and where the container has ended. -/
structure Passage (α : Type) where
  start : List Frame → List α → Progress
  behind : List Frame → List α → α → Progress
  finish : List Frame → List α → Progress
  closing : Token
  comma : ∀ frames done a, (behind frames done a).step? .comma = some (start frames (a :: done))
  close : ∀ frames done a,
    (behind frames done a).step? closing = some (finish frames (a :: done).reverse)

/-- Parts that are spelled one by one are spelled with commas between them. -/
theorem Passage.spelled {α : Type} (w : Passage α) {write : α → String} {parts : List α}
    (nonempty : parts ≠ [])
    (h : ∀ a ∈ parts, ∃ ts, Cut (write a).toList ts ∧
      ∀ frames done, run? (w.start frames done) ts = some (w.behind frames done a)) :
    ∃ ts, Cut (",".intercalate (parts.map write)).toList ts ∧
      ∀ frames done, run? (w.start frames done) (ts ++ [w.closing]) =
        some (w.finish frames (done.reverse ++ parts)) := by
  have cut_comma : Cut ",".toList [.comma] := .one rfl fun _ => rfl
  induction parts with
  | nil => exact absurd rfl nonempty
  | cons a rest ih =>
    obtain ⟨⟨ts, cut, reads⟩, others⟩ := List.forall_mem_cons.mp h
    cases rest with
    | nil =>
      refine ⟨ts, ?_, fun frames done => ?_⟩
      · rwa [List.map_singleton, String.intercalate_singleton]
      · rw [run?_append (reads frames done), run?, List.foldlM_cons, w.close, List.reverse_cons]
        rfl
    | cons next rest =>
      obtain ⟨us, cutRest, readsRest⟩ := ih (List.cons_ne_nil _ _) others
      refine ⟨ts ++ ([.comma] ++ us), ?_, fun frames done => ?_⟩
      · rw [List.map_cons, List.map_cons, String.intercalate_cons_cons, String.toList_append,
          String.toList_append, List.append_assoc]
        exact cut.append (cut_comma.append cutRest)
      · have following := readsRest frames (a :: done)
        rw [List.reverse_cons, List.append_assoc, List.singleton_append] at following
        rw [List.append_assoc, List.append_assoc, run?_append (reads frames done), run?,
          List.singleton_append, List.foldlM_cons, w.comma]
        exact following

/-! ### Lists -/

/-- Where a list has just been opened, its first item may come. -/
theorem run?_listStart {ts : List Token} {frames : List Frame} {p : Progress} (nonempty : ts ≠ [])
    (h : run? ⟨frames, .value⟩ ts = some p) : run? ⟨frames, .listStart⟩ ts = some p := by
  cases ts with
  | nil => exact absurd rfl nonempty
  | cons t ts =>
    rw [run?, List.foldlM_cons] at h ⊢
    cases t with
    | closeList => cases h
    | _ => exact h

/-- Through the items of a list. -/
def Passage.items : Passage Json where
  start frames done := ⟨.list done :: frames, .value⟩
  behind frames done item := ⟨.list done :: frames, .ended item⟩
  finish frames items := ⟨frames, .ended (.list items)⟩
  closing := .closeList
  comma _ _ _ := rfl
  close _ _ _ := rfl

theorem compactItems_eq_map (items : List Json) : compactItems items = items.map compact := by
  induction items with
  | nil => rfl
  | cons item rest ih => rw [compactItems, ih, List.map_cons]

theorem spelled_list {parts : List Json} (h : ∀ item ∈ parts, Spelled item) :
    Spelled (.list parts) := by
  have opening : Cut "[".toList [.openList] := .one rfl fun _ => rfl
  have closing : Cut "]".toList [.closeList] := .one rfl fun _ => rfl
  obtain ⟨ts, cut, reads⟩ : ∃ ts, Cut (",".intercalate (parts.map compact)).toList ts ∧
      ∀ frames, run? ⟨.list [] :: frames, .listStart⟩ (ts ++ [.closeList]) =
        some ⟨frames, .ended (.list parts)⟩ := by
    cases parts with
    | nil => exact ⟨[], fun rest => by simp, fun frames => rfl⟩
    | cons item rest =>
      have nonempty := List.cons_ne_nil item rest
      obtain ⟨ts, cut, reads⟩ := Passage.items.spelled nonempty fun part mem => by
        obtain ⟨ts, cut, reads⟩ := h part mem
        exact ⟨ts, cut, fun frames done => reads (.list done :: frames)⟩
      refine ⟨ts, cut, fun frames => ?_⟩
      exact run?_listStart (List.append_ne_nil_of_right_ne_nil _ (List.cons_ne_nil _ _))
        (reads frames [])
  refine ⟨[.openList] ++ ts ++ [.closeList], ?_, fun frames => ?_⟩
  · rw [compact, compactItems_eq_map, String.toList_append, String.toList_append]
    exact (opening.append cut).append closing
  · rw [List.append_assoc]
    exact reads frames

/-! ### Objects -/

/-- Where an object has just been opened, its first field may come. -/
theorem run?_recordStart {ts : List Token} {frames : List Frame} {p : Progress}
    (nonempty : ts ≠ []) (h : run? ⟨frames, .key []⟩ ts = some p) :
    run? ⟨frames, .recordStart⟩ ts = some p := by
  cases ts with
  | nil => exact absurd rfl nonempty
  | cons t ts =>
    rw [run?, List.foldlM_cons] at h ⊢
    cases t with
    | text key => exact h
    | _ => cases h

/-- Through the fields of an object. -/
def Passage.fields : Passage (Option String × Json) where
  start frames done := ⟨frames, .key done⟩
  behind frames done field := ⟨.record done field.1 :: frames, .ended field.2⟩
  finish frames fields := ⟨frames, .ended (.record fields)⟩
  closing := .closeRecord
  comma _ _ _ := rfl
  close _ _ _ := rfl

/-- One field on a line. -/
def compactField (field : Option String × Json) : String :=
  quote (field.1.getD "") ++ ":" ++ compact field.2

theorem compactFields_eq_map (fields : Fields) :
    compactFields fields = fields.map compactField := by
  induction fields with
  | nil => rfl
  | cons field rest ih =>
    rw [compactFields, ih, List.map_cons]
    rfl

theorem spelled_field (key : String) {value : Json} (h : Spelled value) :
    ∃ ts, Cut (compactField (some key, value)).toList ts ∧ ∀ frames done,
      run? (Passage.fields.start frames done) ts =
        some (Passage.fields.behind frames done (some key, value)) := by
  obtain ⟨ts, cut, reads⟩ := h
  have colon : Cut ":".toList [.colon] := .one rfl fun _ => rfl
  refine ⟨[.text (some key)] ++ [.colon] ++ ts, ?_, fun frames done => ?_⟩
  · rw [compactField, String.toList_append, String.toList_append]
    exact ((cut_quote key).append colon).append cut
  · exact reads (.record done (some key) :: frames)

theorem spelled_object {fields : List (String × Json)}
    (h : ∀ field ∈ fields, Spelled field.2) : Spelled (object fields) := by
  have opening : Cut "\x7b".toList [.openRecord] := .one rfl fun _ => rfl
  have closing : Cut "\x7d".toList [.closeRecord] := .one rfl fun _ => rfl
  let parts : Fields := fields.map fun field => (some field.1, field.2)
  have spelled : ∀ part ∈ parts, ∃ ts, Cut (compactField part).toList ts ∧ ∀ frames done,
      run? (Passage.fields.start frames done) ts =
        some (Passage.fields.behind frames done part) := by
    intro part mem
    obtain ⟨field, own, rfl⟩ := List.mem_map.mp mem
    exact spelled_field field.1 (h field own)
  obtain ⟨ts, cut, reads⟩ : ∃ ts, Cut (",".intercalate (parts.map compactField)).toList ts ∧
      ∀ frames, run? ⟨frames, .recordStart⟩ (ts ++ [.closeRecord]) =
        some ⟨frames, .ended (.record parts)⟩ := by
    by_cases empty : parts = []
    · rw [empty]
      exact ⟨[], fun rest => by simp, fun frames => rfl⟩
    · obtain ⟨ts, cut, reads⟩ := Passage.fields.spelled empty spelled
      refine ⟨ts, cut, fun frames => ?_⟩
      exact run?_recordStart (List.append_ne_nil_of_right_ne_nil _ (List.cons_ne_nil _ _))
        (reads frames [])
  refine ⟨[.openRecord] ++ ts ++ [.closeRecord], ?_, fun frames => ?_⟩
  · rw [object, compact, compactFields_eq_map, String.toList_append, String.toList_append]
    exact (opening.append cut).append closing
  · rw [List.append_assoc]
    exact reads frames

/-! ### All values -/

theorem Wordy.spelled {j : Json} (h : Wordy j) : Spelled j := by
  induction h with
  | null => exact ⟨[.atom .null], .one rfl fun _ => rfl, fun _ => rfl⟩
  | bool value =>
    cases value
    · exact ⟨[.atom (.bool false)], .one rfl fun _ => rfl, fun _ => rfl⟩
    · exact ⟨[.atom (.bool true)], .one rfl fun _ => rfl, fun _ => rfl⟩
  | string s => exact ⟨[.text (some s)], cut_quote s, fun _ => rfl⟩
  | list _ ih => exact spelled_list ih
  | object _ ih => exact spelled_object ih

/-- A value that is written on one line is read again. -/
theorem Wordy.parse?_compact {j : Json} (h : Wordy j) : parse? j.compact = some j := by
  obtain ⟨ts, cut, reads⟩ := h.spelled
  have read : List.foldlM Progress.step? ⟨[], .value⟩ ts = some ⟨[], .ended j⟩ := reads []
  rw [parse?, cut.scan, Option.bind_eq_bind, Option.bind_some, read]
  rfl

end Tincture.Json
