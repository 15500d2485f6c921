import Tincture.Proofs.Html.Escape

/-!
The form of a block of code.

A block has attributes and lines, a line may have a number and has styled pieces. `Block.text`
writes this structure out. Each part shows by itself where it ends (`PrefixCode`): texts are inert,
so a part ends at the first quote or bracket after them, and what follows the last part of a list
cannot begin another one. Hence a text is that of one proper block at most (`Block.text_injective`).
-/

namespace Tincture.Html

/-! ### Texts that show where they end -/

/-- The text of a proper value tells the value, and where the text ends, whatever follows it. -/
def PrefixCode {α : Type} (proper : α → Prop) (text : α → List Char) : Prop :=
  ∀ ⦃a b : α⦄, proper a → proper b → ∀ ⦃r s : List Char⦄, text a ++ r = text b ++ s → a = b ∧ r = s

/-- Two texts that are cut at the first occurrence of a character. -/
theorem cut_at {c : Char} {cs ds r s : List Char} (hc : c ∉ cs) (hd : c ∉ ds)
    (h : cs ++ c :: r = ds ++ c :: s) : cs = ds ∧ r = s := by
  induction cs generalizing ds with
  | nil =>
    cases ds with
    | nil => exact ⟨rfl, List.tail_eq_of_cons_eq h⟩
    | cons d ds => exact absurd (List.head_eq_of_cons_eq h ▸ List.mem_cons_self) hd
  | cons x cs ih =>
    cases ds with
    | nil => exact absurd (List.head_eq_of_cons_eq h ▸ List.mem_cons_self) hc
    | cons y ds =>
      obtain ⟨rfl, tails⟩ := List.cons.inj h
      obtain ⟨rfl, rest⟩ := ih (fun mem => hc (List.mem_cons_of_mem x mem))
        (fun mem => hd (List.mem_cons_of_mem x mem)) tails
      exact ⟨rfl, rest⟩

/-- A list shows where it ends if its items do and none of them begins like what closes the list. -/
theorem PrefixCode.list {α : Type} {proper : α → Prop} {text : α → List Char}
    (h : PrefixCode proper text) (closing : List Char)
    (apart : ∀ a r s, text a ++ r ≠ closing ++ s) :
    PrefixCode (fun as : List α => ∀ a ∈ as, proper a) (fun as => as.flatMap text ++ closing) := by
  intro as bs ha hb r s eq
  simp only [List.append_assoc] at eq
  induction as generalizing bs with
  | nil =>
    cases bs with
    | nil => exact ⟨rfl, List.append_cancel_left eq⟩
    | cons b bs =>
      rw [List.flatMap_nil, List.nil_append, List.flatMap_cons, List.append_assoc] at eq
      exact absurd eq.symm (apart b _ r)
  | cons a as ih =>
    rw [List.flatMap_cons, List.append_assoc] at eq
    cases bs with
    | nil => exact absurd eq (apart a _ s)
    | cons b bs =>
      obtain ⟨own, others⟩ := List.forall_mem_cons.mp ha
      obtain ⟨own', others'⟩ := List.forall_mem_cons.mp hb
      rw [List.flatMap_cons, List.append_assoc] at eq
      obtain ⟨rfl, tails⟩ := h own own' eq
      obtain ⟨rfl, rest⟩ := ih others others' tails
      exact ⟨rfl, rest⟩

/-! ### Pieces of a line -/

/-- A span with a class and text as it is written. -/
structure Styled where
  cls : List Char
  raw : List Char
deriving DecidableEq

namespace Styled

/-- The span as it is written. -/
def text (s : Styled) : List Char :=
  "<span class=\"".toList ++ s.cls ++ "\">".toList ++ s.raw ++ "</span>".toList

/-- Neither the class nor the text of the span can end it. -/
structure Proper (s : Styled) : Prop where
  cls : Plain s.cls
  raw : Inert s.raw

/-- The characters the span stands for, with its class. -/
def read? (s : Styled) : Option (List (Char × List Char)) :=
  (unescape? s.raw).map fun cs => cs.map (·, s.cls)

end Styled

theorem Styled.prefixCode : PrefixCode Styled.Proper Styled.text := by
  rintro ⟨cls, raw⟩ ⟨cls', raw'⟩ ha hb r s eq
  unfold text at eq
  simp only [String.reduceToList, List.append_assoc, List.cons_append, List.nil_append,
    List.cons.injEq, true_and] at eq
  obtain ⟨rfl, fromRaw⟩ := cut_at (c := '"') (ha.cls.not_mem rfl) (hb.cls.not_mem rfl) eq
  simp only [List.cons.injEq, true_and] at fromRaw
  obtain ⟨rfl, rest⟩ := cut_at (c := '<') (ha.raw.not_mem rfl (by decide))
    (hb.raw.not_mem rfl (by decide)) fromRaw
  simp only [List.cons.injEq, true_and] at rest
  exact ⟨rfl, rest⟩

/-! ### Lines -/

/-- A line: its number as it is written, if it has one, and its pieces. -/
structure Line where
  number : Option (List Char)
  pieces : List Styled
deriving DecidableEq

namespace Line

/-- The class of the span that holds the number. -/
def numberClass : List Char := "arancio-ln".toList

/-- The spans in a line. -/
def content (l : Line) : List Styled :=
  l.number.toList.map (⟨numberClass, ·⟩) ++ l.pieces

/-- The line as it is written. -/
def text (l : Line) : List Char :=
  "<span class=\"arancio-l\">".toList ++ l.content.flatMap Styled.text ++ "</span>".toList

/-- No piece can end the line or be taken for its number. -/
structure Proper (l : Line) : Prop where
  number : ∀ n ∈ l.number, Inert n
  pieces : ∀ s ∈ l.pieces, s.Proper ∧ s.cls ≠ numberClass

/-- The characters the pieces stand for, with their classes. -/
def read? (l : Line) : Option (List (Char × List Char)) :=
  (l.pieces.mapM Styled.read?).map List.flatten

theorem Proper.content {l : Line} (h : l.Proper) : ∀ s ∈ l.content, s.Proper := by
  intro s mem
  rcases List.mem_append.mp mem with mem | mem
  · obtain ⟨n, own, rfl⟩ := List.mem_map.mp mem
    have plain : Plain numberClass := by decide
    exact ⟨plain, h.number n (Option.mem_toList.mp own)⟩
  · exact (h.pieces s mem).1

/-- The content of a line tells its number from its pieces. -/
theorem Proper.content_injective {l m : Line} (hl : l.Proper) (hm : m.Proper)
    (eq : l.content = m.content) : l = m := by
  obtain ⟨number, pieces⟩ := l
  obtain ⟨number', pieces'⟩ := m
  have head {n : List Char} {ss ts : List Styled} (eq : ⟨numberClass, n⟩ :: ss = ts)
      (unnumbered : ∀ s ∈ ts, s.Proper ∧ s.cls ≠ numberClass) : False :=
    (unnumbered ⟨numberClass, n⟩ (eq ▸ List.mem_cons_self)).2 rfl
  cases number with
  | none =>
    cases number' with
    | none => exact congrArg (Line.mk none) eq
    | some n' => exact (head eq.symm hl.pieces).elim
  | some n =>
    cases number' with
    | none => exact (head eq hm.pieces).elim
    | some n' =>
      obtain ⟨first, rest⟩ := List.cons.inj eq
      rw [(Styled.mk.inj first).2]
      exact congrArg (Line.mk _) rest

theorem prefixCode : PrefixCode Proper text := by
  intro l m hl hm r s eq
  have content : PrefixCode (fun ss : List Styled => ∀ s ∈ ss, s.Proper)
      (fun ss => ss.flatMap Styled.text ++ "</span>".toList) :=
    Styled.prefixCode.list "</span>".toList fun s r z => by
      unfold Styled.text
      simp
  unfold text at eq
  simp only [List.append_assoc] at eq
  have fromContent := List.append_cancel_left eq
  rw [← List.append_assoc, ← List.append_assoc] at fromContent
  obtain ⟨same, rest⟩ := content hl.content hm.content fromContent
  exact ⟨hl.content_injective hm same, rest⟩

end Line

/-! ### Blocks -/

/-- A data attribute: its name, and its value as it is written. -/
structure Attribute where
  name : List Char
  raw : List Char
deriving DecidableEq

namespace Attribute

/-- The attribute as it is written, with the blank before it. -/
def text (a : Attribute) : List Char :=
  " data-".toList ++ a.name ++ "=\"".toList ++ a.raw ++ "\"".toList

/-- Neither the name nor the value can end the attribute. -/
structure Proper (a : Attribute) : Prop where
  name : Plain a.name ∧ '=' ∉ a.name ∧ ' ' ∉ a.name
  raw : Inert a.raw

/-- The name, and what the value stands for. -/
def read? (a : Attribute) : Option (String × String) :=
  (unescape? a.raw).map fun value => (String.ofList a.name, String.ofList value)

theorem prefixCode : PrefixCode Proper text := by
  rintro ⟨name, raw⟩ ⟨name', raw'⟩ ha hb r s eq
  unfold text at eq
  simp only [String.reduceToList, List.append_assoc, List.cons_append, List.nil_append,
    List.cons.injEq, true_and] at eq
  obtain ⟨rfl, fromRaw⟩ := cut_at (c := '=') ha.name.2.1 hb.name.2.1 eq
  simp only [List.cons.injEq, true_and] at fromRaw
  obtain ⟨rfl, rest⟩ := cut_at (c := '"') (ha.raw.not_mem rfl (by decide))
    (hb.raw.not_mem rfl (by decide)) fromRaw
  exact ⟨rfl, rest⟩

end Attribute

/-- A block of code. -/
structure Block where
  attributes : List Attribute
  lines : List Line
deriving DecidableEq

namespace Block

/-- The block as it is written. -/
def text (b : Block) : List Char :=
  "<pre class=\"arancio\"><code".toList ++ b.attributes.flatMap Attribute.text ++ ">".toList
    ++ b.lines.flatMap Line.text ++ "</code></pre>".toList

/-- Nothing in the block can end the part it belongs to. -/
structure Proper (b : Block) : Prop where
  attributes : ∀ a ∈ b.attributes, a.Proper
  lines : ∀ l ∈ b.lines, l.Proper

/-- A text can be read as a block in one way only. -/
theorem text_injective {a b : Block} (ha : a.Proper) (hb : b.Proper) (eq : a.text = b.text) :
    a = b := by
  have attributes : PrefixCode (fun as : List Attribute => ∀ a ∈ as, a.Proper)
      (fun as => as.flatMap Attribute.text ++ ">".toList) :=
    Attribute.prefixCode.list ">".toList fun a r z => by
      unfold Attribute.text
      simp
  have lines : PrefixCode (fun ls : List Line => ∀ l ∈ ls, l.Proper)
      (fun ls => ls.flatMap Line.text ++ "</code></pre>".toList) :=
    Line.prefixCode.list "</code></pre>".toList fun l r z => by
      unfold Line.text
      simp
  obtain ⟨as, ls⟩ := a
  obtain ⟨bs, ms⟩ := b
  unfold text at eq
  simp only [List.append_assoc] at eq
  have fromAttributes := List.append_cancel_left eq
  rw [← List.append_assoc, ← List.append_assoc (bs.flatMap Attribute.text)] at fromAttributes
  obtain ⟨rfl, fromLines⟩ := attributes ha.attributes hb.attributes fromAttributes
  rw [← List.append_nil (ls.flatMap Line.text ++ _),
    ← List.append_nil (ms.flatMap Line.text ++ _)] at fromLines
  obtain ⟨rfl, -⟩ := lines ha.lines hb.lines fromLines
  rfl

end Block

end Tincture.Html
