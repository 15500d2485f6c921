import Tincture.Proofs.Html.Lines
import Tincture.Proofs.Scan.Coverage

/-!
Rendering that can be undone.

What is rendered is the text of one proper block, whatever the decorations are, so a reader finds in
it the language, the metadata and the lines with their characters and classes, and nothing that
stands in any of them can pass for markup (`render_block`). The decorations of a scan lose no
character, so the lines of the block make up the source.
-/

namespace Tincture.Html

/-! ### Attributes -/

/-- The attribute that is written for a name and a value. -/
def Attribute.of (entry : String × String) : Attribute :=
  ⟨entry.1.toList, escape entry.2.toList⟩

namespace Attribute

theorem read?_of (entry : String × String) : (of entry).read? = some entry := by
  rw [of, read?, unescape?_escape, Option.map_some, String.ofList_toList, String.ofList_toList]

theorem mapM_read?_of (entries : List (String × String)) :
    (entries.map of).mapM read? = some entries := by
  induction entries with
  | nil => rfl
  | cons entry rest ih =>
    rw [List.map_cons, List.mapM_cons, read?_of, ih]
    rfl

theorem text_of (entry : String × String) :
    (of entry).text = ' ' :: (Page.dataAttribute entry.1 entry.2).toList := by
  unfold text Page.dataAttribute
  simp [of]

end Attribute

/-- Texts with blanks between them, and one before the first. -/
theorem intercalate_blank (first : String) (rest : List String) :
    ' ' :: (" ".intercalate (first :: rest)).toList =
      (first :: rest).flatMap fun s => ' ' :: s.toList := by
  induction rest generalizing first with
  | nil => rw [String.intercalate_singleton, List.flatMap_singleton]
  | cons next rest ih =>
    rw [String.intercalate_cons_cons, String.toList_append, String.toList_append, List.append_assoc,
      List.flatMap_cons, ← ih next]
    rfl

/-- A slug has letters, numbers and dashes only. -/
theorem not_mem_slug (key : String) {c : Char} (other : isAlphanumeric c = false) (dash : c ≠ '-') :
    c ∉ (slug key).toList := by
  rw [slug, String.toList_ofList]
  intro mem
  obtain ⟨d, -, eq⟩ := List.mem_map.mp mem
  by_cases fits : (isAlphanumeric d || d == '-') = true
  · rw [if_pos fits] at eq
    rw [eq, other, Bool.false_or, beq_iff_eq] at fits
    exact dash fits
  · rw [if_neg fits] at eq
    exact dash eq.symm

/-- The name of a data attribute cannot end it. -/
theorem plain_slug (key : String) :
    Plain (slug key).toList ∧ '=' ∉ (slug key).toList ∧ ' ' ∉ (slug key).toList := by
  have others : ['<', '>', '&', '\'', '"', '=', ' '].all
      (fun c => !isAlphanumeric c && c != '-') = true := by decide +kernel
  have absent : ∀ c ∈ ['<', '>', '&', '\'', '"', '=', ' '], c ∉ (slug key).toList := by
    intro c mem
    have other := List.all_eq_true.mp others c mem
    rw [Bool.and_eq_true, Bool.not_eq_true', bne_iff_ne] at other
    exact not_mem_slug key other.1 other.2
  refine ⟨fun c mem => ?_, absent _ (by simp), absent _ (by simp)⟩
  by_contra special
  rw [Bool.not_eq_false, isSpecial_iff] at special
  rcases special with rfl | rfl | rfl | rfl | rfl <;> exact absent _ (by simp) mem

/-- The entries of the metadata by key. -/
def Page.entries (p : Page) : List (String × String) :=
  p.metadata.mergeSort fun a b => decide (a.1 ≤ b.1)

theorem Page.entries_ascending (p : Page) : p.entries.Pairwise (·.1 ≤ ·.1) := by
  refine (List.pairwise_mergeSort ?_ ?_ p.metadata).imp of_decide_eq_true
  · intro a b c ab bc
    exact decide_eq_true (String.le_trans (of_decide_eq_true ab) (of_decide_eq_true bc))
  · intro a b
    rw [Bool.or_eq_true, decide_eq_true_iff, decide_eq_true_iff]
    exact String.le_total a.1 b.1

/-- The attributes of the page, the language first. -/
def Page.attributesOf (p : Page) (language : String) : List Attribute :=
  (("lang", language) :: p.entries.map fun (key, value) => (slug key, value)).map Attribute.of

theorem Page.attributes_eq (p : Page) (language : String) :
    ' ' :: (p.attributes language).toList =
      (p.attributesOf language).flatMap Attribute.text := by
  unfold attributes attributesOf entries
  rw [intercalate_blank]
  simp only [List.map_cons, List.map_map, List.flatMap_cons, List.flatMap_map, Attribute.text_of,
    Function.comp_apply]

theorem Page.proper_attributes (p : Page) (language : String) :
    ∀ a ∈ p.attributesOf language, a.Proper := by
  intro a mem
  obtain ⟨⟨name, value⟩, own, rfl⟩ := List.mem_map.mp mem
  suffices plain : Plain name.toList ∧ '=' ∉ name.toList ∧ ' ' ∉ name.toList from
    ⟨plain, inert_escape _⟩
  rcases List.mem_cons.mp own with lang | own
  · rw [(Prod.mk.inj lang).1]
    decide
  · obtain ⟨source, -, eq⟩ := List.mem_map.mp own
    rw [← (Prod.mk.inj eq).1]
    exact plain_slug source.1

/-! ### The text of a scan -/

/-- Cutting drops no character but the line feeds. -/
theorem intercalate_cutLines (text : List (Char × Tag)) :
    ['\n'].intercalate ((cutLines text).map (·.map Prod.fst)) = text.map Prod.fst := by
  have cut : (cutLines text).map (·.map Prod.fst) = (text.map Prod.fst).splitOn '\n' := by
    unfold cutLines List.splitOn
    induction text with
    | nil => rfl
    | cons x text ih =>
      rw [List.map_cons, List.splitOnP_cons_eq_if_modifyHead, List.splitOnP_cons_eq_if_modifyHead,
        ← ih]
      change _ = if endsLine x = true then _ else _
      split
      · rfl
      · cases text.splitOnP endsLine <;> rfl
  rw [cut, List.intercalate_splitOn]

/-- The text without a line feed at its end. -/
def withoutFinal (source : List Char) : List Char :=
  if source.getLast? = some '\n' then source.dropLast else source

/-- The lines of a whole text, joined by line feeds, are that text up to a line feed at its end. -/
theorem intercalate_linesOf {source : List Char} {text : List (Char × Tag)}
    (whole : text.map Prod.fst = source) :
    ['\n'].intercalate ((linesOf source text).map (·.map Prod.fst)) = withoutFinal source := by
  unfold linesOf withoutFinal
  by_cases ended : source.getLast? = some '\n'
  · rcases List.eq_nil_or_concat text with rfl | ⟨text, ⟨c, tag⟩, rfl⟩
    · rw [← whole] at ended
      cases ended
    · rw [List.concat_eq_append, List.map_append, List.map_singleton] at whole
      rw [← whole, List.getLast?_concat, Option.some_inj] at ended
      obtain rfl : c = '\n' := ended
      rw [List.concat_eq_append, cutLines_lineFeed, ← whole, List.getLast?_concat,
        List.getLast?_concat, if_pos ⟨rfl, rfl⟩, if_pos rfl, List.dropLast_concat,
        List.dropLast_concat, intercalate_cutLines]
  · rw [if_neg ended, if_neg fun h => ended h.1, intercalate_cutLines, whole]

/-- If the first decoration stands behind `done`, the spans show the rest of the text. -/
theorem chars_of_spans {text done rest : List Char} {d : Decoration} {ds : List Decoration}
    (eq : text = done ++ rest) (first : d.position = byteLength done)
    (standing : ∀ e ∈ ds, ∃ before after, text = before ++ after ∧ e.position = byteLength before)
    (increasing : (d :: ds).Pairwise (·.position < ·.position)) :
    ((spans (byteLength text) (d :: ds)).flatMap fun s =>
      ((sliceBytes? text s.start s.stop).getD []).map (·, s.tag)).map Prod.fst = rest := by
  have chars (cs : List Char) (tag : Tag) : (cs.map (·, tag)).map Prod.fst = cs := by
    rw [List.map_map]
    exact List.map_id cs
  induction ds generalizing done rest d with
  | nil =>
    have slice : sliceBytes? text d.position (byteLength text) = some rest := by
      have piece := sliceBytes?_append done rest []
      rwa [List.append_nil, ← byteLength_append, ← eq, ← first] at piece
    rw [spans, nextPosition, List.flatMap_cons]
    dsimp only
    rw [slice, Option.getD_some, spans, List.flatMap_nil, List.append_nil, chars]
  | cons e ds ih =>
    obtain ⟨⟨before, after, eq', second⟩, others⟩ := List.forall_mem_cons.mp standing
    obtain ⟨later, rising⟩ := List.pairwise_cons.mp increasing
    have further : byteLength done < byteLength before := by
      rw [← first, ← second]
      exact later e List.mem_cons_self
    obtain ⟨piece, rfl, rfl⟩ : ∃ piece, before = done ++ piece ∧ rest = piece ++ after := by
      rcases List.append_eq_append_iff.mp (eq.symm.trans eq') with h | ⟨more, rfl, -⟩
      · exact h
      · rw [byteLength_append] at further
        omega
    have slice : sliceBytes? text d.position e.position = some piece := by
      rw [eq, first, second, byteLength_append, sliceBytes?_append]
    rw [spans, nextPosition, List.flatMap_cons, List.map_append, ih eq' second others rising]
    dsimp only
    rw [slice, Option.getD_some, chars]

/-- A scan of the text, in a language or with a lexer, gives the decorations. -/
def Scanned (r : Registry) (source : String) (ds : List Decoration) : Prop :=
  (∃ language, r.scan language source 0 = .ok ds) ∨ ∃ lexer, r.scanWith lexer source 0 = .ok ds

theorem Scanned.paints {r : Registry} {source : String} {ds : List Decoration}
    (h : Scanned r source ds) (fits : source.utf8ByteSize < positionLimit) :
    ∃ tags, Paints 0 source.toList tags ds ∧ Canonical (0 + byteLength source.toList) ds := by
  rw [← Nat.zero_add source.utf8ByteSize] at fits
  by_cases frozen : r.frozen = true
  · rcases h with ⟨language, scanned⟩ | ⟨lexer, scanned⟩
    · obtain ⟨es, scanned', paints⟩ := Scan.scan_paints frozen language fits
      obtain rfl := Except.ok.inj (scanned.symm.trans scanned')
      exact ⟨_, paints⟩
    · have known : Scan.Known r lexer ⟨none, lexer⟩ := rfl
      rw [Registry.scanWith, if_pos frozen] at scanned
      obtain rfl := Except.ok.inj scanned
      rw [← byteLength_toList] at fits
      exact ⟨_, Scan.simplified_paints known fits⟩
  · rcases h with ⟨language, scanned⟩ | ⟨lexer, scanned⟩
    · rw [Registry.scan, if_neg frozen] at scanned
      cases scanned
    · rw [Registry.scanWith, if_neg frozen] at scanned
      cases scanned

/-- The spans of a scan show its whole text. -/
theorem Scanned.chars_shown {r : Registry} {source : String} {ds : List Decoration}
    (h : Scanned r source ds) (fits : source.utf8ByteSize < positionLimit) :
    (shown source.toList ds).map Prod.fst = source.toList := by
  obtain ⟨tags, paints, canonical⟩ := h.paints fits
  have covers := paints.covers canonical
  cases ds with
  | nil => simp [shown, spans, covers.eq_nil_iff.mp rfl]
  | cons d ds =>
    refine chars_of_spans (List.nil_append _).symm (covers.first_eq d rfl) ?_ canonical.increasing
    intro e mem
    obtain ⟨before, after, eq, -, position⟩ := paints.standing e (List.mem_cons_of_mem d mem)
    exact ⟨before, after, eq, by rw [position, Nat.zero_add]⟩

/-! ### Rendering -/

theorem length_cutLines (text : List (Char × Tag)) :
    (cutLines text).length = text.countP endsLine + 1 := by
  unfold cutLines
  induction text with
  | nil => rfl
  | cons x text ih =>
    rw [List.splitOnP_cons_eq_if_modifyHead, List.countP_cons]
    split
    · rw [List.length_cons, ih]
    · rw [List.length_modifyHead, ih, Nat.add_zero]

theorem length_linesOf (source : List Char) (text : List (Char × Tag)) :
    (linesOf source text).length +
      (if source.getLast? = some '\n' ∧ (cutLines text).getLast? = some [] then 1 else 0) =
        text.countP endsLine + 1 := by
  rw [← length_cutLines, linesOf]
  have positive := length_cutLines text
  split
  · rw [List.length_dropLast]
    omega
  · rfl

namespace Block

/-- What a block tells of the text it was rendered from: the language, the metadata in the order of
the keys, and the lines with each character under the class of its tag. A line is what stands
between two line feeds, only that a source ending with one has no last line without characters. The
lines are numbered from the first one on, as far as there are numbers. -/
structure Tells (b : Block) (p : Page) (language : String) (source : List Char)
    (ds : List Decoration) : Prop where
  attributes : ∃ entries : List (String × String),
    entries.Perm p.metadata ∧ entries.Pairwise (·.1 ≤ ·.1) ∧
      b.attributes.mapM Attribute.read? =
        some (("lang", language) :: entries.map fun (key, value) => (slug key, value))
  lines : b.lines.mapM Line.read? = some ((linesOf source (shown source ds)).map p.classed)
  numbers : ∀ i (lt : i < b.lines.length),
    (∀ n ∈ p.firstLine, IsLineNumber n ∧ IsLineNumber (n + (i : Int))) →
      b.lines[i].number = p.firstLine.map fun n : Int => (toString (n + (i : Int))).toList
  count : b.lines.length + (if source.getLast? = some '\n' ∧
    (cutLines (shown source ds)).getLast? = some [] then 1 else 0) =
      (shown source ds).countP endsLine + 1

/-- The characters in the lines, with line feeds between them. -/
def chars? (b : Block) : Option (List Char) :=
  (b.lines.mapM Line.read?).map fun lines => ['\n'].intercalate (lines.map (·.map Prod.fst))

theorem Tells.chars? {b : Block} {p : Page} {language : String} {source : List Char}
    {ds : List Decoration} (h : b.Tells p language source ds)
    (whole : (shown source ds).map Prod.fst = source) : b.chars? = some (withoutFinal source) := by
  have lines (piece : List (Char × Tag)) : (p.classed piece).map Prod.fst = piece.map Prod.fst := by
    rw [Page.classed, List.map_map]
    rfl
  rw [Block.chars?, h.lines, Option.map_some, List.map_map, ← intercalate_linesOf whole]
  congr 3
  funext piece
  exact lines piece

end Block

theorem exists_block (p : Page) (language source : String) (ds : List Decoration)
    (mark : Plain p.classMark.toList) :
    ∃ b : Block, b.Proper ∧ b.text = (p.render language source ds).toList ∧
      b.Tells p language source.toList ds := by
  obtain ⟨ls, text, proper, length, read, numbered⟩ :=
    exists_lines (writes_lines mark source.toList ds) p.firstLine
  refine ⟨⟨p.attributesOf language, ls⟩, ⟨p.proper_attributes language, proper⟩, ?_,
    ⟨⟨p.entries, List.mergeSort_perm _ _, p.entries_ascending, ?_⟩, read, numbered, ?_⟩⟩
  · unfold Block.text Page.render
    rw [← text, ← p.attributes_eq]
    simp
  · rw [Page.attributesOf, Attribute.mapM_read?_of]
  · rw [length]
    exact length_linesOf _ _

/-- Whatever the decorations are, what is rendered is the text of one proper block and of no other,
which tells the language, the metadata and the lines with the class of each character. For the
decorations of a scan the lines are those of the source, as long as it ends at a position. -/
theorem render_block (p : Page) (language source : String) (ds : List Decoration)
    (mark : Plain p.classMark.toList) :
    ∃ b : Block, b.Proper ∧ b.text = (p.render language source ds).toList ∧
      (∀ other : Block, other.Proper → other.text = (p.render language source ds).toList →
        other = b) ∧
      b.Tells p language source.toList ds ∧
      (source.utf8ByteSize < positionLimit → ∀ r : Registry, Scanned r source ds →
        b.chars? = some (withoutFinal source.toList)) := by
  obtain ⟨b, proper, text, tells⟩ := exists_block p language source ds mark
  refine ⟨b, proper, text, fun other good same => ?_, tells, fun fits r scanned => ?_⟩
  · exact Block.text_injective good proper (same.trans text.symm)
  · exact tells.chars? (scanned.chars_shown fits)

/-- A page with all its parts, and the decorations of a scan of two lines. -/
theorem render_block_bracketed :
    let p : Page :=
      { classMark := "pr-", metadata := [("Copy Button", "a&b")], firstLine := some (-1) }
    let ds : List Decoration := [⟨0, .keyword⟩, ⟨2, .plain⟩, ⟨3, .punctuation⟩, ⟨4, .string⟩,
      ⟨5, .punctuation⟩, ⟨6, .plain⟩]
    ∃ (r : Registry) (b : Block), Registry.ofDefinitions Scan.bracketed = .ok r ∧
      r.scan "outer" "é\n<x>\n" 0 = .ok ds ∧ Plain p.classMark.toList ∧
      b.Proper ∧ b.text = (p.render "\"" "é\n<x>\n" ds).toList ∧
      b.Tells p "\"" "é\n<x>\n".toList ds ∧
      b.lines.map (·.number) = [some ['-', '1'], some ['0']] ∧
      b.chars? = some "é\n<x>".toList := by
  intro p ds
  obtain ⟨r, eq⟩ := Scan.exists_bracketed
  have scanned : r.scan "outer" "é\n<x>\n" 0 = .ok ds := Scan.scan_bracketed eq (by decide +kernel)
  have mark : Plain p.classMark.toList := by decide
  obtain ⟨b, proper, text, -, tells, whole⟩ := render_block p "\"" "é\n<x>\n" ds mark
  have two : b.lines.length = 2 := by
    have count := tells.count
    have ended : "é\n<x>\n".toList.getLast? = some '\n' ∧
        (cutLines (shown "é\n<x>\n".toList ds)).getLast? = some [] := by decide
    have feeds : (shown "é\n<x>\n".toList ds).countP endsLine = 2 := by decide
    rw [if_pos ended, feeds] at count
    omega
  have numbers : b.lines.map (·.number) = [some ['-', '1'], some ['0']] := by
    refine List.ext_getElem (by simp [two]) fun i lt lt' => ?_
    rw [List.getElem_map, tells.numbers i _ ?_]
    · match i, lt' with
      | 0, _ => rfl
      | 1, _ => rfl
    · rintro _ ⟨⟩
      have : i < 2 := lt'
      exact ⟨by decide, by omega, by omega⟩
  have chars := whole (by decide) r (.inl ⟨"outer", scanned⟩)
  have final : withoutFinal "é\n<x>\n".toList = "é\n<x>".toList := by decide
  rw [final] at chars
  exact ⟨r, b, eq, scanned, mark, proper, text, tells, numbers, chars⟩

end Tincture.Html
