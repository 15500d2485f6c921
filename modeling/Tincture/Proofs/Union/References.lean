import Tincture.Proofs.Union.Marks
import Tincture.Proofs.Union.Sturdy

/-!
References to groups survive in a union.

The groups of a union are numbered through all its patterns, and only those to which their own
pattern refers are numbered at all, so neither the number of a group nor the text of a reference is
what it was. What matters is that each reference still means the same group. The union is therefore
cut into parts anew, and each mark of it is held against the mark of a pattern it comes from
(`references_survive`): if it is a reference with number `v`, the `v`-th group that captures in the
union, counted from the beginning of the union, comes from the group of the pattern that was meant.

Going through the marks of a pattern in order, the invariant is `Numbered`: so many groups have been
captured as the number says that the union gives to the last group opened, and those kept so far are
found under their numbers. When all groups of a pattern are opened, so many have been captured as
the union counts before the next one (`newNumber_total`), and the invariant begins again there.
-/

namespace Tincture.Union

/-! ### Marks of several patterns -/

/-- A mark of one of several patterns. -/
structure Mark where
  /-- The place of its pattern. -/
  pattern : Nat
  /-- How many groups that capture have been opened before it in its pattern. -/
  opened : Nat
  part : Part
deriving DecidableEq

/-- Whether a mark is still one in a union. A numeric escape is not if fewer groups have been opened
than it says. -/
def Mark.lasts (m : Mark) : Bool :=
  match m.part with
  | .numeric _ value => value ≤ m.opened
  | _ => true

/-- A mark of the same pattern refers to the group: it is a numeric escape with the number of the
group, which has been opened before it. -/
def Referenced (all : List Mark) (pattern opened : Nat) : Prop :=
  ∃ r ∈ all, r.pattern = pattern ∧ (∃ text, r.part = .numeric text (opened + 1)) ∧
    opened + 1 ≤ r.opened

/-- What opens the group around a pattern. -/
def wrapper : Part := .nonCapturing ['(', '?', ':']

theorem wrapper_ne_group : wrapper ≠ .group := by simp [wrapper]

namespace Part

/-- The marks among the parts of a pattern. -/
def marksFrom (pattern opened : Nat) : List Part → List Mark
  | [] => []
  | .group :: rest => ⟨pattern, opened, .group⟩ :: marksFrom pattern (opened + 1) rest
  | part :: rest =>
    (if part.isMark then [⟨pattern, opened, part⟩] else []) ++ marksFrom pattern opened rest

end Part

/-- The marks of patterns, a group that does not capture being opened around each. -/
def marksOf (pattern : Nat) : List Pattern → List Mark
  | [] => []
  | p :: rest =>
    ⟨pattern, 0, wrapper⟩ :: Part.marksFrom pattern 0 (Part.split p.source.toList)
      ++ marksOf (pattern + 1) rest

/-! ### Images -/

/-- The marks that have become groups which capture. -/
def captures (images : List (Mark × Part)) : List Mark :=
  (images.filter (·.2 = .group)).map (·.1)

/-- What a mark becomes in a union, the marks before it having become what `before` says. -/
inductive Becomes (all : List Mark) (before : List (Mark × Part)) : Mark → Part → Prop
  /-- A group goes on capturing if it is referred to. -/
  | kept {pattern opened : Nat} (referenced : Referenced all pattern opened) :
      Becomes all before ⟨pattern, opened, .group⟩ .group
  | demoted {pattern opened : Nat} (unreferenced : ¬ Referenced all pattern opened) :
      Becomes all before ⟨pattern, opened, .group⟩ (.nonCapturing ['(', '?', ':'])
  | nonCapturing {pattern opened : Nat} (text : List Char) :
      Becomes all before ⟨pattern, opened, .nonCapturing text⟩ (.nonCapturing text)
  /-- No group has the number zero. -/
  | zero {pattern opened : Nat} (text : List Char) :
      Becomes all before ⟨pattern, opened, .numeric text 0⟩ (.numeric text 0)
  /-- A reference refers to what its group has become. -/
  | reference {pattern opened number newNumber : Nat} (text : List Char) (positive : 1 ≤ number)
      (before_it : number ≤ opened) (captures : 1 ≤ newNumber ∧
        (captures before)[newNumber - 1]? = some ⟨pattern, number - 1, .group⟩) :
      Becomes all before ⟨pattern, opened, .numeric text number⟩
        (.numeric ('\\' :: Nat.toDigits 10 newNumber) newNumber)

/-- Each mark becomes what it should, those before it being known. -/
inductive Becoming (all : List Mark) : List (Mark × Part) → List (Mark × Part) → Prop
  | nil (before : List (Mark × Part)) : Becoming all before []
  | cons {before rest : List (Mark × Part)} {m : Mark} {part : Part}
      (first : Becomes all before m part) (others : Becoming all (before ++ [(m, part)]) rest) :
      Becoming all before ((m, part) :: rest)

namespace Becoming

variable {all : List Mark} {before images : List (Mark × Part)}

theorem append {others : List (Mark × Part)} (h : Becoming all before images)
    (h' : Becoming all (before ++ images) others) : Becoming all before (images ++ others) := by
  induction h with
  | nil before => rwa [List.append_nil] at h'
  | cons first _ ih =>
    rw [List.append_cons] at h'
    exact .cons first (ih h')

theorem becomes (h : Becoming all before images) {front back : List (Mark × Part)} {m : Mark}
    {part : Part} (eq : images = front ++ (m, part) :: back) :
    Becomes all (before ++ front) m part := by
  induction h generalizing front with
  | nil before => exact absurd eq.symm (by simp)
  | cons first _ ih =>
    cases front with
    | nil =>
      cases eq
      rwa [List.append_nil]
    | cons pair front =>
      obtain ⟨rfl, rest⟩ := List.cons.inj eq
      rw [List.append_cons]
      exact ih rest

end Becoming

namespace Part

/-- What the marks among the parts of a pattern become when the parts are written. -/
def images (pattern captured : Nat) (kept : List Nat) (opened : Nat) :
    List Part → List (Mark × Part)
  | [] => []
  | .group :: rest =>
    (⟨pattern, opened, .group⟩, if kept.contains (opened + 1) then .group else wrapper)
      :: images pattern captured kept (opened + 1) rest
  | .numeric text value :: rest =>
    (if value = 0 then [(⟨pattern, opened, .numeric text value⟩, .numeric text value)]
      else if value ≤ opened then
        [(⟨pattern, opened, .numeric text value⟩,
          .numeric ('\\' :: Nat.toDigits 10 (newNumber captured kept value))
            (newNumber captured kept value))]
      else []) ++ images pattern captured kept opened rest
  | part :: rest =>
    (if part.isMark then [(⟨pattern, opened, part⟩, part)] else [])
      ++ images pattern captured kept opened rest

end Part

/-- What the marks of patterns become in a union, `captured` groups being captured before. -/
def imagesOf (pattern captured : Nat) : List Pattern → List (Mark × Part)
  | [] => []
  | p :: rest =>
    let parts := Part.split p.source.toList
    let kept := (Part.references 0 parts).eraseDups
    (⟨pattern, 0, wrapper⟩, wrapper) :: Part.images pattern captured kept 0 parts
      ++ imagesOf (pattern + 1) (captured + kept.length) rest

/-! ### The marks of a union -/

namespace Part

variable {pattern captured opened : Nat} {kept : List Nat}

theorem marks_wrapper (more : List Char) :
    marks ('(' :: '?' :: ':' :: more) = wrapper :: marks more :=
  marks_cons rfl

/-- When the parts of a pattern are written, their images are the marks of what is written. -/
theorem marks_written (pattern captured opened : Nat) (kept : List Nat) (fold : Bool)
    {parts : List Part} (formed : ∀ part ∈ parts, part.Formed) (tidy : tidyParts parts = true)
    (more : List Char) :
    marks (writeParts fold captured kept opened parts ++ ')' :: more) =
      (images pattern captured kept opened parts).map (·.2) ++ marks more := by
  induction parts generalizing opened with
  | nil => exact marks_close more
  | cons part rest ih =>
    obtain ⟨own, others⟩ := List.forall_mem_cons.mp formed
    cases own with
    | @bracket body closed =>
      rw [writeParts, List.append_assoc]
      cases fold with
      | false => exact (marks_class closed _).trans (ih _ others tidy)
      | true =>
        obtain ⟨body', eq, closed'⟩ := closedClass_foldClass ('[' :: body)
        rw [if_pos rfl, eq]
        exact (marks_class closed' _).trans (ih _ others tidy)
    | @escape c ds digit hexadecimal =>
      have plain := fun d mem => not_special_of_hexadecimal (hexadecimal d mem)
      simp only [writeParts, List.append_assoc]
      exact (marks_escape digit _).trans ((marks_symbols plain _).trans (ih _ others tidy))
    | @numeric ds nonempty decimal =>
      simp only [tidyParts, Bool.and_eq_true, Bool.not_eq_true'] at tidy
      have ends := not_digit_of_written fold captured kept opened others tidy.1 more
      rw [writeParts, List.append_assoc, images]
      split_ifs with zero within
      · exact (marks_numeric nonempty decimal ends).trans (congrArg _ (ih _ others tidy.2))
      · generalize newNumber captured kept _ = n
        have value : numeral 10 (Nat.toDigits 10 n) = n :=
          numeral_toDigits (by decide) (by decide) n
        have found := marks_numeric Nat.toDigits_ne_nil
          (fun d => Nat.isDigit_of_mem_toDigits (b := 10) (n := n) (by decide) (by decide)) ends
        rw [value, ih _ others tidy.2] at found
        exact found
      · exact (marks_codePoint _ _).trans (ih _ others tidy.2)
    | nonCapturing mem =>
      simp only [writeParts, List.append_assoc]
      exact (marks_nonCapturing mem _).trans (congrArg _ (ih _ others tidy))
    | group =>
      simp only [tidyParts, Bool.and_eq_true, beq_iff_eq] at tidy
      rw [writeParts, images, List.append_assoc]
      split_ifs
      · have group := group_of_written fold captured kept (opened + 1) others tidy.1 more
        exact (marks_group group).trans (congrArg _ (ih _ others tidy.2))
      · exact (marks_wrapper _).trans (congrArg _ (ih _ others tidy.2))
    | close => exact (marks_close _).trans (ih _ others tidy)
    | caret =>
      rw [writeParts, List.append_assoc]
      split_ifs
      · exact (marks_caret _).trans (ih _ others tidy)
      · exact ih _ others tidy
    | @literal text plain =>
      simp only [tidyParts, Bool.and_eq_true] at tidy
      rw [writeParts, List.append_assoc]
      cases fold with
      | false => exact (marks_symbols plain _).trans (ih _ others tidy.2)
      | true => exact (marks_foldLetters plain _).trans (ih _ others tidy.2)
    | opening | backslash => simp [tidyParts] at tidy

/-- The marks that have an image are those that last. -/
theorem map_fst_images (parts : List Part) :
    (images pattern captured kept opened parts).map (·.1) =
      (marksFrom pattern opened parts).filter Mark.lasts := by
  induction parts generalizing opened with
  | nil => rfl
  | cons part rest ih =>
    cases part with
    | numeric text value =>
      simp only [images, marksFrom, List.map_append, List.filter_append, ih]
      congr 1
      by_cases zero : value = 0
      · simp [zero, isMark, Mark.lasts]
      · by_cases within : value ≤ opened <;> simp [zero, within, isMark, Mark.lasts]
    | group => exact congrArg (List.cons _) ih
    | _ =>
      simp only [images, marksFrom, List.map_append, List.filter_append, ih]
      rfl

/-! ### Which groups are referred to -/

theorem mem_references_iff (pattern : Nat) {parts : List Part} {number : Nat} :
    number ∈ references opened parts ↔
      number ≠ 0 ∧ ∃ r ∈ marksFrom pattern opened parts,
        (∃ text, r.part = .numeric text number) ∧ number ≤ r.opened := by
  induction parts generalizing opened with
  | nil => simp [references, marksFrom]
  | cons part rest ih =>
    cases part with
    | numeric text value =>
      have cons : number ∈ references opened (.numeric text value :: rest) ↔
          (number = value ∧ number ≠ 0 ∧ number ≤ opened) ∨ number ∈ references opened rest := by
        rw [references]
        split_ifs with refers
        · rw [List.mem_cons]
          refine or_congr_left ⟨fun eq => ⟨eq, eq ▸ refers⟩, And.left⟩
        · refine ⟨.inr, fun h => h.resolve_left fun own => refers (own.1 ▸ own.2)⟩
      have first : marksFrom pattern opened (.numeric text value :: rest) =
          ⟨pattern, opened, .numeric text value⟩ :: marksFrom pattern opened rest := rfl
      rw [cons, ih, first]
      simp only [List.mem_cons, exists_eq_or_imp, Part.numeric.injEq]
      constructor
      · rintro (⟨rfl, positive, le⟩ | ⟨positive, r, mem, le, h⟩)
        · exact ⟨positive, .inl ⟨⟨text, rfl, rfl⟩, le⟩⟩
        · exact ⟨positive, .inr ⟨r, mem, le, h⟩⟩
      · rintro ⟨positive, ⟨⟨_, _, rfl⟩, le⟩ | ⟨r, mem, le, h⟩⟩
        · exact .inl ⟨rfl, positive, le⟩
        · exact .inr ⟨positive, r, mem, le, h⟩
    | _ => simp [references, marksFrom, isMark, ih]

theorem count_group {part : Part} (ne : part ≠ .group) (rest : List Part) :
    (part :: rest).count .group = rest.count .group :=
  List.count_cons_of_ne ne

/-- A reference is to a group that has been opened. -/
theorem references_bounds {parts : List Part} :
    ∀ number ∈ references opened parts, number ≠ 0 ∧ number ≤ opened + parts.count .group := by
  induction parts generalizing opened with
  | nil => simp [references]
  | cons part rest ih =>
    cases part with
    | group =>
      intro number mem
      obtain ⟨positive, le⟩ := ih number mem
      rw [List.count_cons_self]
      exact ⟨positive, by omega⟩
    | numeric text value =>
      intro number mem
      rw [count_group (by simp)]
      rw [references] at mem
      split_ifs at mem with within
      · rcases List.mem_cons.mp mem with rfl | mem
        · exact ⟨within.1, by omega⟩
        · exact ih number mem
      · exact ih number mem
    | _ =>
      rw [count_group (by simp)]
      exact ih

end Part

/-! ### Numbers -/

section Numbers

variable {pattern captured opened : Nat} {kept : List Nat} {before : List (Mark × Part)}

theorem newNumber_succ (captured : Nat) (kept : List Nat) (group : Nat) :
    newNumber captured kept (group + 1) =
      newNumber captured kept group + if kept.contains (group + 1) then 1 else 0 := by
  rw [newNumber, newNumber, List.range_succ, List.countP_append, List.countP_singleton,
    Nat.add_assoc]

/-- So many groups have been captured as the number of the last group opened says, and each that is
kept is found under its number. -/
structure Numbered (pattern captured : Nat) (kept : List Nat) (before : List (Mark × Part))
    (opened : Nat) : Prop where
  count : (captures before).length = newNumber captured kept opened
  found : ∀ group < opened, group + 1 ∈ kept →
    (captures before)[newNumber captured kept (group + 1) - 1]? = some ⟨pattern, group, .group⟩

theorem newNumber_pos {group : Nat} (h : group + 1 ∈ kept) :
    1 ≤ newNumber captured kept (group + 1) := by
  rw [newNumber_succ, if_pos (List.contains_iff_mem.mpr h)]
  omega

theorem captures_append (images others : List (Mark × Part)) :
    captures (images ++ others) = captures images ++ captures others := by
  rw [captures, List.filter_append, List.map_append]
  rfl

namespace Numbered

/-- A mark that does not become a group which captures changes no number. -/
theorem other (h : Numbered pattern captured kept before opened) (m : Mark) {part : Part}
    (ne : part ≠ .group) : Numbered pattern captured kept (before ++ [(m, part)]) opened := by
  have same : captures (before ++ [(m, part)]) = captures before := by
    rw [captures_append]
    simp [captures, ne]
  exact ⟨by rw [same, h.count], by rw [same]; exact h.found⟩

theorem keep (h : Numbered pattern captured kept before opened) (mem : opened + 1 ∈ kept) :
    Numbered pattern captured kept (before ++ [(⟨pattern, opened, .group⟩, .group)])
      (opened + 1) := by
  have more : captures (before ++ [(⟨pattern, opened, .group⟩, .group)]) =
      captures before ++ [⟨pattern, opened, .group⟩] := captures_append _ _
  have next : newNumber captured kept (opened + 1) = newNumber captured kept opened + 1 := by
    rw [newNumber_succ, if_pos (List.contains_iff_mem.mpr mem)]
  refine ⟨by rw [more, List.length_append, h.count, next]; rfl, fun group lt own => ?_⟩
  rw [more]
  by_cases last : group = opened
  · rw [last, next, Nat.add_sub_cancel, ← h.count, List.getElem?_concat_length]
  · have found := h.found group (by omega) own
    obtain ⟨inside, -⟩ := List.getElem?_eq_some_iff.mp found
    rw [List.getElem?_append_left inside, found]

theorem skip (h : Numbered pattern captured kept before opened) (mem : opened + 1 ∉ kept)
    (m : Mark) {part : Part} (ne : part ≠ .group) :
    Numbered pattern captured kept (before ++ [(m, part)]) (opened + 1) := by
  obtain ⟨count, found⟩ := h.other m ne
  have same : newNumber captured kept (opened + 1) = newNumber captured kept opened := by
    rw [newNumber_succ, if_neg (mt List.contains_iff_mem.mp mem), Nat.add_zero]
  refine ⟨by rw [count, same], fun group lt own => ?_⟩
  have ne : group ≠ opened := by
    rintro rfl
    exact mem own
  exact found group (by omega) own

end Numbered

theorem nodup_eraseDups (numbers : List Nat) : numbers.eraseDups.Nodup := by
  induction length : numbers.length using Nat.strongRecOn generalizing numbers with
  | ind n ih =>
    cases numbers with
    | nil => exact List.nodup_nil
    | cons number rest =>
      have shorter : (rest.filter fun other => !other == number).length < n := by
        rw [← length, List.length_cons]
        exact Nat.lt_succ_of_le (List.length_filter_le _ _)
      rw [List.eraseDups_cons]
      refine List.nodup_cons.mpr ⟨?_, ih _ shorter _ rfl⟩
      simp [List.mem_eraseDups]

/-- All groups that are kept have been captured once all groups are opened. -/
theorem newNumber_total {total : Nat} (nodup : kept.Nodup)
    (bounds : ∀ number ∈ kept, number ≤ total) :
    newNumber captured kept total = captured + kept.length := by
  have perm : ((List.range (total + 1)).filter kept.contains).Perm kept := by
    refine (List.perm_ext_iff_of_nodup (List.nodup_range.filter _) nodup).mpr fun number => ?_
    rw [List.mem_filter, List.mem_range, List.contains_iff_mem, and_iff_right_iff_imp]
    exact fun mem => Nat.lt_succ_of_le (bounds number mem)
  rw [newNumber, List.countP_eq_length_filter, perm.length_eq]

/-- None having been opened, the number is that of the groups captured before. -/
theorem newNumber_zero (zero : 0 ∉ kept) : newNumber captured kept 0 = captured := by
  simp [newNumber, zero]

end Numbers

/-! ### What marks become -/

namespace Part

variable {pattern captured opened : Nat} {kept : List Nat} {before : List (Mark × Part)}
  {all : List Mark}

/-- Going through the parts of a pattern, each mark becomes what it should, and the groups stay
numbered. -/
theorem becoming_images {parts : List Part}
    (asked : ∀ group, group + 1 ∈ kept ↔ Referenced all pattern group)
    (refers : ∀ number ∈ references opened parts, number ∈ kept)
    (numbered : Numbered pattern captured kept before opened) :
    Becoming all before (images pattern captured kept opened parts) ∧
      Numbered pattern captured kept (before ++ images pattern captured kept opened parts)
        (opened + parts.count .group) := by
  induction parts generalizing opened before with
  | nil => exact ⟨.nil before, by simpa [images] using numbered⟩
  | cons part rest ih =>
    -- A mark that is no group which captures, in front of the rest.
    have step {m : Mark} {image : Part} (becomes : Becomes all before m image)
        (ne : image ≠ .group) (others : ∀ number ∈ references opened rest, number ∈ kept) :
        Becoming all before ((m, image) :: images pattern captured kept opened rest) ∧
          Numbered pattern captured kept
            (before ++ (m, image) :: images pattern captured kept opened rest)
            (opened + rest.count .group) := by
      obtain ⟨becoming, after⟩ := ih others (numbered.other m ne)
      rw [List.append_cons]
      exact ⟨.cons becomes becoming, after⟩
    cases part with
    | group =>
      have total : opened + (Part.group :: rest).count .group =
          opened + 1 + rest.count .group := by
        rw [List.count_cons_self]
        omega
      rw [images, total, List.append_cons]
      split_ifs with keeps
      · have mem := List.contains_iff_mem.mp keeps
        obtain ⟨becoming, after⟩ := ih refers (numbered.keep mem)
        exact ⟨.cons (.kept ((asked opened).mp mem)) becoming, after⟩
      · have none := mt List.contains_iff_mem.mpr keeps
        obtain ⟨becoming, after⟩ := ih refers
          (numbered.skip none ⟨pattern, opened, .group⟩ wrapper_ne_group)
        exact ⟨.cons (.demoted (mt (asked opened).mpr none)) becoming, after⟩
    | numeric text value =>
      rw [count_group (by simp), images]
      split_ifs with zero within
      · have others : ∀ number ∈ references opened rest, number ∈ kept := by
          rwa [references, if_neg (fun refers => refers.1 zero)] at refers
        subst zero
        exact step (.zero text) (by simp) others
      · have positive : 1 ≤ value := Nat.pos_of_ne_zero zero
        rw [references, if_pos ⟨zero, within⟩] at refers
        obtain ⟨own, others⟩ := List.forall_mem_cons.mp refers
        -- The group with this number is among those opened, and is kept.
        have group : value - 1 + 1 = value := Nat.sub_add_cancel positive
        have found := numbered.found (value - 1) (by omega) (group ▸ own)
        have number : 1 ≤ newNumber captured kept (value - 1 + 1) := newNumber_pos (group ▸ own)
        rw [group] at found number
        exact step (.reference text positive within ⟨number, found⟩) (by simp) others
      · rw [references, if_neg fun refers => within refers.2] at refers
        exact ih refers numbered
    | nonCapturing text =>
      rw [count_group (by simp)]
      exact step (.nonCapturing text) (by simp) refers
    | _ =>
      rw [count_group (by simp)]
      exact ih refers numbered

end Part

/-! ### Unions -/

theorem pattern_of_mem_marksFrom {pattern opened : Nat} {parts : List Part} {m : Mark}
    (h : m ∈ Part.marksFrom pattern opened parts) : m.pattern = pattern := by
  induction parts generalizing opened with
  | nil => cases h
  | cons part rest ih =>
    cases part with
    | group =>
      rcases List.mem_cons.mp h with rfl | h
      · rfl
      · exact ih h
    | nonCapturing | numeric =>
      rcases List.mem_cons.mp h with rfl | h
      · rfl
      · exact ih h
    | _ => exact ih h

theorem le_pattern_of_mem_marksOf {pattern : Nat} {patterns : List Pattern} {m : Mark}
    (h : m ∈ marksOf pattern patterns) : pattern ≤ m.pattern := by
  induction patterns generalizing pattern with
  | nil => cases h
  | cons p rest ih =>
    rcases List.mem_append.mp h with own | later
    · rcases List.mem_cons.mp own with rfl | own
      · exact Nat.le_refl _
      · exact Nat.le_of_eq (pattern_of_mem_marksFrom own).symm
    · exact Nat.le_of_succ_le (ih later)

theorem map_fst_imagesOf (pattern captured : Nat) (patterns : List Pattern) :
    (imagesOf pattern captured patterns).map (·.1) =
      (marksOf pattern patterns).filter Mark.lasts := by
  induction patterns generalizing pattern captured with
  | nil => rfl
  | cons p rest ih =>
    have first (ms : List Mark) : (⟨pattern, 0, wrapper⟩ :: ms).filter Mark.lasts =
        ⟨pattern, 0, wrapper⟩ :: ms.filter Mark.lasts := rfl
    simp only [imagesOf, marksOf, List.cons_append, List.map_cons, List.map_append, first,
      List.filter_append, Part.map_fst_images, ih]

/-- A group of a pattern is kept if a mark of the pattern refers to it; those of other patterns do
not count. -/
theorem mem_kept_iff {all front : List Mark} {pattern : Nat} (group : Nat) {p : Pattern}
    {rest : List Pattern} (eq : all = front ++ marksOf pattern (p :: rest))
    (earlier : ∀ m ∈ front, m.pattern < pattern) :
    group + 1 ∈ (Part.references 0 (Part.split p.source.toList)).eraseDups ↔
      Referenced all pattern group := by
  rw [List.mem_eraseDups, Part.mem_references_iff pattern, Referenced]
  constructor
  · rintro ⟨-, r, mem, text, opened⟩
    refine ⟨r, ?_, pattern_of_mem_marksFrom mem, text, opened⟩
    simp [eq, marksOf, mem]
  · rintro ⟨r, mem, own, ⟨text, numeric⟩, opened⟩
    refine ⟨Nat.succ_ne_zero group, r, ?_, ⟨text, numeric⟩, opened⟩
    rw [eq, List.mem_append] at mem
    rcases mem with before | mem
    · exact absurd own (Nat.ne_of_lt (earlier r before))
    · rcases List.mem_append.mp mem with mem | later
      · rcases List.mem_cons.mp mem with rfl | mem
        · cases numeric
        · exact mem
      · exact absurd own (Nat.ne_of_gt (le_pattern_of_mem_marksOf later))

/-- Going through patterns, each mark becomes what it should. -/
theorem becoming_imagesOf {all front : List Mark} {pattern captured : Nat}
    {patterns : List Pattern} {before : List (Mark × Part)}
    (eq : all = front ++ marksOf pattern patterns) (earlier : ∀ m ∈ front, m.pattern < pattern)
    (count : (captures before).length = captured) :
    Becoming all before (imagesOf pattern captured patterns) := by
  induction patterns generalizing front pattern captured before with
  | nil => exact .nil before
  | cons p rest ih =>
    have asked (group : Nat) := mem_kept_iff group eq earlier
    have bounds : ∀ number ∈ (Part.references 0 (Part.split p.source.toList)).eraseDups,
        number ≠ 0 ∧ number ≤ 0 + (Part.split p.source.toList).count .group :=
      fun number mem => Part.references_bounds number (List.mem_eraseDups.mp mem)
    have refers : ∀ number ∈ Part.references 0 (Part.split p.source.toList),
        number ∈ (Part.references 0 (Part.split p.source.toList)).eraseDups :=
      fun number mem => List.mem_eraseDups.mpr mem
    have nodup := nodup_eraseDups (Part.references 0 (Part.split p.source.toList))
    simp only [imagesOf]
    generalize (Part.references 0 (Part.split p.source.toList)).eraseDups = kept at *
    have zero : 0 ∉ kept := fun mem => (bounds 0 mem).1 rfl
    have none : Numbered pattern captured kept before 0 :=
      ⟨by rw [newNumber_zero zero, count], fun group lt => absurd lt (Nat.not_lt_zero group)⟩
    have numbered := none.other ⟨pattern, 0, wrapper⟩ wrapper_ne_group
    obtain ⟨becoming, after⟩ := Part.becoming_images asked refers numbered
    have total := after.count
    rw [newNumber_total nodup fun number mem => (bounds number mem).2, List.append_assoc,
      List.singleton_append] at total
    have next : all = front ++ ⟨pattern, 0, wrapper⟩ ::
        Part.marksFrom pattern 0 (Part.split p.source.toList) ++ marksOf (pattern + 1) rest := by
      rw [eq, marksOf, List.append_assoc]
    refine Becoming.append (.cons (.nonCapturing _) becoming) (ih next ?_ total)
    · intro m mem
      rcases List.mem_append.mp mem with mem | mem
      · exact Nat.lt_succ_of_lt (earlier m mem)
      · rcases List.mem_cons.mp mem with rfl | mem
        · exact Nat.lt_succ_self _
        · rw [pattern_of_mem_marksFrom mem]
          exact Nat.lt_succ_self _

/-- The text of a union in the given mode. -/
def textOf (mode : CaseMode) (patterns : List Pattern) : List Char :=
  ['|'].intercalate ((alternativesOf mode 0 patterns).map Regex.grouped)

end Tincture.Union

namespace Tincture

open Tincture.Union

/-- Whether a pattern is tidy: all its classes are closed, it does not end in a lone backslash, and
leaving out lone carets changes none of its marks. -/
def Pattern.isTidy (p : Pattern) : Bool := Part.tidyParts (Part.split p.source.toList)

namespace Union

theorem marks_grouped (fold : Bool) (pattern captured : Nat) {p : Pattern} (tidy : p.isTidy = true)
    (more : List Char) :
    Part.marks (Regex.grouped (alternativeOf fold captured p.source.toList).1 ++ more) =
      wrapper :: (Part.images pattern captured
        (Part.references 0 (Part.split p.source.toList)).eraseDups 0
        (Part.split p.source.toList)).map (·.2) ++ Part.marks more := by
  have opening := Part.marks_wrapper
    ((alternativeOf fold captured p.source.toList).1 ++ ')' :: more)
  have inside := Part.marks_written pattern captured 0
    (Part.references 0 (Part.split p.source.toList)).eraseDups fold Part.formed_of_mem_split tidy
    more
  have shape : Regex.grouped (alternativeOf fold captured p.source.toList).1 ++ more =
      ['(', '?', ':'] ++ ((alternativeOf fold captured p.source.toList).1 ++ ')' :: more) := by
    simp [Regex.grouped]
  rw [shape]
  exact opening.trans (congrArg _ inside)

/-- The marks of a union are the images of those of its patterns. -/
theorem marks_textOf (mode : CaseMode) (pattern captured : Nat) {patterns : List Pattern}
    (tidy : ∀ p ∈ patterns, p.isTidy = true) :
    Part.marks (['|'].intercalate ((alternativesOf mode captured patterns).map Regex.grouped)) =
      (imagesOf pattern captured patterns).map (·.2) := by
  induction patterns generalizing pattern captured with
  | nil => exact Part.marks_nil
  | cons p rest ih =>
    obtain ⟨own, others⟩ := List.forall_mem_cons.mp tidy
    have captures : (alternativeOf (p.ignoreCase && mode.foldCase) captured p.source.toList).2 =
      captured + (Part.references 0 (Part.split p.source.toList)).eraseDups.length := rfl
    have later := ih (pattern + 1) (captured +
      (Part.references 0 (Part.split p.source.toList)).eraseDups.length) others
    have here := marks_grouped (p.ignoreCase && mode.foldCase) pattern captured own
    simp only [alternativesOf, imagesOf, List.map_cons, List.cons_append, List.map_append, captures]
    rw [← later]
    generalize (alternativesOf mode _ rest).map Regex.grouped = texts
    cases texts with
    | nil =>
      have whole := here []
      rw [List.append_nil] at whole
      rw [List.intercalate_singleton]
      exact whole
    | cons text texts =>
      rw [List.intercalate_cons_cons, List.append_assoc, here]
      exact congrArg _ (Part.marks_symbol rfl _)

/-- Each mark of a union is what a mark of its patterns has become, in order, and all marks that
last have become one. -/
structure Images (mode : CaseMode) (patterns : List Pattern) (images : List (Mark × Part)) :
    Prop where
  sources : images.map (·.1) = (marksOf 0 patterns).filter Mark.lasts
  marks : images.map (·.2) = Part.marks (textOf mode patterns)
  becomes : ∀ before m part after, images = before ++ (m, part) :: after →
    Becomes (marksOf 0 patterns) before m part

/-- In a union of tidy patterns, with cases folded or not, groups go on capturing just if their
pattern refers to them, and each reference goes on referring to what its group has become. -/
theorem references_survive {patterns : List Pattern} (tidy : ∀ p ∈ patterns, p.isTidy = true) :
    (∀ mode, ∃ images, Images mode (patterns ++ [catchAll]) images) ∧
      (sourceOf (patterns ++ [catchAll])).toList =
        textOf (CaseMode.detect (patterns ++ [catchAll])) (patterns ++ [catchAll]) := by
  have all : ∀ p ∈ patterns ++ [catchAll], p.isTidy = true := by
    intro p mem
    rcases List.mem_append.mp mem with mem | mem
    · exact tidy p mem
    · rw [List.mem_singleton.mp mem]
      decide +kernel
  refine ⟨fun mode => ⟨imagesOf 0 0 (patterns ++ [catchAll]), ?_⟩, sourceOf_toList _⟩
  have becoming : Becoming (marksOf 0 (patterns ++ [catchAll])) []
      (imagesOf 0 0 (patterns ++ [catchAll])) :=
    becoming_imagesOf (List.nil_append _).symm (fun _ mem => absurd mem List.not_mem_nil) rfl
  refine ⟨map_fst_imagesOf 0 0 _, (marks_textOf mode 0 0 all).symm, ?_⟩
  exact fun before m part after eq => becoming.becomes eq

/-- Two patterns, each of which refers to its second group only; in the second one, a caret stands
alone, and an escape says more than groups have been opened. -/
def renumbered : List Pattern :=
  [{ source := "(a)(b)\\2" }, { source := "((?:x)|^(y))\\2\\9", ignoreCase := true }]

theorem references_survive_renumbered :
    (∀ p ∈ renumbered, p.isTidy = true) ∧
      (sourceOf (renumbered ++ [catchAll])).toList =
        "(?:(?:a)(b)\\1)|(?:(?:(?:[Xx])|([Yy]))\\2\\x09)|(?:[\\s\\S])".toList ∧
      (∀ mode, ∃ images, Images mode (renumbered ++ [catchAll]) images) ∧
      (sourceOf (renumbered ++ [catchAll])).toList =
        textOf (CaseMode.detect (renumbered ++ [catchAll])) (renumbered ++ [catchAll]) := by
  have tidy : ∀ p ∈ renumbered, p.isTidy = true := by decide +kernel
  exact ⟨tidy, by decide +kernel, references_survive tidy⟩

/-- A numeric escape with the value zero is no reference, but stays one of digits; and a caret left
out behind the question mark can make a group that is referred to one that does not capture. -/
theorem marks_change :
    (Part.split "\\0".toList = [.numeric ['\\', '0'] 0] ∧
      Part.split (sourceOf [{ source := "\\0" }, catchAll]).toList =
        [wrapper, .numeric ['\\', '0'] 0, .close, .literal ['|'], wrapper,
          .bracket "[\\s\\S]".toList, .close]) ∧
    (Part.split "(?^:a)\\1".toList = [.group, .literal ['?'], .caret, .literal [':', 'a'], .close,
        .numeric ['\\', '1'] 1] ∧
      .group ∉ Part.split (sourceOf [{ source := "(?^:a)\\1" }, catchAll]).toList) := by
  decide +kernel

end Union

end Tincture
