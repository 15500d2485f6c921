import Mathlib.Data.List.Induction
import Mathlib.Data.List.Sort
import Mathlib.Data.Prod.Lex
import Mathlib.Order.Bounds.Basic
import Tincture.Language.Keyword

/-!
How groups of keywords are split.

A keyword is a run of characters without separators that is as long as it can be, wherever it
stands in a group. The split of groups is the one list of all of them in the order in which they
first occur (`split_eq_iff`); with more groups, those that are new follow (`split_append`). A
separator inside a group does what the border between two groups does, so how a text is divided into
groups makes no difference (`Regroups.split_eq`), and keywords that have been split are not split
further (`split_split`).
-/

namespace Tincture.Keyword

variable {text left right before word after : List Char} {c : Char}
  {groups others values keywords : List String} {keyword : String}

/-! ### The words of a text -/

/-- There is no separator in a text. -/
def Unbroken (text : List Char) : Prop := ∀ c ∈ text, isSeparator c = false

/-- The keywords of a text as they stand there, with repetitions. -/
def ofText (text : List Char) : List String := (words text).map String.ofList

/-- The keywords of groups as they stand there, with repetitions. -/
def ofGroups (groups : List String) : List String := groups.flatMap fun group => ofText group.toList

theorem wordsAfter_append_cons (separates : isSeparator c = true) (word left right : List Char) :
    wordsAfter word (left ++ c :: right) = wordsAfter word left ++ words right := by
  induction left generalizing word with
  | nil => cases word <;> simp [wordsAfter, words, separates]
  | cons d left ih =>
    rw [List.cons_append, wordsAfter, wordsAfter, ih, ih]
    split
    · split <;> rfl
    · rfl

/-- While there is no separator, characters are added to the current word. -/
theorem wordsAfter_unbroken (unbroken : Unbroken text) (word : List Char) :
    wordsAfter word text = wordsAfter (text.reverse ++ word) [] := by
  induction text generalizing word with
  | nil => rfl
  | cons c text ih =>
    obtain ⟨plain, unbroken⟩ := List.forall_mem_cons.mp unbroken
    have added : wordsAfter word (c :: text) = wordsAfter (c :: word) text := by
      simp [wordsAfter, plain]
    rw [added, ih unbroken, List.reverse_cons, List.append_assoc, List.singleton_append]

@[simp] theorem ofText_nil : ofText [] = [] := rfl

/-- The keywords on both sides of a separator are separate. -/
theorem ofText_append_cons (separates : isSeparator c = true) (left right : List Char) :
    ofText (left ++ c :: right) = ofText left ++ ofText right := by
  rw [ofText, words, wordsAfter_append_cons separates, List.map_append]
  rfl

theorem ofText_unbroken (unbroken : Unbroken text) (nonempty : text ≠ []) :
    ofText text = [String.ofList text] := by
  rw [ofText, words, wordsAfter_unbroken unbroken]
  simp [wordsAfter, nonempty]

/-- A text is empty, or a word, or it is cut by a separator. -/
theorem cut_induction {P : List Char → Prop} (empty : P [])
    (word : ∀ text, text ≠ [] → Unbroken text → P text)
    (cut : ∀ left c right, isSeparator c = true → P left → P right → P (left ++ c :: right))
    (text : List Char) : P text := by
  induction length : text.length using Nat.strong_induction_on generalizing text with
  | h n ih =>
    by_cases unbroken : Unbroken text
    · by_cases nonempty : text = []
      · exact nonempty ▸ empty
      · exact word text nonempty unbroken
    · obtain ⟨c, mem, separates⟩ : ∃ c ∈ text, isSeparator c = true := by
        simpa [Unbroken] using unbroken
      obtain ⟨left, right, rfl⟩ := List.append_of_mem mem
      rw [List.length_append, List.length_cons] at length
      exact cut left c right separates (ih _ (by omega) left rfl) (ih _ (by omega) right rfl)

/-! ### Where a word stands -/

/-- A run of characters without separators that cannot be made longer: its neighbours, if it has
any, are separators. -/
structure IsWord (before word after : List Char) : Prop where
  nonempty : word ≠ []
  unbroken : Unbroken word
  opens : ∀ c ∈ before.getLast?, isSeparator c = true
  closes : ∀ c ∈ after.head?, isSeparator c = true

/-- A keyword stands in a text, after so many characters. -/
def StandsAt (text : List Char) (place : ℕ) (keyword : String) : Prop :=
  ∃ before after, text = before ++ keyword.toList ++ after ∧ before.length = place ∧
    IsWord before keyword.toList after

/-- In a text without separators only the whole text is a word. -/
theorem standsAt_unbroken (unbroken : Unbroken text) (nonempty : text ≠ []) {place : ℕ} :
    StandsAt text place keyword ↔ place = 0 ∧ keyword = String.ofList text := by
  constructor
  · rintro ⟨before, after, rfl, rfl, holds⟩
    have plain (c : Char) (mem : c ∈ before ++ keyword.toList ++ after) : ¬ isSeparator c = true :=
      Bool.eq_false_iff.mp (unbroken c mem)
    -- A neighbour would be a separator in the text.
    have begins : before = [] := by
      by_contra some
      have last := List.getLast_mem some
      exact plain _ (by simp [last]) (holds.opens _ (List.getLast?_eq_some_getLast some))
    have ends : after = [] := by
      by_contra some
      have head := List.head_mem some
      exact plain _ (by simp [head]) (holds.closes _ (List.head?_eq_some_head some))
    subst begins ends
    simp
  · rintro ⟨rfl, rfl⟩
    refine ⟨[], [], by simp, rfl, ?_⟩
    rw [String.toList_ofList]
    exact ⟨nonempty, unbroken, by simp, by simp⟩

/-- Behind a separator, what follows a word does not matter. -/
theorem isWord_append_cons (separates : isSeparator c = true) (right : List Char) :
    IsWord before word (after ++ c :: right) ↔ IsWord before word after := by
  have same : (∀ d ∈ (after ++ c :: right).head?, isSeparator d = true) ↔
      ∀ d ∈ after.head?, isSeparator d = true := by
    cases after <;> simp [separates]
  exact ⟨fun h => ⟨h.nonempty, h.unbroken, h.opens, same.mp h.closes⟩,
    fun h => ⟨h.nonempty, h.unbroken, h.opens, same.mpr h.closes⟩⟩

/-- In front of a separator, what precedes a word does not matter. -/
theorem isWord_cons_append (separates : isSeparator c = true) (left : List Char) :
    IsWord (left ++ c :: before) word after ↔ IsWord before word after := by
  have same : (∀ d ∈ (left ++ c :: before).getLast?, isSeparator d = true) ↔
      ∀ d ∈ before.getLast?, isSeparator d = true := by
    cases before <;> simp [separates, List.getLast?_append, List.getLast?_cons]
  exact ⟨fun h => ⟨h.nonempty, h.unbroken, same.mp h.opens, h.closes⟩,
    fun h => ⟨h.nonempty, h.unbroken, same.mpr h.opens, h.closes⟩⟩

/-- What does not contain a character lies on one side of it. -/
theorem beside_of_not_mem (outside : c ∉ word)
    (whole : left ++ c :: right = before ++ word ++ after) :
    (∃ rest, left = before ++ word ++ rest ∧ after = rest ++ c :: right) ∨
      ∃ rest, before = left ++ c :: rest ∧ right = rest ++ word ++ after := by
  rcases List.append_eq_append_iff.mp whole with ⟨rest, eq, tail⟩ | ⟨rest, eq, tail⟩
  · rcases List.cons_eq_append_iff.mp tail with ⟨rfl, rfl⟩ | ⟨rest, rfl, rfl⟩
    · exact .inl ⟨[], by simpa using eq.symm, rfl⟩
    · rcases List.append_eq_append_iff.mp eq with ⟨front, -, rfl⟩ | ⟨front, rfl, cut⟩
      · exact absurd List.mem_append_cons_self outside
      · rcases List.cons_eq_append_iff.mp cut with ⟨-, rfl⟩ | ⟨front, rfl, rfl⟩
        · exact absurd List.mem_cons_self outside
        · exact .inr ⟨front, rfl, rfl⟩
  · exact .inl ⟨rest, eq, tail⟩

/-- A word stands on one side of a separator or on the other. -/
theorem standsAt_append_cons (separates : isSeparator c = true) {place : ℕ} :
    StandsAt (left ++ c :: right) place keyword ↔
      StandsAt left place keyword ∨
        ∃ later, StandsAt right later keyword ∧ left.length + 1 + later = place := by
  constructor
  · rintro ⟨before, after, whole, rfl, holds⟩
    have outside : c ∉ keyword.toList := by
      intro mem
      rw [holds.unbroken c mem] at separates
      cases separates
    rcases beside_of_not_mem outside whole with ⟨rest, rfl, rfl⟩ | ⟨rest, rfl, rfl⟩
    · exact .inl ⟨before, rest, rfl, rfl, (isWord_append_cons separates right).mp holds⟩
    · have inside := (isWord_cons_append separates left).mp holds
      exact .inr ⟨rest.length, ⟨rest, after, rfl, rfl, inside⟩, by simp; omega⟩
  · rintro (⟨before, after, rfl, rfl, holds⟩ | ⟨_, ⟨before, after, rfl, rfl, holds⟩, rfl⟩)
    · exact ⟨before, after ++ c :: right, by simp, rfl,
        (isWord_append_cons separates right).mpr holds⟩
    · exact ⟨left ++ c :: before, after, by simp, by simp; omega,
        (isWord_cons_append separates left).mpr holds⟩

/-! ### Values by places -/

section

variable {P : Type} [Preorder P] {placed : List (P × String)} {occurs : P → String → Prop}

/-- A value is listed with a place. -/
def Listed (placed : List (P × String)) (place : P) (value : String) : Prop :=
  (place, value) ∈ placed

/-- The places ascend. -/
def Ascending (placed : List (P × String)) : Prop := placed.Pairwise fun x y => x.1 < y.1

/-- The values are those that occur, by ascending places. -/
def Enumerates (occurs : P → String → Prop) (values : List String) : Prop :=
  ∃ placed : List (P × String), placed.map Prod.snd = values ∧ Ascending placed ∧
    ∀ place value, Listed placed place value ↔ occurs place value

/-- A value occurs at a place, and nowhere before it. -/
def FirstAt (occurs : P → String → Prop) (value : String) (place : P) : Prop :=
  IsLeast {place | occurs place value} place

/-- A value occurs for the first time before another does. -/
def Precedes (occurs : P → String → Prop) (value other : String) : Prop :=
  ∃ p q, FirstAt occurs value p ∧ FirstAt occurs other q ∧ p < q

theorem Precedes.asymm {P : Type} [PartialOrder P] {occurs : P → String → Prop}
    {value other : String} (h : Precedes occurs value other) : ¬ Precedes occurs other value := by
  rintro ⟨q', p', next', first', less'⟩
  obtain ⟨p, q, first, next, less⟩ := h
  cases first.unique first'
  cases next.unique next'
  exact less.asymm less'

/-- Values whose places come before those of others are listed before them. -/
theorem Enumerates.append {Q R : Type} [Preorder Q] [Preorder R] {second : Q → String → Prop}
    {either : R → String → Prop} (h : Enumerates occurs values) (h' : Enumerates second others)
    {f : P → R} {g : Q → R} (ascends : StrictMono f) (ascends' : StrictMono g)
    (apart : ∀ p q value, occurs p value → f p < g q)
    (either_iff : ∀ r value, either r value ↔
      (∃ p, occurs p value ∧ f p = r) ∨ ∃ q, second q value ∧ g q = r) :
    Enumerates either (values ++ others) := by
  obtain ⟨placed, rfl, ascending, listed⟩ := h
  obtain ⟨placed', rfl, ascending', listed'⟩ := h'
  refine ⟨placed.map (fun x => (f x.1, x.2)) ++ placed'.map (fun x => (g x.1, x.2)), ?_, ?_, ?_⟩
  · simp [Function.comp_def]
  · rw [Ascending, List.pairwise_append, List.pairwise_map, List.pairwise_map]
    refine ⟨ascending.imp (ascends ·), ascending'.imp (ascends' ·), ?_⟩
    intro x hx y hy
    obtain ⟨⟨p, value⟩, held, rfl⟩ := List.mem_map.mp hx
    obtain ⟨⟨q, _⟩, -, rfl⟩ := List.mem_map.mp hy
    exact apart p q value ((listed p value).mp held)
  · intro r value
    simp only [Listed] at listed listed'
    rw [either_iff, Listed, List.mem_append]
    simp [listed, listed']

theorem ascending_concat {x : P × String} :
    Ascending (placed ++ [x]) ↔ Ascending placed ∧ ∀ y ∈ placed, y.1 < x.1 := by
  simp [Ascending, List.pairwise_append]

/-- What is listed with a later place does not change where other values are first. -/
theorem FirstAt.concat {value : String} {p : P} {x : P × String}
    (first : FirstAt (Listed placed) value p) (before : ∀ y ∈ placed, y.1 < x.1) :
    FirstAt (Listed (placed ++ [x])) value p := by
  refine ⟨List.mem_append_left _ first.1, fun q listed => ?_⟩
  rcases List.mem_append.mp listed with listed | listed
  · exact first.2 listed
  · cases List.mem_singleton.mp listed
    exact (before _ first.1).le

/-- A value that has not been listed yet is first where it is listed now. -/
theorem firstAt_concat_of_new {x : P × String} (new : x.2 ∉ placed.map Prod.snd) :
    FirstAt (Listed (placed ++ [x])) x.2 x.1 := by
  refine ⟨List.mem_append_right _ (List.mem_singleton_self _), fun q listed => ?_⟩
  rcases List.mem_append.mp listed with listed | listed
  · exact absurd (List.mem_map_of_mem listed) new
  · exact (congrArg Prod.fst (List.mem_singleton.mp listed)).ge

theorem exists_firstAt (ascending : Ascending placed) {value : String}
    (mem : value ∈ placed.map Prod.snd) : ∃ p, FirstAt (Listed placed) value p := by
  induction placed using List.reverseRecOn with
  | nil => cases mem
  | append_singleton placed x ih =>
    obtain ⟨ascending, before⟩ := ascending_concat.mp ascending
    by_cases held : value ∈ placed.map Prod.snd
    · obtain ⟨p, first⟩ := ih ascending held
      exact ⟨p, first.concat before⟩
    · obtain rfl : value = x.2 := by simpa [held] using mem
      exact ⟨x.1, firstAt_concat_of_new held⟩

end

/-! ### Keywords that are added one after the other -/

theorem add_of_mem (held : keyword ∈ keywords) : add keywords keyword = keywords :=
  if_pos (List.contains_iff_mem.mpr held)

theorem add_of_not_mem (new : keyword ∉ keywords) : add keywords keyword = keywords ++ [keyword] :=
  if_neg (by simpa using new)

theorem mem_add {value : String} :
    value ∈ add keywords keyword ↔ value ∈ keywords ∨ value = keyword := by
  by_cases held : keyword ∈ keywords
  · rw [add_of_mem held]
    exact ⟨.inl, fun h => h.elim id (· ▸ held)⟩
  · rw [add_of_not_mem held, List.mem_append, List.mem_singleton]

theorem mem_foldl_add :
    keyword ∈ values.foldl add keywords ↔ keyword ∈ keywords ∨ keyword ∈ values := by
  induction values generalizing keywords with
  | nil => simp
  | cons value values ih => rw [List.foldl_cons, ih, mem_add, List.mem_cons, or_assoc]

/-- Keywords that are there already stay in front, and those that are new follow. -/
theorem foldl_add (keywords values : List String) :
    values.foldl add keywords =
      keywords ++ (values.foldl add []).filter (fun keyword => decide (keyword ∉ keywords)) := by
  -- The value that is added last is either dropped on both sides or put at the end of both.
  induction values using List.reverseRecOn with
  | nil => simp
  | append_singleton values value ih =>
    rw [List.foldl_concat, List.foldl_concat, ih]
    by_cases held : value ∈ values.foldl add []
    · rw [add_of_mem held, add_of_mem]
      by_cases there : value ∈ keywords <;> simp [held, there]
    · rw [add_of_not_mem held, List.filter_append, ← List.append_assoc]
      by_cases there : value ∈ keywords
      · rw [add_of_mem (List.mem_append_left _ there)]
        simp [there]
      · rw [add_of_not_mem (by simp [there, held])]
        simp [there]

theorem foldl_add_of_nodup (nodup : values.Nodup) : values.foldl add [] = values := by
  induction values using List.reverseRecOn with
  | nil => rfl
  | append_singleton values value ih =>
    obtain ⟨nodup, -, new⟩ := List.nodup_append.mp nodup
    rw [List.foldl_concat, ih nodup, add_of_not_mem]
    exact fun held => new value held value (List.mem_singleton_self _) rfl

/-- If values are added by ascending places, they stay in the order of their first places. -/
theorem pairwise_precedes {P : Type} [Preorder P] {placed : List (P × String)}
    (ascending : Ascending placed) :
    ((placed.map Prod.snd).foldl add []).Pairwise (Precedes (Listed placed)) := by
  induction placed using List.reverseRecOn with
  | nil => exact .nil
  | append_singleton placed x ih =>
    obtain ⟨ascending, before⟩ := ascending_concat.mp ascending
    have still := (ih ascending).imp (S := Precedes (Listed (placed ++ [x])))
      fun ⟨p, q, first, next, less⟩ => ⟨p, q, first.concat before, next.concat before, less⟩
    rw [List.map_append, List.map_singleton, List.foldl_concat]
    by_cases held : x.2 ∈ (placed.map Prod.snd).foldl add []
    · rwa [add_of_mem held]
    · -- The value is new, so it is first where it is added, after the first places of all others.
      rw [add_of_not_mem held, List.pairwise_append]
      refine ⟨still, List.pairwise_singleton _ _, fun value mem last is => ?_⟩
      cases List.mem_singleton.mp is
      simp only [mem_foldl_add, List.not_mem_nil, false_or] at held mem
      obtain ⟨p, first⟩ := exists_firstAt ascending mem
      exact ⟨p, x.1, first.concat before, firstAt_concat_of_new held, before _ first.1⟩

/-! ### The keywords of groups -/

/-- A keyword occurs in groups at a place: the number of a group, and a place in its text. Places in
earlier groups come first. -/
def Occurs (groups : List String) (place : ℕ ×ₗ ℕ) (keyword : String) : Prop :=
  ∃ group, groups[(ofLex place).1]? = some group ∧ StandsAt group.toList (ofLex place).2 keyword

/-- The keywords are those that occur in groups, by the places where they occur first. -/
structure Lists (groups keywords : List String) : Prop where
  mem_iff : ∀ keyword, keyword ∈ keywords ↔ ∃ place, Occurs groups place keyword
  ordered : keywords.Pairwise (Precedes (Occurs groups))

/-- The words of a text, in order. -/
theorem enumerates_ofText (text : List Char) : Enumerates (StandsAt text) (ofText text) := by
  induction text using cut_induction with
  | empty =>
    refine ⟨[], rfl, .nil, fun place value => ?_⟩
    simp only [Listed, List.not_mem_nil, false_iff]
    rintro ⟨before, after, eq, -, holds⟩
    exact holds.nonempty (by simp_all)
  | word text nonempty unbroken =>
    refine ⟨[(0, String.ofList text)], ?_, List.pairwise_singleton _ _, fun place value => ?_⟩
    · rw [ofText_unbroken unbroken nonempty]
      rfl
    · rw [standsAt_unbroken unbroken nonempty, Listed, List.mem_singleton, Prod.mk.injEq]
  | cut left c right separates onLeft onRight =>
    rw [ofText_append_cons separates]
    have ascends : StrictMono (left.length + 1 + ·) := fun _ _ less => Nat.add_lt_add_left less _
    refine onLeft.append onRight strictMono_id ascends ?_ fun place value => ?_
    · rintro place later value ⟨before, after, rfl, rfl, -⟩
      simp
      omega
    · rw [standsAt_append_cons separates]
      simp

/-- The place with one more group in front. -/
def inLater (place : ℕ ×ₗ ℕ) : ℕ ×ₗ ℕ := toLex ((ofLex place).1 + 1, (ofLex place).2)

theorem strictMono_inLater : StrictMono inLater := by
  intro p q less
  rw [Prod.Lex.lt_iff] at less
  simpa [inLater, Prod.Lex.toLex_lt_toLex] using less

theorem strictMono_inFirst : StrictMono fun place : ℕ => (toLex (0, place) : ℕ ×ₗ ℕ) := by
  intro p q less
  simp [Prod.Lex.toLex_lt_toLex, less]

/-- An occurrence is in the first group or in a later one. -/
theorem occurs_cons {group : String} {place : ℕ ×ₗ ℕ} :
    Occurs (group :: groups) place keyword ↔
      (∃ inside, StandsAt group.toList inside keyword ∧ toLex (0, inside) = place) ∨
        ∃ later, Occurs groups later keyword ∧ inLater later = place := by
  constructor
  · rintro ⟨text, found, stands⟩
    obtain ⟨number, inside⟩ := place
    cases number with
    | zero =>
      cases found
      exact .inl ⟨inside, stands, rfl⟩
    | succ number => exact .inr ⟨toLex (number, inside), ⟨text, found, stands⟩, rfl⟩
  · rintro (⟨inside, stands, rfl⟩ | ⟨later, ⟨text, found, stands⟩, rfl⟩)
    · exact ⟨group, rfl, stands⟩
    · exact ⟨text, found, stands⟩

/-- The keywords of groups, in order. -/
theorem enumerates_ofGroups (groups : List String) :
    Enumerates (Occurs groups) (ofGroups groups) := by
  induction groups with
  | nil =>
    refine ⟨[], rfl, .nil, fun place value => ?_⟩
    simp [Occurs, Listed]
  | cons group groups ih =>
    refine (enumerates_ofText group.toList).append ih strictMono_inFirst strictMono_inLater ?_
      fun place value => occurs_cons
    intro p q value _
    simp [inLater, Prod.Lex.toLex_lt_toLex]

theorem split_def (groups : List String) : split groups = (ofGroups groups).foldl add [] := rfl

theorem lists_split (groups : List String) : Lists groups (split groups) := by
  obtain ⟨placed, values, ascending, listed⟩ := enumerates_ofGroups groups
  have same : Listed placed = Occurs groups := by
    funext place value
    exact propext (listed place value)
  refine ⟨fun keyword => ?_, ?_⟩
  · rw [split_def, mem_foldl_add, ← values, ← same]
    simp [Listed]
  · rw [split_def, ← values, ← same]
    exact pairwise_precedes ascending

/-- The split of groups lists their keywords, and it is the only list that does. -/
theorem split_eq_iff : split groups = keywords ↔ Lists groups keywords := by
  refine ⟨fun eq => eq ▸ lists_split groups, fun lists => ?_⟩
  have listed := lists_split groups
  have : Std.Antisymm (Precedes (Occurs groups)) := ⟨fun _ _ h h' => (h.asymm h').elim⟩
  have : Std.Irrefl (Precedes (Occurs groups)) := ⟨fun _ h => h.asymm h⟩
  exact listed.ordered.eq_of_mem_iff lists.ordered fun keyword =>
    (listed.mem_iff keyword).trans (lists.mem_iff keyword).symm

theorem nodup_split (groups : List String) : (split groups).Nodup := by
  refine (lists_split groups).ordered.imp fun precedes same => ?_
  subst same
  exact precedes.asymm precedes

/-- A keyword has characters, and none of them is a separator. -/
theorem unbroken_of_mem_split (mem : keyword ∈ split groups) :
    keyword ≠ "" ∧ Unbroken keyword.toList := by
  obtain ⟨place, group, -, before, after, -, -, holds⟩ :=
    ((lists_split groups).mem_iff keyword).mp mem
  refine ⟨?_, holds.unbroken⟩
  rintro rfl
  exact holds.nonempty rfl

/-- With more groups, the keywords that are new follow. -/
theorem split_append (groups others : List String) :
    split (groups ++ others) =
      split groups ++ (split others).filter (fun keyword => decide (keyword ∉ split groups)) := by
  rw [split_def, ofGroups, List.flatMap_append, List.foldl_append, foldl_add]
  rfl

/-! ### The same text in other groups -/

/-- Groups that hold the same text, divided at other separators: a group may be cut at a separator,
which is left out, and a group without text may be dropped. -/
inductive Regroups : List String → List String → Prop where
  | cut {c : Char} (separates : isSeparator c = true) (left right : String) (groups : List String) :
      Regroups ((left ++ String.singleton c ++ right) :: groups) (left :: right :: groups)
  | drop (groups : List String) : Regroups ("" :: groups) groups
  | cons (group : String) {groups others : List String} (rest : Regroups groups others) :
      Regroups (group :: groups) (group :: others)
  | refl (groups : List String) : Regroups groups groups
  | symm {groups others : List String} (h : Regroups groups others) : Regroups others groups
  | trans {groups between others : List String} (h : Regroups groups between)
      (h' : Regroups between others) : Regroups groups others

/-- What stands in the groups is the same. -/
theorem Regroups.ofGroups_eq (h : Regroups groups others) : ofGroups groups = ofGroups others := by
  induction h with
  | cut separates left right groups =>
    simp [ofGroups, ofText_append_cons separates]
  | drop groups => simp [ofGroups]
  | cons group _ ih => exact congrArg (ofText group.toList ++ ·) ih
  | refl groups => rfl
  | symm _ ih => exact ih.symm
  | trans _ _ ih ih' => exact ih.trans ih'

theorem Regroups.split_eq (h : Regroups groups others) : split groups = split others := by
  rw [split_def, split_def, h.ofGroups_eq]

/-- All groups, joined by commas into one. -/
theorem regroups_intercalate (groups : List String) : Regroups [",".intercalate groups] groups := by
  induction groups with
  | nil => exact .drop []
  | cons group groups ih =>
    cases groups with
    | nil => exact .refl _
    | cons next groups =>
      rw [String.intercalate_cons_cons]
      exact .trans (.cut (c := ',') rfl group _ []) (.cons group ih)

/-- Keywords are split as they are. -/
theorem ofGroups_of_unbroken (h : ∀ keyword ∈ keywords, keyword ≠ "" ∧ Unbroken keyword.toList) :
    ofGroups keywords = keywords := by
  induction keywords with
  | nil => rfl
  | cons keyword keywords ih =>
    obtain ⟨⟨nonempty, unbroken⟩, others⟩ := List.forall_mem_cons.mp h
    have alone : ofText keyword.toList = [keyword] := by
      rw [ofText_unbroken unbroken (by simpa using nonempty), String.ofList_toList]
    rw [ofGroups, List.flatMap_cons, alone, List.singleton_append]
    exact congrArg (keyword :: ·) (ih others)

theorem split_split (groups : List String) : split (split groups) = split groups := by
  rw [split_def, ofGroups_of_unbroken fun _ => unbroken_of_mem_split,
    foldl_add_of_nodup (nodup_split groups)]

/-- Splitting brings groups into a normal form: the keywords are distinct, none is empty or holds a
comma or white space, and they are those that occur in the groups, in the order in which they first
do; the text in other groups, joined into one, or split already, has the same keywords; and more
groups add those that are new. -/
theorem split_normalizes (groups : List String) :
    (split groups).Nodup ∧
      (∀ keyword ∈ split groups, keyword ≠ "" ∧
        ∀ c ∈ keyword.toList, c ≠ ',' ∧ Property.space.holds c = false) ∧
      (∀ keywords, split groups = keywords ↔ Lists groups keywords) ∧
      (∀ others, Regroups groups others → split others = split groups) ∧
      split [",".intercalate groups] = split groups ∧
      split (split groups) = split groups ∧
      ∀ more, split (groups ++ more) =
        split groups ++ (split more).filter (fun keyword => decide (keyword ∉ split groups)) := by
  refine ⟨nodup_split groups, fun keyword mem => ?_, fun _ => split_eq_iff,
    fun _ regroups => regroups.split_eq.symm, (regroups_intercalate groups).split_eq,
    split_split groups, split_append groups⟩
  obtain ⟨nonempty, unbroken⟩ := unbroken_of_mem_split mem
  refine ⟨nonempty, fun c mem => ?_⟩
  simpa [isSeparator] using unbroken c mem

theorem split_normalizes_shared :
    Regroups ["if,else", "for, if", " while "] ["if", "else for, if", " while "] ∧
      split ["if", "else for, if", " while "] = split ["if,else", "for, if", " while "] ∧
      split ["if,else", "for, if", " while "] = ["if", "else", "for", "while"] := by
  have comma : "if" ++ String.singleton ',' ++ "else" = "if,else" := by decide
  have blank : "else" ++ String.singleton ' ' ++ "for, if" = "else for, if" := by decide
  have apart := Regroups.cut (c := ',') rfl "if" "else" ["for, if", " while "]
  have joined := Regroups.cut (c := ' ') (by decide +kernel) "else" "for, if" [" while "]
  rw [comma] at apart
  rw [blank] at joined
  have regroups := apart.trans (joined.symm.cons "if")
  exact ⟨regroups, (split_normalizes _).2.2.2.1 _ regroups, by decide +kernel⟩

end Tincture.Keyword
