import Mathlib.Data.List.Forall2
import Mathlib.Data.List.Permutation
import Tincture.Proofs.Lexer.Partition
import Tincture.Proofs.Union.Anything
import Tincture.Proofs.Union.Rewriting
import Tincture.Proofs.Union.Sturdy

/-!
The first alternative wins.

The patterns of a union are tried in one go, as alternatives of a single expression. If they are
phrases, and all ignore case or all mind it, it comes to the same to try them one by one
(`first_alternative_wins`): the text of the union is again that of a phrase, whose expression has
those of the patterns as alternatives (`node_joined`).

The groups of a pattern do not capture in a union. Where case is ignored that joins literal text
which a group keeps apart, and a character that folds to several may then match across the border
of the group (`group_keeps_apart`). So wherever such a character comes, it is the patterns without
capturing groups that are tried; everywhere else it is also the patterns as they are. A class that
ends with an escape for a control character does not belong to a phrase, and what is rewritten then
need not be what the engine reads (`control_takes_bracket`).
-/

namespace Tincture

open Regex Tincture.Union

/-! ### Phrases joined by bars -/

namespace Regex

/-- The phrases as groups, joined by bars. -/
def joined : List Phrase → Phrase
  | [] => .done
  | [x] => .group .plain x none .done
  | x :: xs => .group .plain x none (.bar (joined xs))

theorem text_joined (xs : List Phrase) :
    (joined xs).text = ['|'].intercalate (xs.map fun x => grouped x.text) := by
  induction xs with
  | nil => rfl
  | cons x xs ih =>
    cases xs with
    | nil => simp [joined, Phrase.text, Grouping.mark, Quantifier.textOf, grouped]
    | cons y xs =>
      rw [List.map_cons] at ih
      rw [List.map_cons, List.map_cons, List.intercalate_cons_cons, ← ih]
      simp [joined, Phrase.text, Grouping.mark, Quantifier.textOf, grouped]

theorem sound_joined {xs : List Phrase} (sound : ∀ x ∈ xs, x.Sound) : (joined xs).Sound := by
  induction xs with
  | nil => trivial
  | cons x xs ih =>
    obtain ⟨first, others⟩ := List.forall_mem_cons.mp sound
    cases xs with
    | nil => exact ⟨first, ⟨id, rfl⟩, trivial⟩
    | cons y xs => exact ⟨first, ⟨id, rfl⟩, ih others⟩

/-- The expressions of phrases joined by bars are alternatives. -/
theorem node_joined {ignoreCase : Bool} {xs : List Phrase} (nonempty : xs ≠ [])
    (bare : ∀ x ∈ xs, (x.onto ignoreCase 0 {}).1 = 0) :
    (joined xs).node ignoreCase = Node.alternatives (xs.map (·.node ignoreCase)) := by
  have onto (branches : List Node) :
      ((joined xs).onto ignoreCase 0 { branches }).2.branch.branches.reverse =
        branches.reverse ++ xs.map (·.node ignoreCase) := by
    induction xs generalizing branches with
    | nil => exact absurd rfl nonempty
    | cons x xs ih =>
      obtain ⟨first, others⟩ := List.forall_mem_cons.mp bare
      cases xs with
      | nil => exact List.reverse_cons
      | cons y xs =>
        have next := ih (List.cons_ne_nil y xs) others (x.node ignoreCase :: branches)
        rw [List.reverse_cons, List.append_assoc] at next
        refine Eq.trans ?_ next
        change ((joined (y :: xs)).onto ignoreCase (x.onto ignoreCase 0 {}).1
          { branches := x.node ignoreCase :: branches }).2.branch.branches.reverse = _
        rw [first]
  exact congrArg Node.alternatives (onto [])

end Regex

/-! ### Clauses -/

/-- A phrase whose braces stand for themselves, after a caret or not. -/
structure Clause where
  anchored : Bool := false
  phrase : Phrase
  literal : phrase.isLiteral = true

namespace Clause

/-- The text of a clause. -/
def text (c : Clause) : List Char := (if c.anchored then ['^'] else []) ++ c.phrase.text

/-- The clause as a pattern. -/
def pattern (ignoreCase : Bool) (c : Clause) : Pattern :=
  { source := String.ofList c.text, ignoreCase }

/-- The regular expression of the clause by itself, without its caret. -/
def regex (ignoreCase : Bool) (c : Clause) : Regex :=
  { node := c.phrase.node ignoreCase, nonEmpty := true }

/-- The regular expression of the clause as an alternative of a union. -/
def alternative (ignoreCase : Bool) (c : Clause) : Regex :=
  { node := c.phrase.demoted.node ignoreCase, nonEmpty := true }

variable {ignoreCase : Bool} {c : Clause}

theorem sound_of_compile {r : Regex} (h : (c.pattern ignoreCase).compile = .ok r) :
    c.phrase.Sound := by
  simp only [Pattern.compile, Pattern.check, Pattern.forbiddenFlag?, pattern, bind, Except.bind,
    Pattern.compileSource, Engine.compile_regex, Regex.compile, String.toList_ofList] at h
  cases parsed : Node.parse ignoreCase c.text with
  | error fault =>
    rw [parsed] at h
    cases h
  | ok result => exact Phrase.sound_of_parse c.literal c.anchored parsed

theorem compile_phrase {x : Phrase} (sound : x.Sound) (ignoreCase : Bool) :
    Regex.compile (String.ofList x.text) ignoreCase true =
      .ok { node := x.node ignoreCase, nonEmpty := true } := by
  rw [Regex.compile, String.toList_ofList, Phrase.parse_text _ sound]
  rfl

/-- As an alternative a clause matches what it matches by itself, where literal runs can be joined.
-/
theorem matchAt?_alternative (sound : c.phrase.Sound) {text : Array Char} {pos : Nat}
    (joins : Node.Joins { text, origin := pos } ignoreCase) :
    ((c.alternative ignoreCase).matchAt? text pos).map (·.pos) =
      ((c.regex ignoreCase).matchAt? text pos).map (·.pos) :=
  (@matchAt?_of_alike (c.regex ignoreCase) (c.alternative ignoreCase) _ _ _ _
    (c.phrase.alike_demoted joins sound) rfl).symm

theorem alternativeOf_text (c : Clause) (captured : Nat) :
    alternativeOf false captured c.text = (c.phrase.demoted.text, captured) := by
  have phrase := alternativeOf_of_rewrites (rewrites_phrase c.phrase) captured
  have loose : Loose (c.phrase.text ++ []) := c.phrase.loose_text Ended.nil.loose
  rw [List.append_nil] at loose
  unfold text
  split
  · exact (alternativeOf_caret loose.2.2 captured).trans phrase
  · exact phrase

end Clause

/-! ### The union of clauses -/

namespace Union

variable {ignoreCase : Bool} {clauses : List Clause}

/-- The clause of least priority. -/
def lastClause : Clause := { phrase := anything, literal := rfl }

theorem pattern_lastClause : lastClause.pattern false = catchAll := by decide +kernel

/-- In a union of patterns that all ignore case or all mind it, none spells out both cases. -/
theorem detect_patterns (ignoreCase : Bool) (clauses : List Clause) :
    let mode := CaseMode.detect (clauses.map (·.pattern ignoreCase) ++ [catchAll])
    (ignoreCase && mode.foldCase) = false ∧ ∀ c ∈ clauses, mode.ignoreCase = ignoreCase := by
  have last (b : Bool) : CaseMode.detectFrom b [catchAll] = ⟨b, false⟩ := by
    have bare : hasBareLetters catchAll.source.toList = false := by decide +kernel
    have minding : catchAll.ignoreCase = false := rfl
    simp only [CaseMode.detectFrom, minding, bare, Bool.false_eq_true, if_false]
  cases ignoreCase with
  | true =>
    have all (b : Bool) : CaseMode.detectFrom b (clauses.map (·.pattern true) ++ [catchAll]) =
        ⟨b || !clauses.isEmpty, false⟩ := by
      induction clauses generalizing b with
      | nil => simpa using last b
      | cons c clauses ih => simpa [CaseMode.detectFrom, Clause.pattern] using ih true
    refine ⟨by rw [CaseMode.detect, all]; rfl, fun c mem => ?_⟩
    rw [CaseMode.detect, all]
    cases clauses with
    | nil => cases mem
    | cons => rfl
  | false =>
    refine ⟨rfl, fun _ _ => ?_⟩
    clear * - last
    rw [CaseMode.detect]
    induction clauses with
    | nil => exact congrArg CaseMode.ignoreCase (last false)
    | cons c clauses ih =>
      rw [List.map_cons, List.cons_append, CaseMode.detectFrom]
      split
      · rename_i ignoring
        cases ignoring
      · split
        · rfl
        · exact ih

/-- The text of a union of clauses is that of a phrase. -/
theorem sourceOf_clauses (ignoreCase : Bool) (clauses : List Clause) :
    (sourceOf (clauses.map (·.pattern ignoreCase) ++ [catchAll])).toList =
      (joined (clauses.map (·.phrase.demoted) ++ [anything])).text := by
  obtain ⟨unfolded, -⟩ := detect_patterns ignoreCase clauses
  rw [sourceOf_toList]
  generalize CaseMode.detect (clauses.map (·.pattern ignoreCase) ++ [catchAll]) = mode at unfolded ⊢
  have written (captured : Nat) :
      alternativesOf mode captured (clauses.map (·.pattern ignoreCase) ++ [catchAll]) =
        (clauses.map (·.phrase.demoted) ++ [anything]).map Phrase.text := by
    induction clauses with
    | nil =>
      have last := lastClause.alternativeOf_text captured
      have spelled : lastClause.text = catchAll.source.toList := by
        rw [← pattern_lastClause]
        exact String.toList_ofList.symm
      rw [spelled] at last
      have minding : catchAll.ignoreCase = false := rfl
      simp only [List.map_nil, List.nil_append, alternativesOf, minding, Bool.false_and, last]
      rfl
    | cons c clauses ih =>
      have spelled : (c.pattern ignoreCase).source.toList = c.text := String.toList_ofList
      have ignoring : (c.pattern ignoreCase).ignoreCase = ignoreCase := rfl
      rw [List.map_cons, List.cons_append, alternativesOf, ignoring, unfolded, spelled,
        Clause.alternativeOf_text]
      exact congrArg _ ih
  rw [written, List.map_map, text_joined]
  rfl

/-- The regular expression that tries those of the clauses in order, and then that for any
character. -/
def oneByOne (ignoreCase lastIgnores : Bool) (clauses : List Clause) : Regex :=
  { node := Node.alternatives
      (clauses.map (·.phrase.demoted.node ignoreCase) ++ [anything.node lastIgnores])
    nonEmpty := true }

/-- A union of clauses tries them one by one. -/
theorem compile_clauses (sound : ∀ c ∈ clauses, c.phrase.Sound) (ignoreCase : Bool) :
    ∃ u lastIgnores, compile (clauses.map (·.pattern ignoreCase)) = .ok u ∧
      u.regex = oneByOne ignoreCase lastIgnores clauses := by
  obtain ⟨-, mode_eq⟩ := detect_patterns ignoreCase clauses
  have source := sourceOf_clauses ignoreCase clauses
  have checks : ∀ p ∈ clauses.map (·.pattern ignoreCase) ++ [catchAll], p.check = .ok () := by
    simp only [List.mem_append, List.mem_map, List.mem_singleton]
    rintro p (⟨c, mem, rfl⟩ | rfl) <;> rfl
  have compiled (node : Node) (groups : Nat) := @compile_of_parse
    (clauses.map (·.pattern ignoreCase)) node groups checks
  generalize CaseMode.detect (clauses.map (·.pattern ignoreCase) ++ [catchAll]) = mode
    at mode_eq compiled
  have sound : ∀ x ∈ clauses.map (·.phrase.demoted) ++ [anything], x.Sound := by
    simp only [List.mem_append, List.mem_map, List.mem_singleton]
    rintro x (⟨c, mem, rfl⟩ | rfl)
    · exact c.phrase.sound_demoted.mpr (sound c mem)
    · exact anything_sound
  have bare : ∀ x ∈ clauses.map (·.phrase.demoted) ++ [anything],
      (x.onto mode.ignoreCase 0 {}).1 = 0 := by
    simp only [List.mem_append, List.mem_map, List.mem_singleton]
    rintro x (⟨c, mem, rfl⟩ | rfl)
    · exact c.phrase.onto_demoted_fst
    · rfl
  have nodes : (clauses.map (·.phrase.demoted) ++ [anything]).map (·.node mode.ignoreCase) =
      clauses.map (·.phrase.demoted.node ignoreCase) ++ [anything.node mode.ignoreCase] := by
    rw [List.map_append, List.map_map]
    exact congrArg (· ++ _) (List.map_congr_left fun c mem => by rw [← mode_eq c mem]; rfl)
  have parsed := (joined (clauses.map (·.phrase.demoted) ++ [anything])).parse_text
    (sound_joined sound) mode.ignoreCase
  rw [node_joined (by simp) bare, nodes, ← source] at parsed
  exact ⟨_, mode.ignoreCase, compiled _ _ parsed, rfl⟩

end Union

/-! ### Tokens -/

/-- Where the match of the first regular expression that matches at a position ends. -/
def firstMatch? (regexes : List Regex) (text : Array Char) (pos : Nat) : Option Nat :=
  regexes.findSome? fun r => (r.matchAt? text pos).map (·.pos)

/-- The text that the first regular expression matches at a position, which is not empty; a single
character if none matches. -/
def IsFirstMatch (regexes : List Regex) (text : List Char) (start : Nat) (token : List Char) :
    Prop :=
  match firstMatch? regexes text.toArray start with
  | some stop => start < stop ∧ stop ≤ text.length ∧ token = text.extract start stop
  | none => ∃ c, text[start]? = some c ∧ token = [c]

namespace Union

variable {ignoreCase : Bool} {clauses : List Clause}

/-- At any position within the text the first alternative that matches is found, or else a single
character. -/
theorem matchAt?_oneByOne {text : Array Char} {pos : Nat} (lastIgnores : Bool)
    (inside : pos < text.size) :
    ((oneByOne ignoreCase lastIgnores clauses).matchAt? text pos).map (·.pos) =
      some ((firstMatch? (clauses.map (·.alternative ignoreCase)) text pos).getD (pos + 1)) := by
  have alternatives : ((clauses.map (·.phrase.demoted.node ignoreCase)).findSome? fun a =>
      ({ node := a, nonEmpty := true } : Regex).matchAt? text pos).map (·.pos) =
        firstMatch? (clauses.map (·.alternative ignoreCase)) text pos := by
    induction clauses with
    | nil => rfl
    | cons c clauses ih =>
      rw [firstMatch?, List.map_cons, List.map_cons, List.findSome?_cons, List.findSome?_cons,
        Clause.alternative]
      cases ({ node := c.phrase.demoted.node ignoreCase, nonEmpty := true } : Regex).matchAt?
        text pos with
      | none => exact ih
      | some s => rfl
  rw [oneByOne, matchAt?_alternatives (by simp), List.findSome?_append, List.findSome?_singleton,
    matchAt?_anything lastIgnores inside, ← alternatives]
  generalize List.findSome? _ _ = found
  cases found <;> rfl

/-- A union of clauses cuts a text where the first alternative that matches ends. -/
theorem tokens_clauses {u : Union} {lastIgnores : Bool}
    (regex : u.regex = oneByOne ignoreCase lastIgnores clauses) (text : List Char) :
    u.tokens text =
      (cuts (firstMatch? (clauses.map (·.alternative ignoreCase)) text.toArray) text.length 0).map
        fun (start, stop) => (text.toArray.extract start stop).toList := by
  refine congrArg (List.map _) (cuts_congr (fun pos inside => ?_) 0)
  have reached := @matchAt?_oneByOne ignoreCase clauses _ _ lastIgnores inside
  rw [← regex] at reached
  exact congrArg (·.getD (pos + 1)) reached

/-- Where literal runs can be joined, the first alternative that matches is that of the first clause
that matches by itself. -/
theorem firstMatch?_alternatives (sound : ∀ c ∈ clauses, c.phrase.Sound) {text : Array Char}
    {pos : Nat} (joins : Node.Joins { text, origin := pos } ignoreCase) :
    firstMatch? (clauses.map (·.alternative ignoreCase)) text pos =
      firstMatch? (clauses.map (·.regex ignoreCase)) text pos := by
  induction clauses with
  | nil => rfl
  | cons c clauses ih =>
    obtain ⟨first, others⟩ := List.forall_mem_cons.mp sound
    have rest := ih others
    unfold firstMatch? at rest ⊢
    rw [List.map_cons, List.map_cons, List.findSome?_cons, List.findSome?_cons, rest,
      Clause.matchAt?_alternative first joins]

/-- A token is what the first alternative that matches at its position matches there. -/
theorem isFirstMatch_of_tokens (sound : ∀ c ∈ clauses, c.phrase.Sound) {u : Union}
    {lastIgnores : Bool} (regex : u.regex = oneByOne ignoreCase lastIgnores clauses)
    {text token : List Char} {before after : List (List Char)}
    (cut : u.tokens text = before ++ token :: after) :
    IsFirstMatch (clauses.map (·.alternative ignoreCase)) text before.flatten.length token := by
  obtain ⟨inside, extract⟩ := extract_of_cuts cut
  rw [Nat.zero_add] at inside extract
  generalize before.flatten.length = pos at inside extract ⊢
  have reached := @matchAt?_oneByOne ignoreCase clauses _ _ lastIgnores inside
  rw [← regex] at reached
  rw [IsFirstMatch]
  cases found : firstMatch? (clauses.map (·.alternative ignoreCase)) text.toArray pos with
  | some stop =>
    rw [found] at reached
    obtain ⟨r, mem, matched⟩ := List.exists_of_findSome?_eq_some found
    obtain ⟨c, memc, rfl⟩ := List.mem_map.mp mem
    obtain ⟨further, within⟩ := bounds_of_matchAt?
      (c.phrase.demoted.node_plain (c.phrase.sound_demoted.mpr (sound c memc))) rfl matched
    refine ⟨further, within, ?_⟩
    rw [extract stop reached further, Array.toList_extract]
  | none =>
    rw [found] at reached
    have lt : pos < text.length := inside
    refine ⟨text[pos], List.getElem?_eq_getElem lt, ?_⟩
    rw [extract _ reached (Nat.lt_succ_self _), Array.toList_extract, List.extract_eq_take_drop,
      List.drop_eq_getElem_cons lt, Option.getD_none, Nat.add_sub_cancel_left,
      List.take_succ_cons, List.take_zero]

end Union

/-- In a union of clauses that all ignore case or all mind it, the token at a position is what the
first of them matches there by itself, with its groups not capturing; and also with its groups as
they are, if case is minded or no character from there on folds to several. -/
theorem first_alternative_wins {clauses : List Clause} {ignoreCase : Bool}
    (compiles : ∀ c ∈ clauses, ∃ r, (c.pattern ignoreCase).compile = .ok r) :
    ∃ u alone demoted, Union.compile (clauses.map (·.pattern ignoreCase)) = .ok u ∧
      List.Forall₂ (fun c r => Regex.compile (String.ofList c.phrase.text) ignoreCase true =
        .ok r) clauses alone ∧
      List.Forall₂ (fun c r => Regex.compile (String.ofList c.phrase.demoted.text) ignoreCase
        true = .ok r) clauses demoted ∧
      ∀ text before token after, u.tokens text = before ++ token :: after →
        IsFirstMatch demoted text before.flatten.length token ∧
          ((ignoreCase = true →
              ∀ c ∈ text.drop before.flatten.length, (fold c.toNat).length = 1) →
            IsFirstMatch alone text before.flatten.length token) := by
  have sound : ∀ c ∈ clauses, c.phrase.Sound := fun c mem =>
    Clause.sound_of_compile (compiles c mem).choose_spec
  obtain ⟨u, lastIgnores, compiled, regex⟩ := Union.compile_clauses sound ignoreCase
  refine ⟨u, clauses.map (·.regex ignoreCase), clauses.map (·.alternative ignoreCase), compiled,
    ?_, ?_, ?_⟩
  · refine List.forall₂_map_right_iff.mpr (List.forall₂_same.mpr fun c mem => ?_)
    exact Clause.compile_phrase (sound c mem) ignoreCase
  · refine List.forall₂_map_right_iff.mpr (List.forall₂_same.mpr fun c mem => ?_)
    exact Clause.compile_phrase (c.phrase.sound_demoted.mpr (sound c mem)) ignoreCase
  intro text before token after cut
  have demoted := Union.isFirstMatch_of_tokens sound regex cut
  refine ⟨demoted, fun single => ?_⟩
  have joins : Node.Joins { text := text.toArray, origin := before.flatten.length } ignoreCase := by
    cases ignoreCase with
    | true => exact Node.joins_folded (by simpa [Subject.Single] using single rfl)
    | false => exact Node.joins_literal _
  rw [IsFirstMatch, Union.firstMatch?_alternatives sound joins] at demoted
  exact demoted

/-- Two patterns that capture, one after a caret and one that repeats its group lazily; one with a
class of escapes before an opening brace, and one with a class that has a property. -/
def capturingClauses : List Clause :=
  [{ anchored := true
     phrase := .group .capture
       (.atom (.symbol 'a' rfl) none
         (.bar (.atom (.symbol 'a' rfl) none (.atom (.symbol 'b' rfl) none .done))))
       (some ⟨.plus, false⟩) (.group (.ahead true) (.atom (.symbol 'b' rfl) none .done) none .done)
     literal := rfl },
    { phrase := .group .capture
        (.atom (.bracket "a-c".toList (.of_isClassBody (by decide +kernel)) (by decide +kernel))
          (some ⟨.query, false⟩) .done)
        (some ⟨.star, true⟩) (.atom (.symbol 'c' rfl) none .done)
      literal := rfl },
    { phrase := .atom (.bracket "\\x5b\\u005d\\101\\cA".toList
          (.of_isClassBody (by decide +kernel)) (by decide +kernel)) (some ⟨.plus, false⟩)
        (.brace none (.atom (.symbol 'b' rfl) none .done))
      literal := by decide },
    { phrase := .atom (.bracket "\\p\x7bUpper\x7d".toList
          (.of_isClassBody (by decide +kernel)) (by decide +kernel)) none .done
      literal := rfl }]

/-- Those patterns. -/
def capturingPatterns : List Pattern :=
  [{ source := "^(a|ab)+(?!b)" }, { source := "([a-c]?)*?c" },
    { source := "[\\x5b\\u005d\\101\\cA]+\x7bb" }, { source := "[\\p\x7bUpper\x7d]" }]

theorem first_alternative_wins_capturing :
    capturingClauses.map (·.pattern false) = capturingPatterns ∧
      (∀ c ∈ capturingClauses, ∃ r, (c.pattern false).compile = .ok r) ∧
      ∃ u alone demoted, Union.compile (capturingClauses.map (·.pattern false)) = .ok u ∧
        (List.Forall₂ (fun c r => Regex.compile (String.ofList c.phrase.text) false true =
          .ok r) capturingClauses alone ∧
        List.Forall₂ (fun c r => Regex.compile (String.ofList c.phrase.demoted.text) false true =
          .ok r) capturingClauses demoted ∧
        ∀ text before token after, u.tokens text = before ++ token :: after →
          IsFirstMatch demoted text before.flatten.length token ∧
            ((false = true → ∀ c ∈ text.drop before.flatten.length, (fold c.toNat).length = 1) →
              IsFirstMatch alone text before.flatten.length token)) ∧
        u.tokens "ab[A\x7bbbac".toList = ["ab".toList, "[A\x7bb".toList, "bac".toList] := by
  have patterns : capturingClauses.map (·.pattern false) = capturingPatterns := by decide +kernel
  have compiles : ∀ c ∈ capturingClauses, ∃ r, (c.pattern false).compile = .ok r := by
    have all : ∀ p ∈ capturingClauses.map (·.pattern false), p.compile.isOk = true := by
      rw [patterns]
      decide +kernel
    intro c mem
    have ok := all _ (List.mem_map_of_mem mem)
    cases compiled : (c.pattern false).compile with
    | error e =>
      rw [compiled] at ok
      cases ok
    | ok r => exact ⟨r, rfl⟩
  obtain ⟨u, alone, demoted, compiled, wins⟩ := first_alternative_wins compiles
  refine ⟨patterns, compiles, u, alone, demoted, compiled, wins, ?_⟩
  have sound : ∀ c ∈ capturingClauses, c.phrase.Sound := fun c mem =>
    Clause.sound_of_compile (compiles c mem).choose_spec
  obtain ⟨u', lastIgnores, compiled', regex⟩ := Union.compile_clauses sound false
  cases compiled.symm.trans compiled'
  -- The last pattern is not needed in the text.
  have found {pos stop : Nat} (first : firstMatch? ((capturingClauses.take 3).map
      (·.alternative false)) "ab[A\x7bbbac".toList.toArray pos = some stop) :
      firstMatch? (capturingClauses.map (·.alternative false)) "ab[A\x7bbbac".toList.toArray pos =
        some stop := by
    rw [← List.take_append_drop 3 capturingClauses, List.map_append, firstMatch?,
      List.findSome?_append]
    exact Option.or_eq_some_iff.mpr (.inl first)
  rw [Union.tokens_clauses regex,
    Union.cuts_of_reach (by decide) (@found 0 2 (by cbv)) (by decide),
    Union.cuts_of_reach (by decide) (@found 2 6 (by cbv)) (by decide),
    Union.cuts_of_reach (by decide) (@found 6 9 (by cbv)) (by decide),
    Union.cuts_of_le (by decide)]
  rfl

/-! ### Patterns that match otherwise in a union -/

/-- In a union by itself the pattern makes one token of the text, which is not what it matches
alone. -/
def Strays (p : Pattern) (text : List Char) : Prop :=
  ∃ (u : Union) (r alone : Regex), Union.compile [p] = .ok u ∧ p.compile = .ok r ∧
    Regex.compile p.source p.ignoreCase true = .ok alone ∧
    u.tokens text = [text] ∧ ¬ IsFirstMatch [alone] text 0 text

/-- If a pattern does not match alone, a token of several characters is not what it matches. -/
theorem strays_of_missed {p : Pattern} {text : List Char} {u : Union} {node : Node} {groups : Nat}
    (compiled : Union.compile [p] = .ok u) (checked : p.check = .ok ())
    (parsed : Node.parse p.ignoreCase p.source.toList = .ok (node, groups))
    (tokens : u.tokens text = [text]) (several : 1 < text.length)
    (missed : firstMatch? [{ node, nonEmpty := true }] text.toArray 0 = none) : Strays p text := by
  refine ⟨u, { node, nonEmpty := false }, { node, nonEmpty := true }, compiled, ?_, ?_, tokens, ?_⟩
  · simp only [Pattern.compile, checked, Pattern.compileSource, Engine.compile_regex, Regex.compile,
      parsed, bind, Except.bind, Except.map]
  · simp only [Regex.compile, parsed, Except.map]
  · rw [IsFirstMatch, missed]
    rintro ⟨c, -, single⟩
    rw [single] at several
    exact absurd several (Nat.lt_irrefl 1)

/-- The letter that folds to two. -/
theorem fold_sharpS : fold 0xdf = [0x73, 0x73] := by
  have sorted : (Fold.sequences.map (·.1)).Pairwise fun a b => decide (a ≤ b) = true := by
    decide +kernel
  have spread : Fold.spread.contains 0xdf = true := by
    rw [Fold.spread, CodeSet.ofList, List.mergeSort_of_pairwise sorted]
    decide +kernel
  simp [fold, spread, Fold.sequences]

/-- Two letters, the second of which is a group, and another one. -/
def letterInGroup : Clause where
  phrase := .atom (.symbol 's' rfl) none
    (.group .capture (.atom (.symbol 's' rfl) none .done) none (.atom (.symbol 'x' rfl) none .done))
  literal := rfl

/-- With the group that captures, the pattern does not match a letter that folds to two of its
letters; in a union it does. -/
theorem group_keeps_apart : Strays { source := "s(s)x", ignoreCase := true } ['ß', 'x'] := by
  have sound : ∀ c ∈ [letterInGroup], c.phrase.Sound := by
    intro c mem
    cases List.mem_singleton.mp mem
    exact ⟨⟨_, rfl⟩, ⟨id, rfl⟩, ⟨⟨_, rfl⟩, ⟨id, rfl⟩, trivial⟩, ⟨id, rfl⟩, ⟨_, rfl⟩, ⟨id, rfl⟩,
      trivial⟩
  have pattern : [letterInGroup].map (·.pattern true) =
      [{ source := "s(s)x", ignoreCase := true }] := by decide +kernel
  have source : "s(s)x".toList = letterInGroup.phrase.text := by decide +kernel
  have parsed := letterInGroup.phrase.parse_text (sound _ (List.mem_singleton_self _)) true
  rw [← source] at parsed
  obtain ⟨u, last, compiled, regex⟩ := Union.compile_clauses sound true
  rw [pattern] at compiled
  have apart : letterInGroup.phrase.node true = .seq (.text [0x73] true)
      (.seq (.capture 1 (.text [0x73] true)) (.text [0x78] true)) := rfl
  have together : letterInGroup.phrase.demoted.node true = .text [0x73, 0x73, 0x78] true := rfl
  have sharpS : ('ß').toNat = 0xdf := rfl
  have letterX : fold 0x78 = [0x78] := rfl
  have found : firstMatch? ([letterInGroup].map (·.alternative true)) #['ß', 'x'] 0 = some 2 := by
    simp [firstMatch?, matchAt?, matchFrom?, Clause.alternative, together, Node.run,
      Subject.folded?, Subject.foldedIn?, sharpS, fold_sharpS, letterX, Subject.dropRun?,
      Spot.moveTo]
  have cut : Union.cuts (firstMatch? ([letterInGroup].map (·.alternative true)) #['ß', 'x']) 2 0 =
      [(0, 2)] := by
    rw [Union.cuts_of_reach (by decide) found (by decide), Union.cuts_of_le (Nat.le_refl 2)]
  have tokens : u.tokens ['ß', 'x'] = [['ß', 'x']] := by
    rw [Union.tokens_clauses regex]
    exact congrArg (List.map _) cut
  have missed : firstMatch? [⟨letterInGroup.phrase.node true, true⟩] #['ß', 'x'] 0 = none := by
    simp [firstMatch?, matchAt?, matchFrom?, apart, Node.run, Subject.folded?,
      Subject.foldedIn?, sharpS, fold_sharpS, Subject.dropRun?]
  exact strays_of_missed compiled rfl parsed tokens (by decide) missed

/-- A class of a control character and two parentheses. -/
def controlInClass : Pattern := { source := "[\\c]()]+" }

/-- The pattern as it is read alone. -/
def controlNode : Node := .repetition 1 none true (.one ⟨#[29, 30, 40, 42]⟩)

/-- Behind `\c` a closing bracket belongs to the escape. The rewriting of a pattern takes it for the
end of the class, and what stands behind it for a group, which then does not capture. -/
theorem control_takes_bracket : Strays controlInClass ['?', '?'] := by
  have alone : Node.parse false "[\\c]()]+".toList = .ok (controlNode, 0) := by
    simp only [String.reduceToList]
    cbv
  have minding : (CaseMode.detect ([controlInClass] ++ [catchAll])).ignoreCase = false := by
    decide +kernel
  have source : sourceOf ([controlInClass] ++ [catchAll]) =
      "(?:[\\c](?:)]+)|(?:[\\s\\S])" := by decide +kernel
  have joined : Node.parse false "(?:[\\c](?:)]+)|(?:[\\s\\S])".toList =
      .ok (.alt (.repetition 1 none true (.one ⟨#[29, 30, 40, 42, 58, 59, 63, 64]⟩))
        (.one ⟨#[0]⟩), 0) := by
    simp only [String.reduceToList]
    cbv
  rw [← minding, ← source] at joined
  have checks : ∀ p ∈ [controlInClass] ++ [catchAll], p.check = .ok () := by
    simp [Pattern.check, Pattern.forbiddenFlag?, controlInClass, catchAll]
  have missed : firstMatch? [⟨controlNode, true⟩] #['?', '?'] 0 = none := by decide +kernel
  exact strays_of_missed (Union.compile_of_parse checks joined) rfl alone (by decide +kernel)
    (by decide) missed

/-- Both reasons why a pattern can match otherwise in a union than alone. -/
theorem union_strays : Strays { source := "s(s)x", ignoreCase := true } ['ß', 'x'] ∧
    Strays { source := "[\\c]()]+" } ['?', '?'] :=
  ⟨group_keeps_apart, control_takes_bracket⟩

end Tincture
