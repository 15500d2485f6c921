import Tincture.Proofs.Lexer.Partition
import Tincture.Proofs.Regex.Nesting
import Tincture.Proofs.Union.Anything
import Tincture.Proofs.Union.Sturdy

/-!
The leading alternatives of a union.

To know the token at a position it is enough to know the alternatives up to the one that matches
there, and these do not depend on the patterns that come after: if the first patterns of a union
refer back to no groups, its expression begins with theirs (`regex_of_compile`). The others matter
only for how the union treats case, and there a single pattern may settle it (`detect_of_letters`).
What an alternative begins with can be found out by reading it alone (`exists_stands_of_readsAs`,
`Node.run_of_startsIn`).
-/

namespace Tincture

/-! ### First characters -/

namespace Regex.Node

/-- The expression begins with one of the code points, whichever way it matches. -/
def startsIn (codes : List Nat) : Node → Bool
  | .text (n :: _) false => codes.contains n
  | .seq a _ => a.startsIn codes
  | .alt a b => a.startsIn codes && b.startsIn codes
  | _ => false

/-- It does not match in front of another one. -/
theorem run_of_startsIn {codes : List Nat} {a : Node} (h : a.startsIn codes = true) {t : Subject}
    (k : Next) {s : Spot} (other : ∀ c, t.text[s.pos]? = some c → c.toNat ∉ codes) :
    a.run t k s = none := by
  fun_induction startsIn codes a generalizing k with
  | case1 n rest =>
    have mem : n ∈ codes := List.contains_iff_mem.mp h
    simp only [run, Bool.false_eq_true, if_false, Subject.literal?]
    cases found : t.text[s.pos]? with
    | none => rfl
    | some c =>
      have apart : c.toNat ≠ n := fun same => other c found (same ▸ mem)
      simp only [if_neg apart]
  | case2 a b ih => exact ih h _
  | case3 a b iha ihb =>
    obtain ⟨first, second⟩ := Bool.and_eq_true_iff.mp h
    simp only [run, iha first k, ihb second k]
  | case4 => cases h

end Regex.Node

/-! ### Expressions of patterns -/

namespace Pattern

/-- What has been compiled has been parsed. -/
theorem parse_of_compileSource {source : String} {ignoreCase nonEmpty : Bool} {regex : Regex}
    (h : compileSource source ignoreCase nonEmpty = .ok regex) :
    ∃ node groups, Regex.Node.parse ignoreCase source.toList = .ok (node, groups) ∧
      regex = { node, nonEmpty } := by
  rw [compileSource] at h
  split at h
  · rename_i regex read
    cases h
    obtain ⟨⟨node, groups⟩, parsed, made⟩ := ok_of_map read
    exact ⟨node, groups, parsed, made.symm⟩
  · cases h

theorem parse_of_compile {p : Pattern} {regex : Regex} (h : p.compile = .ok regex) :
    ∃ node groups, Regex.Node.parse p.ignoreCase p.source.toList = .ok (node, groups) ∧
      regex = { node } := by
  obtain ⟨_, -, h⟩ := ok_of_bind h
  exact parse_of_compileSource h

end Pattern

namespace Union

open Regex

/-! ### Case -/

/-- A pattern that minds case and has letters settles how a union treats case. -/
theorem detect_of_letters {patterns : List Pattern} {p : Pattern} (mem : p ∈ patterns)
    (minding : p.ignoreCase = false) (letters : hasBareLetters p.source.toList = true) :
    CaseMode.detect patterns = ⟨false, true⟩ := by
  have from_ (ignoreCase : Bool) : CaseMode.detectFrom ignoreCase patterns = ⟨false, true⟩ := by
    induction patterns generalizing ignoreCase with
    | nil => cases mem
    | cons q rest ih =>
      rw [CaseMode.detectFrom]
      rcases List.mem_cons.mp mem with rfl | mem
      · rw [if_neg (by simp [minding]), if_pos letters]
      · split
        · exact ih mem true
        · split
          · rfl
          · exact ih mem ignoreCase
  exact from_ false

/-! ### Alternatives -/

/-- The alternative of a pattern that captures nothing. -/
def leading (mode : CaseMode) (p : Pattern) : List Char :=
  (alternativeOf (p.ignoreCase && mode.foldCase) 0 p.source.toList).1

variable {before after : List Pattern}

theorem alternativesOf_append (mode : CaseMode)
    (unreferenced : ∀ p ∈ before, Part.references 0 (Part.split p.source.toList) = []) :
    alternativesOf mode 0 (before ++ after) =
      before.map (leading mode) ++ alternativesOf mode 0 after := by
  induction before with
  | nil => rfl
  | cons p before ih =>
    obtain ⟨here, others⟩ := List.forall_mem_cons.mp unreferenced
    rw [List.cons_append, alternativesOf,
      alternativeOf_of_unreferenced (p.ignoreCase && mode.foldCase) 0 here]
    exact congrArg (leading mode p :: ·) (ih others)

/-- Texts between bars, those of the first ones being followed by others. -/
theorem intercalate_append (texts : List (List Char)) {others : List (List Char)}
    (nonempty : others ≠ []) :
    ['|'].intercalate (texts.map grouped ++ others) =
      texts.flatMap (fun text => grouped text ++ ['|']) ++ ['|'].intercalate others := by
  induction texts with
  | nil => rfl
  | cons text texts ih =>
    rw [List.map_cons, List.cons_append, List.flatMap_cons, List.append_assoc, ← ih]
    cases rest : texts.map grouped ++ others with
    | nil => exact absurd (List.append_eq_nil_iff.mp rest).2 nonempty
    | cons next rest => rw [List.intercalate_cons_cons]

/-- The parts of a union that has been compiled. -/
theorem parts_of_compile {patterns : List Pattern} {u : Union} (h : compile patterns = .ok u) :
    ∃ node groups, Node.parse (CaseMode.detect (patterns ++ [catchAll])).ignoreCase
        (sourceOf (patterns ++ [catchAll])).toList = .ok (node, groups) ∧
      u.regex = { node, nonEmpty := true } := by
  obtain ⟨_, -, h⟩ := ok_of_bind h
  obtain ⟨regex, compiled, h⟩ := ok_of_bind h
  rw [← Except.ok.inj h]
  exact Pattern.parse_of_compileSource compiled

/-- A union has the alternatives of its first patterns, as they are read by themselves, and then
others. -/
theorem regex_of_compile {u : Union} {mode : CaseMode} {as : List Node}
    (compiled : compile (before ++ after) = .ok u)
    (detected : CaseMode.detect (before ++ after ++ [catchAll]) = mode)
    (unreferenced : ∀ p ∈ before, Part.references 0 (Part.split p.source.toList) = [])
    (stand : List.Forall₂ (fun p a => Stands mode.ignoreCase (leading mode p) a) before as) :
    ∃ others, u.regex = { node := Node.alternatives (as ++ others), nonEmpty := true } := by
  obtain ⟨node, groups, parsed, regex⟩ := parts_of_compile compiled
  have written : alternativesOf mode 0 (before ++ (after ++ [catchAll])) ≠ [] := by
    cases before with
    | nil =>
      cases after with
      | nil => exact List.cons_ne_nil _ _
      | cons p after => exact List.cons_ne_nil _ _
    | cons p before => exact List.cons_ne_nil _ _
  have others : (alternativesOf mode 0 (after ++ [catchAll])).map grouped ≠ [] := by
    cases after <;> exact List.cons_ne_nil _ _
  rw [sourceOf_toList, detected, List.append_assoc, alternativesOf_append mode unreferenced,
    List.map_append, intercalate_append _ others] at parsed
  obtain ⟨others, -, rfl⟩ := parse_alternatives (List.forall₂_map_left_iff.mpr stand) parsed
  exact ⟨others, regex⟩

/-! ### Alternatives that are read alone -/

/-- Whether the alternative of a pattern that minds case can stand in a group, as an expression with
the property. -/
def readsAs (P : Node → Bool) (source : List Char) : Bool :=
  let text := (alternativeOf false 0 source).1
  Pattern.encloses text &&
    match Node.parse false (grouped text) with
    | .ok (a, _) => P a
    | .error _ => false

theorem exists_stands_of_readsAs {P : Node → Bool} {p : Pattern} {source : List Char}
    (minding : p.ignoreCase = false) (spelled : p.source = String.ofList source)
    (h : readsAs P source = true) (mode : CaseMode) :
    ∃ a, Stands false (leading mode p) a ∧ P a = true := by
  obtain ⟨encloses, reads⟩ := Bool.and_eq_true_iff.mp h
  obtain ⟨filled, within⟩ := Pattern.within_of_encloses encloses
  obtain ⟨a, stands⟩ := exists_stands within false
  have own : leading mode p = (alternativeOf false 0 source).1 := by
    rw [leading, minding, spelled, String.toList_ofList, Bool.false_and]
  rw [own]
  exact ⟨a, stands, stands.of_parse reads⟩

/-! ### Tokens -/

/-- The first alternative that matches at a position wins, whatever comes after it. -/
theorem matchAt?_of_alternatives {as others : List Node} {text : Array Char} {pos : Nat}
    {s : Spot} (h : (as.findSome? fun a =>
      ({ node := a, nonEmpty := true } : Regex).matchAt? text pos) = some s) :
    ({ node := Node.alternatives (as ++ others), nonEmpty := true } : Regex).matchAt? text pos =
      some s := by
  have nonempty : as ++ others ≠ [] := by
    cases as with
    | nil => cases h
    | cons a as => exact List.cons_ne_nil _ _
  rw [matchAt?_alternatives nonempty, List.findSome?_append, h]
  rfl

/-- A match at the beginning of a text is its first token. -/
theorem head?_tokens {u : Union} {text : List Char} {s : Spot}
    (h : u.regex.matchAt? text.toArray 0 = some s) (further : 0 < s.pos)
    (within : s.pos ≤ text.length) : (u.tokens text).head? = some (text.take s.pos) := by
  have reached : (fun pos => (u.regex.matchAt? text.toArray pos).map (·.pos)) 0 = some s.pos := by
    simp only [h, Option.map_some]
  have inside : 0 < text.toArray.size := Nat.lt_of_lt_of_le further within
  rw [tokens, cuts_of_reach inside reached further]
  simp [List.extract_eq_take_drop]

/-- If a text is its own first token, it has no others. -/
theorem tokens_of_head? {u : Union} {text : List Char}
    (h : (u.tokens text).head? = some text) : u.tokens text = [text] := by
  obtain ⟨others, split⟩ := List.head?_eq_some_iff.mp h
  have flat := u.flatten_tokens text
  have filled : ∀ token ∈ others, token ≠ [] := fun token mem =>
    ne_nil_of_mem_tokens (split ▸ List.mem_cons_of_mem text mem)
  rw [split] at flat ⊢
  cases others with
  | nil => rfl
  | cons token others =>
    have length := congrArg List.length flat
    have positive := List.length_pos_iff.mpr (filled token List.mem_cons_self)
    simp only [List.flatten_cons, List.length_append] at length
    omega

end Union

end Tincture
