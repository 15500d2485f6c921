import Tincture.Proofs.Scan.Reference

/-!
Remembered tags change nothing.

A scan may begin at any depth and with any tags that are already known, as it does whenever it is
nested in another. As long as these are what their lexers say, the scan decorates as if it knew
none, and what it knows afterwards is again what the lexers say.
-/

namespace Tincture

namespace Scan

/-- With sound tags a scan gives the decorations of the fresh scan, from any depth on and for any
lexer of the registry or of the caller, and the tags known after it are sound. -/
theorem cache_transparent {E : Type} [Engine E] (r : Registry E) (own : Lexer E)
    (l : KeyedLexer E) (known : Known r own l) (depth : Nat) (source : List Char) (pos : Nat)
    (cache : TagCache) (sound : Sound r own cache) :
    let levels := maxEmbeddingDepth + 1 - depth
    (text r levels l source pos cache).1 = Fresh.text r levels l.lexer source pos ∧
      Sound r own (text r levels l source pos cache).2 := by
  intro levels
  have yields := text_agrees r own levels l source pos cache known sound
  exact ⟨yields.decorations, yields.sound⟩

/-- Two levels down, with the tag of one of the tokens known. -/
theorem cache_transparent_bracketed :
    ∃ r l, Registry.ofDefinitions bracketed = .ok r ∧ r.find? "outer" = some l ∧
      let cache : TagCache := (∅ : TagCache).insert (l.key, String.ofList ['é']) .keyword
      cache[(l.key, String.ofList ['é'])]? = some .keyword ∧ Sound r l.lexer cache ∧
        (text r (maxEmbeddingDepth + 1 - 2) l "é<x>".toList 3 cache).1 =
          Fresh.text r (maxEmbeddingDepth + 1 - 2) l.lexer "é<x>".toList 3 ∧
        Sound r l.lexer (text r (maxEmbeddingDepth + 1 - 2) l "é<x>".toList 3 cache).2 := by
  obtain ⟨r, eq⟩ := exists_bracketed
  have evaluated :
      (Registry.ofDefinitions bracketed : Except Error Registry).toOption.bind (fun r =>
        (r.find? "outer").map fun l => l.lexer.classify ['é']) =
          some (.terminal .keyword) := by decide +kernel
  rw [eq] at evaluated
  obtain ⟨l, found, answer⟩ := Option.map_eq_some_iff.mp evaluated
  have known : Known r l.lexer l := known_of_find? found
  have sound := sound_empty.insert known answer
  exact ⟨r, l, eq, found, by simp, sound,
    cache_transparent r l.lexer l known 2 "é<x>".toList 3 _ sound⟩

end Scan

end Tincture
