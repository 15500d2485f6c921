import Mathlib.Data.List.Basic
import Tincture.Style

/-!
Styles and their names.

A style is known by its name, since no tag is named like an embedded style, and it is the only one
that a text with this name is read as.
-/

namespace Tincture.Style

theorem ofName?_name (s : Style) : ofName? s.name = some s := by
  cases s with
  | terminal tag => cases tag <;> decide
  | embedded language =>
    have mark : embeddedMark.toList.isPrefixOf? (embeddedMark ++ language).toList =
        some language.toList :=
      List.isPrefixOf?_eq_some_iff_append_eq.mpr String.toList_append.symm
    rw [name, ofName?, mark]
    dsimp only
    rw [String.ofList_toList]

/-- A style that is read from a text is written as that text. -/
theorem name_of_ofName? {s : String} {style : Style} (h : ofName? s = some style) :
    style.name = s := by
  unfold ofName? at h
  split at h
  · rename_i language mark
    cases h
    have split := List.isPrefixOf?_eq_some_iff_append_eq.mp mark
    rw [name, ← String.toList_inj, String.toList_append, String.toList_ofList, split]
  · obtain ⟨tag, found, rfl⟩ := Option.map_eq_some_iff.mp h
    unfold Tag.ofName? at found
    have named := List.find?_some found
    exact eq_of_beq named

end Tincture.Style
