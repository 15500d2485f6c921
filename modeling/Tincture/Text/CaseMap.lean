import Tincture.Text.CodeSet

/-!
Maps between code points that hold the letters of the two cases.

The upper case letters of an alphabet stand next to each other or alternate with the lower case
ones, so a map of case is written as an ascending list of runs, and a look-up is one binary search
for the only run that can hold the code point.
-/

namespace Tincture

/-- Every `step`-th code point from `first` to `last`. The first is sent to `target`, and each of
the others as far behind it as it stands behind `first`. -/
structure CaseRun where
  first : Nat
  last : Nat
  step : Nat
  target : Nat
deriving DecidableEq, Inhabited

namespace CaseRun

/-- Whether the run maps the code point. -/
def holds (r : CaseRun) (n : Nat) : Bool :=
  r.first ≤ n && n ≤ r.last && (n - r.first) % r.step == 0

/-- Where the run sends one of its code points. -/
def image (r : CaseRun) (n : Nat) : Nat :=
  r.target + (n - r.first)

/-- The code points the run maps, in ascending order. -/
def sources (r : CaseRun) : List Nat :=
  (List.range (r.last - r.first + 1)).filterMap fun k =>
    if k % r.step == 0 then some (r.first + k) else none

end CaseRun

/-- The image of a code point under the ascending runs, `none` when no run holds it. -/
def imageIn (runs : Array CaseRun) (n : Nat) : Option Nat :=
  let after := firstAbove (fun k => (runs.getD k default).first) n 0 runs.size
  match runs[after - 1]? with
  | some r => if r.holds n then some (r.image n) else none
  | none => none

end Tincture
