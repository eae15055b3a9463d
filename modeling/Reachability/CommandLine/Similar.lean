import Reachability.Number.Binary64

/-!
# Similar words

Suggestions for a mistyped name use the Jaro similarity of two words: with `m` characters
matching within half the longer length less one, and `t` half the number of matched
characters out of order,

  `jaro a b = (m / |a| + m / |b| + (m - t) / m) / 3`,

`0` when nothing matches and `1` for two empty words. The measure is computed in binary64
arithmetic, each step rounded, so that ties and the threshold fall as in the usual
implementations. A name is suggested when its similarity exceeds `0.7`; of several, the
most similar is taken, the later one on a tie.
-/

namespace Reachability.CommandLine

open Reachability.Number

/-- Marks the characters of `b` matched by those of `a`, each within `range` places;
returns the flags of `a` and of `b`. -/
def matchFlags (a b : List Char) (range : Nat) : List Bool × List Bool :=
  let bArr := b.toArray
  let step (acc : List Bool × Array Bool) (x : Nat × Char) : List Bool × Array Bool :=
    let (i, c) := x
    let lo := i - range
    let hi := min b.length (i + range + 1)
    match (List.range hi).find? fun j => lo ≤ j && bArr[j]? == some c && !(acc.2.getD j true) with
    | some j => (acc.1 ++ [true], acc.2.set! j true)
    | none => (acc.1 ++ [false], acc.2)
  let (fa, fb) := (a.zipIdx.map fun (c, i) => (i, c)).foldl step ([], Array.replicate b.length false)
  (fa, fb.toList)

/-- The Jaro similarity of two words, in binary64 arithmetic. -/
def jaro (a b : String) : Binary64 :=
  let as := a.toList
  let bs := b.toList
  if as.isEmpty && bs.isEmpty then Binary64.ofNat 1
  else if as.isEmpty || bs.isEmpty then Binary64.ofNat 0
  else
    let range := max as.length bs.length / 2 - 1
    let (fa, fb) := matchFlags as bs range
    let ma := (as.zip fa).filterMap fun (c, f) => if f then some c else none
    let mb := (bs.zip fb).filterMap fun (c, f) => if f then some c else none
    let m := ma.length
    if m = 0 then Binary64.ofNat 0
    else
      let t := ((ma.zip mb).filter fun (x, y) => x != y).length / 2
      let part (n d : Nat) : Binary64 := Binary64.ofRatio false (n * Nat.pow 2 Binary64.unitExponent) d
      let sum := Binary64.addNonneg (Binary64.addNonneg (part m as.length) (part m bs.length))
        (part (m - t) m)
      Binary64.divNonneg sum (Binary64.ofNat 3)

/-- The magnitude of a non-negative binary64 value in units, for comparing. -/
def unitsOf : Binary64 → Nat
  | .finite _ u => u
  | _ => 0

/-- The least similarity that makes a suggestion: more than `0.7`. -/
def similarEnough : Nat := unitsOf (Binary64.ofDecimal false 7 (-1))

/-- The candidates more than `0.7` similar to a word, least similar first, in their own
order on a tie. -/
def similarNames (word : String) (candidates : List String) : List String :=
  let scored := candidates.filterMap fun c =>
    let s := unitsOf (jaro word c)
    if s > similarEnough then some (s, c) else none
  (scored.mergeSort fun x y => x.1 ≤ y.1).map (·.2)

/-- The most similar candidate, if one is similar enough. -/
def mostSimilar (word : String) (candidates : List String) : Option String :=
  (similarNames word candidates).getLast?

end Reachability.CommandLine
