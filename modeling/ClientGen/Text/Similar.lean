/-!
# Similar words

The similarity of two words is twice the number of characters in their matching blocks
over their total length. The blocks are found by taking the longest common block, the
earliest on ties, then recursing on what lies before it and after it in both words. A word
is close to another when their similarity is at least `0.6`; suggestions are the three
closest candidates.
-/
namespace ClientGen.Text

/-- The longest block of `a[alo, ahi)` that also occurs in `b[blo, bhi)`, as the start in
each and the length; the earliest in `a` wins ties, then the earliest in `b`. -/
def longestMatch (a b : Array Char) (alo ahi blo bhi : Nat) : Nat × Nat × Nat :=
  -- `lens` holds, for each `j`, the length of the common block ending at `a[i-1]`, `b[j]`
  let step (acc : (Nat × Nat × Nat) × List (Nat × Nat)) (i : Nat) :
      (Nat × Nat × Nat) × List (Nat × Nat) :=
    let (best, lens) := acc
    let extend (state : List (Nat × Nat) × (Nat × Nat × Nat)) (j : Nat) :=
      let (fresh, best) := state
      if a.getD i ' ' = b.getD j ' ' then
        let k := (if j = 0 then 0 else (lens.lookup (j - 1)).getD 0) + 1
        let best := if k > best.2.2 then (i + 1 - k, j + 1 - k, k) else best
        ((j, k) :: fresh, best)
      else state
    let (fresh, best) := ((List.range (bhi - blo)).map (· + blo)).foldl extend ([], best)
    (best, fresh)
  (((List.range (ahi - alo)).map (· + alo)).foldl step ((alo, blo, 0), [])).1

/-- The number of characters in the matching blocks of `a[alo, ahi)` and `b[blo, bhi)`;
`fuel` bounds the recursion, and the length of `a` is enough. -/
def matchingCount (a b : Array Char) : Nat → Nat → Nat → Nat → Nat → Nat
  | 0, _, _, _, _ => 0
  | fuel + 1, alo, ahi, blo, bhi =>
    let (i, j, k) := longestMatch a b alo ahi blo bhi
    if k = 0 then 0
    else
      let before := if alo < i && blo < j then matchingCount a b fuel alo i blo j else 0
      let after := if i + k < ahi && j + k < bhi then matchingCount a b fuel (i + k) ahi (j + k) bhi
        else 0
      k + before + after

/-- The similarity of a candidate to a word, between `0` and `1`. -/
def similarity (candidate word : String) : Float :=
  let a := candidate.toList.toArray
  let b := word.toList.toArray
  let total := a.size + b.size
  if total = 0 then 1.0
  else 2.0 * (matchingCount a b (a.size + 1) 0 a.size 0 b.size).toFloat / total.toFloat

/-- The candidates close to a word, the closest three, closest first, ties broken by the
candidate that sorts last. -/
def closeMatches (word : String) (candidates : List String) : List String :=
  let scored := (candidates.map fun c => (similarity c word, c)).filter fun (s, _) => s ≥ 0.6
  let sorted := scored.mergeSort fun (s, x) (t, y) => s > t || (s == t && decide (x ≥ y))
  (sorted.take 3).map (·.2)

end ClientGen.Text
