/-! # How alike two words are -/

namespace InvoiceGateway.Text

/-- The first place from `low` below `high` that holds `c` and is not taken. -/
def freePlace? (c : Char) (low high : Nat) (b : List Char) (taken : List Nat) : Option Nat :=
  (b.zipIdx.find? fun (d, j) => d = c && low ≤ j && j < high && !taken.contains j).map Prod.snd

/-- The places of `a`, from `i` on, that share a character with `b` within `range`, each with the
place in `b`; a place in `b` is shared once. -/
def sharedPlaces (range : Nat) (b : List Char) : Nat → List Nat → List Char → List (Nat × Nat)
  | _, _, [] => []
  | i, taken, c :: cs =>
      match freePlace? c (i - range) (i + range + 1) b taken with
      | some j => (i, j) :: sharedPlaces range b (i + 1) (j :: taken) cs
      | none => sharedPlaces range b (i + 1) taken cs

/-- The Jaro similarity of two words. -/
def jaro (s t : String) : Float :=
  let a := s.toList
  let b := t.toList
  if a.isEmpty && b.isEmpty then 1
  else
    let shared := sharedPlaces (max a.length b.length / 2 - 1) b 0 [] a
    if shared.isEmpty then 0
    else
      let inA := shared.map fun (i, _) => a[i]?
      let inB := (shared.map Prod.snd).mergeSort.map fun j => b[j]?
      let moved := ((inA.zip inB).filter fun (x, y) => x != y).length / 2
      let m := Float.ofNat shared.length
      (m / Float.ofNat a.length + m / Float.ofNat b.length
        + Float.ofNat (shared.length - moved) / m) / 3

/-- The candidate most like a word, if its similarity is above seven tenths; of several equally
alike, the last. -/
def mostAlike? (word : String) (candidates : List String) : Option String :=
  let better (best : Option (String × Float)) (candidate : String) : Option (String × Float) :=
    let score := jaro word candidate
    if score > 0.7 && best.all fun (_, other) => other ≤ score then some (candidate, score)
    else best
  (candidates.foldl better none).map Prod.fst

end InvoiceGateway.Text
