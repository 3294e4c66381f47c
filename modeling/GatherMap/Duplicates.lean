/-!
# Finding equal keys

Two keys are duplicates when an order cannot tell them apart. The reported pair is the first
adjacent pair of equal keys after a stable sort of the input positions, so it names the two
smallest equal keys, each by its first position among its equals.
-/

namespace GatherMap

/-- The first adjacent pair of a list that satisfies `p`. -/
def firstAdjacent? (p : α → α → Bool) : List α → Option (α × α)
  | a :: b :: rest => if p a b then some (a, b) else firstAdjacent? p (b :: rest)
  | _ => none

/-- Input positions sorted stably by `less`, a strict weak order on the keys. -/
def sortPositions (keys : Array α) (less : α → α → Bool) : List (α × Nat) :=
  keys.toList.zipIdx.mergeSort (fun a b => !less b.1 a.1)

/-- The first pair of positions whose keys are equivalent under `less`, after a stable sort. -/
def findDuplicate? (keys : Array α) (less : α → α → Bool) : Option (Nat × Nat) :=
  (firstAdjacent? (fun a b => !less a.1 b.1) (sortPositions keys less)).map fun (a, b) => (a.2, b.2)

end GatherMap
