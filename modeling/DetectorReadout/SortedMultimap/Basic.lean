/-!
# Sorted multimaps

A `SortedMultimap` is an array of `(key, value)` pairs in ascending key order, in which pairs with equal keys stand in the
order in which they were accepted. There are two ways to add a pair. `insertSortedEnd` appends and refuses a key smaller
than the last one; `insert` finds the place by bisection and shifts the tail.

The order of the entries is not a field of the type: a map whose entries come from outside (`ofEntries`) may break it, and
`isSorted` tells whether it does.
-/

namespace DetectorReadout

universe u v

/-- The end of the run of indices from `lo` on that pass the test, found by halving the interval `[lo, hi]`. It is the
index of the first failure when all indices that pass come before all that fail. -/
def bisect (test : Nat → Bool) (lo hi : Nat) : Nat :=
  if lo < hi then
    if test ((lo + hi) / 2) then bisect test ((lo + hi) / 2 + 1) hi
    else bisect test lo ((lo + hi) / 2)
  else lo
termination_by hi - lo

/-- A multi-valued map kept as an array of pairs in ascending key order. -/
structure SortedMultimap (κ : Type u) (ν : Type v) where
  /-- Takes the entries as they are, in whatever order. -/
  ofEntries ::
  /-- The stored pairs. -/
  entries : Array (κ × ν)
deriving Repr, BEq, DecidableEq

/-- A refused append: the key is smaller than the last stored one. The rejected pair is handed back. -/
structure OutOfOrder (κ : Type u) (ν : Type v) where
  /-- The last stored key. -/
  last : κ
  /-- The rejected key. -/
  key : κ
  /-- The rejected value. -/
  value : ν
deriving Repr, DecidableEq

/-- The text of a refusal, given the text of a key. -/
def OutOfOrder.message {κ : Type u} {ν : Type v} (showKey : κ → String) (e : OutOfOrder κ ν) : String :=
  "out-of-order insertion: key " ++ showKey e.key ++ " after " ++ showKey e.last

namespace SortedMultimap

variable {κ : Type u} {ν : Type v}

/-- The map without entries. -/
def empty : SortedMultimap κ ν := ⟨#[]⟩

instance : EmptyCollection (SortedMultimap κ ν) := ⟨empty⟩

instance : Inhabited (SortedMultimap κ ν) := ⟨empty⟩

/-- The map without entries, with room for `capacity` of them. -/
def emptyWithCapacity (capacity : Nat) : SortedMultimap κ ν := ⟨Array.emptyWithCapacity capacity⟩

/-- The map with all its entries removed. -/
def clear (_ : SortedMultimap κ ν) : SortedMultimap κ ν := ⟨#[]⟩

/-- The entries, in ascending key order. -/
def toList (m : SortedMultimap κ ν) : List (κ × ν) := m.entries.toList

/-- The number of entries. -/
def size (m : SortedMultimap κ ν) : Nat := m.entries.size

/-- Whether there are no entries. -/
def isEmpty (m : SortedMultimap κ ν) : Bool := m.entries.isEmpty

/-- The keys, in ascending order, each as often as it has values. -/
def keys (m : SortedMultimap κ ν) : List κ := m.toList.map (·.1)

/-- The values, in the order of their keys. -/
def values (m : SortedMultimap κ ν) : List ν := m.toList.map (·.2)

/-- The entry with the largest key, of several the one accepted last. -/
def last? (m : SortedMultimap κ ν) : Option (κ × ν) := m.entries.back?

/-- The entries at the indices from `start` up to and without `stop`. -/
def slice (m : SortedMultimap κ ν) (start stop : Nat) : List (κ × ν) := (m.entries.extract start stop).toList

/-- The length of the longest leading run of entries whose keys pass the test, found by bisection. -/
def partitionPoint (m : SortedMultimap κ ν) (test : κ → Bool) : Nat :=
  bisect (fun i => m.entries[i]?.any fun e => test e.1) 0 m.entries.size

section Ordered

variable [LT κ] [DecidableLT κ] [LE κ] [DecidableLE κ]

/-- The map of the given entries. Entries with equal keys keep their order. -/
def ofUnsorted (l : List (κ × ν)) : SortedMultimap κ ν :=
  ⟨(l.mergeSort fun a b => a.1 ≤ b.1).toArray⟩

/-- The map of the entries that come one after another, in whatever order. -/
def collect (l : List (κ × ν)) : SortedMultimap κ ν := ofUnsorted l

/-- Appends an entry whose key is not smaller than any stored one; any other is refused and handed back. -/
def insertSortedEnd (m : SortedMultimap κ ν) (key : κ) (value : ν) :
    Except (OutOfOrder κ ν) (SortedMultimap κ ν) :=
  match m.last? with
  | some (last, _) => if key < last then .error ⟨last, key, value⟩ else .ok ⟨m.entries.push (key, value)⟩
  | none => .ok ⟨m.entries.push (key, value)⟩

/-- The index of the first entry whose key is not smaller than `key`. -/
def lowerBound (m : SortedMultimap κ ν) (key : κ) : Nat := m.partitionPoint (· < key)

/-- The index of the first entry whose key is larger than `key`. -/
def upperBound (m : SortedMultimap κ ν) (key : κ) : Nat := m.partitionPoint (· ≤ key)

/-- Inserts an entry behind all entries with an equal key. Gives the new map and the index of the new entry. -/
def insert (m : SortedMultimap κ ν) (key : κ) (value : ν) : SortedMultimap κ ν × Nat :=
  (⟨m.entries.insertIdxIfInBounds (m.upperBound key) (key, value)⟩, m.upperBound key)

/-- The entries with exactly this key. -/
def equalRange (m : SortedMultimap κ ν) (key : κ) : List (κ × ν) :=
  m.slice (m.lowerBound key) (m.upperBound key)

/-- The entries whose keys lie between `first` and `last`, both included. -/
def rangeInclusive (m : SortedMultimap κ ν) (first last : κ) : List (κ × ν) :=
  m.slice (m.lowerBound first) (max (m.upperBound last) (m.lowerBound first))

/-- Whether some entry has this key. -/
def contains (m : SortedMultimap κ ν) (key : κ) : Bool := !(m.equalRange key).isEmpty

/-- The number of entries with this key. -/
def count (m : SortedMultimap κ ν) (key : κ) : Nat := (m.equalRange key).length

/-- Whether the keys of neighbouring entries are in order. -/
def isSorted (m : SortedMultimap κ ν) : Bool :=
  (m.toList.zip m.toList.tail).all fun (a, b) => a.1 ≤ b.1

end Ordered

/-- The map from values to keys. Entries with equal new keys keep the order that they have in `m`. -/
def invert [LE ν] [DecidableLE ν] (m : SortedMultimap κ ν) : SortedMultimap ν κ :=
  ofUnsorted (m.toList.map Prod.swap)

end SortedMultimap

end DetectorReadout
