/-!
# Seeds of substreams

Every event has a seed of its own, derived from the master seed and the event number by the keyed hash SipHash with one
round for each input word and three at the end, with both keys zero. The hash of a pair of words is a fixed function, so
the seed of an event does not depend on which events were processed before.
-/

namespace DetectorReadout

namespace SeedHash

/-- The four words of the running hash. -/
structure State where
  /-- First word. -/
  v0 : UInt64
  /-- Second word. -/
  v1 : UInt64
  /-- Third word. -/
  v2 : UInt64
  /-- Fourth word. -/
  v3 : UInt64
deriving DecidableEq, Repr

/-- The word with its bits moved up by `n` places, those pushed out at the top coming in at the bottom. -/
def rotate (x n : UInt64) : UInt64 := (x <<< n) ||| (x >>> (64 - n))

/-- The state before any input, for keys that are zero. -/
def initial : State := ⟨0x736f6d6570736575, 0x646f72616e646f6d, 0x6c7967656e657261, 0x7465646279746573⟩

/-- One round of mixing. -/
def round (s : State) : State :=
  let a0 := s.v0 + s.v1
  let a1 := rotate s.v1 13 ^^^ a0
  let a2 := s.v2 + s.v3
  let a3 := rotate s.v3 16 ^^^ a2
  let b0 := rotate a0 32 + a3
  let b3 := rotate a3 21 ^^^ b0
  let b2 := a2 + a1
  let b1 := rotate a1 17 ^^^ b2
  ⟨b0, b1, rotate b2 32, b3⟩

/-- Takes in one word. -/
def absorb (s : State) (word : UInt64) : State :=
  let r := round { s with v3 := s.v3 ^^^ word }
  { r with v0 := r.v0 ^^^ word }

/-- The hash, once all words are taken in. -/
def finish (s : State) : UInt64 :=
  let r := round (round (round { s with v2 := s.v2 ^^^ 0xff }))
  r.v0 ^^^ r.v1 ^^^ r.v2 ^^^ r.v3

/-- The hash of two words. The last word taken in holds the length of the input, sixteen bytes, in its top byte. -/
def hashPair (first second : UInt64) : UInt64 :=
  finish ([first, second, (16 : UInt64) <<< 56].foldl absorb initial)

end SeedHash

/-- The seed of one substream of a master seed. -/
def deriveSeed (master substream : UInt64) : UInt64 := SeedHash.hashPair master substream

end DetectorReadout
