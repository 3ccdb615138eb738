import DetectorReadout.Random.SeedHash

/-!
# The random stream of an event

A `Keystream` is an infinite sequence of 64-bit words together with a position in it. The sequence is a function of the
seed: the seed is stretched to a key of eight words, and word `n` is cut out of block `n / 8` of the ChaCha cipher with
twelve rounds under that key. Reading a word moves the position on by one and changes nothing else.
-/

namespace DetectorReadout

namespace Keystream

/-- The word with its bits moved up by `n` places, those pushed out at the top coming in at the bottom. -/
def rotateLeft (x n : UInt32) : UInt32 := (x <<< n) ||| (x >>> (32 - n))

/-- The word with its bits moved down by `n` places, those pushed out at the bottom coming in at the top. -/
def rotateRight (x n : UInt32) : UInt32 := (x >>> n) ||| (x <<< (32 - n))

/-- The next state of the linear congruential generator that stretches a seed. -/
def advance (s : UInt64) : UInt64 := s * 6364136223846793005 + 11634580027462260723

/-- The word that the stretching generator gives in state `s`: its upper bits folded together and rotated by its top five
bits. -/
def foldedWord (s : UInt64) : UInt32 :=
  rotateRight (((s >>> 18) ^^^ s) >>> 27).toUInt32 (s >>> 59).toUInt32

/-- The states of the stretching generator behind `s`, `n` of them. -/
def stretch : (n : Nat) → UInt64 → Vector UInt64 n
  | 0, _ => #v[]
  | n + 1, s => (#v[advance s] ++ stretch n (advance s)).cast (Nat.add_comm 1 n)

/-- The key of a seed: eight words. -/
def keyOfSeed (seed : UInt64) : Vector UInt32 8 := (stretch 8 seed).map foldedWord

/-- The sixteen words that the cipher mixes: four constants, the key, a block counter of two words and two zero words. -/
def inputBlock (key : Vector UInt32 8) (counter : UInt64) : Vector UInt32 16 :=
  (#v[0x61707865, 0x3320646e, 0x79622d32, 0x6b206574] : Vector UInt32 4) ++ key ++
    (#v[counter.toUInt32, (counter >>> 32).toUInt32, 0, 0] : Vector UInt32 4)

/-- Adds word `j` to word `i`, and replaces word `k` by its exclusive or with the sum, rotated by `n`. -/
def mixWords (b : Vector UInt32 16) (i j k : Fin 16) (n : UInt32) : Vector UInt32 16 :=
  (b.set i (b[i] + b[j])).set k (rotateLeft (b[k] ^^^ (b[i] + b[j])) n)

/-- Mixes four words of the block. -/
def quarterRound (b : Vector UInt32 16) (i j k l : Fin 16) : Vector UInt32 16 :=
  mixWords (mixWords (mixWords (mixWords b i j l 16) k l j 12) i j l 8) k l j 7

/-- The places of the four words that each quarter of a pair of rounds mixes: first the columns, then the diagonals. -/
def quarters : List (Fin 16 × Fin 16 × Fin 16 × Fin 16) :=
  [(0, 4, 8, 12), (1, 5, 9, 13), (2, 6, 10, 14), (3, 7, 11, 15),
    (0, 5, 10, 15), (1, 6, 11, 12), (2, 7, 8, 13), (3, 4, 9, 14)]

/-- Two rounds of mixing. -/
def doubleRound (b : Vector UInt32 16) : Vector UInt32 16 :=
  quarters.foldl (fun b (i, j, k, l) => quarterRound b i j k l) b

/-- The block of sixteen output words for one value of the counter: twelve rounds, then the input added in. -/
def block (key : Vector UInt32 8) (counter : UInt64) : Vector UInt32 16 :=
  (Nat.repeat doubleRound 6 (inputBlock key counter)).zipWith (· + ·) (inputBlock key counter)

/-- Word `n` of the sequence: two words of a block, the lower half first. -/
def word (key : Vector UInt32 8) (n : Nat) : UInt64 :=
  let b := block key (UInt64.ofNat (n / 8))
  let i : Fin 8 := Fin.ofNat 8 n
  b[2 * i.val].toUInt64 ||| (b[2 * i.val + 1].toUInt64 <<< 32)

end Keystream

/-- A place in the random sequence of a key. -/
structure Keystream where
  /-- The key that fixes the sequence. -/
  key : Vector UInt32 8
  /-- The number of words read so far. -/
  position : Nat := 0
deriving DecidableEq, Repr

namespace Keystream

/-- The start of the sequence of a seed. -/
def ofSeed (seed : UInt64) : Keystream := { key := keyOfSeed seed }

/-- The next word of the sequence and the place behind it. -/
def next (s : Keystream) : UInt64 × Keystream := (word s.key s.position, { s with position := s.position + 1 })

/-- The next `n` words of the sequence. -/
def take : Nat → Keystream → List UInt64
  | 0, _ => []
  | n + 1, s => s.next.1 :: take n s.next.2

end Keystream

/-- The source of randomness of a run: a master seed, from which every event derives a stream of its own. -/
structure RandomService where
  /-- The master seed. -/
  seed : UInt64 := 1234567890
deriving DecidableEq, Repr

namespace RandomService

/-- The seed of one event. -/
def eventSeed (r : RandomService) (event : UInt64) : UInt64 := deriveSeed r.seed event

/-- The stream of one event, at its start. -/
def stream (r : RandomService) (event : UInt64) : Keystream := .ofSeed (r.eventSeed event)

end RandomService

end DetectorReadout
