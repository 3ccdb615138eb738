import DetectorReadout.Random.Keystream
import DetectorReadout.Random.NormalLayers

/-!
# Standard normal numbers

`Normal.sample` draws a number from the standard normal distribution: it picks one of 256 layers below the bell curve and a
point inside it, and keeps the point if it lies below the curve. All but about one in a hundred draws take a single word of
the random sequence. A draw that is refused is repeated, at most `attempts` times; that all of them are refused does not
happen in practice, and gives zero.
-/

namespace DetectorReadout

namespace Normal

/-- The number of times a draw is repeated. -/
def attempts : Nat := 1000

/-- The spacing of binary64 numbers just below one, `2 ^ -53`. -/
def spacing : Float := 1 / 9007199254740992

/-- The number with the given sign bit, exponent bits and upper bits of a random word behind them. -/
def withFraction (exponent word : UInt64) : Float := .ofBits ((word >>> 12) ||| (exponent <<< 52))

/-- A number from -1 to 1, the latter excluded. -/
def symmetric (word : UInt64) : Float := withFraction 1024 word - 3

/-- A number between 0 and 1, both excluded. -/
def openUnit (word : UInt64) : Float := withFraction 1023 word - (1 - spacing)

/-- A number from 0 to 1, the latter excluded. -/
def halfOpenUnit (word : UInt64) : Float := (word >>> 11).toFloat * spacing

/-- Where the tail begins. -/
def tailStart : Float := edges[1]

/-- The distance from the beginning of the tail to a point of the tail. -/
def tailDistance : (attempts : Nat) → Keystream → Float × Keystream
  | 0, s => (0, s)
  | n + 1, s =>
    let (a, s) := s.next
    let (b, s) := s.next
    let x := (openUnit a).log / tailStart
    let y := (openUnit b).log
    if -2 * y < x * x then tailDistance n s else (x, s)

/-- A standard normal number, and the random sequence behind the words it took. -/
def sampleWithin : (attempts : Nat) → Keystream → Float × Keystream
  | 0, s => (0, s)
  | n + 1, s =>
    let (word, s) := s.next
    let layer : Fin 256 := Fin.ofNat 256 word.toNat
    let u := symmetric word
    let x := u * edges[layer.val]
    if x.abs < edges[layer.val + 1] then (x, s)
    else if layer = 0 then
      let (d, s) := tailDistance attempts s
      (if u < 0 then d - tailStart else tailStart - d, s)
    else
      let (word, s) := s.next
      let height := heights[layer.val + 1] + (heights[layer.val] - heights[layer.val + 1]) * halfOpenUnit word
      if height < (-x * x / 2).exp then (x, s) else sampleWithin n s

/-- A standard normal number, and the random sequence behind the words it took. -/
def sample (s : Keystream) : Float × Keystream := sampleWithin attempts s

/-- The first `n` pairs of standard normal numbers of a random sequence. -/
def pairs : (n : Nat) → Keystream → List (Float × Float)
  | 0, _ => []
  | n + 1, s =>
    let (a, s) := sample s
    let (b, s) := sample s
    (a, b) :: pairs n s

end Normal

end DetectorReadout
