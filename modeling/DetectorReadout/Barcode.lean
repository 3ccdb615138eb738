import DetectorReadout.Bits

/-!
# Barcodes of simulated particles

A barcode packs the history of a particle into one 64-bit word: production vertex, primary particle, generation,
secondary particle and process. Which bits belong to which part is a free choice, made by a `BarcodeLayout`.
-/

namespace DetectorReadout

/-- A packed particle history. -/
abbrev Barcode := UInt64

/-- The parts of a particle history. -/
structure History where
  /-- Production vertex. -/
  vertex : UInt64
  /-- Primary particle at that vertex. -/
  primary : UInt64
  /-- Generation, zero for primary particles. -/
  generation : UInt64
  /-- Secondary particle within the generation. -/
  secondary : UInt64
  /-- Process that made the particle. -/
  process : UInt64
deriving DecidableEq, Repr

/-- The masks of the five parts of a barcode. They may be empty, have gaps, or overlap. -/
structure BarcodeLayout where
  /-- Bits of the production vertex. -/
  vertexMask : UInt64 := 0xfff0000000000000
  /-- Bits of the primary particle. -/
  primaryMask : UInt64 := 0x000ffff000000000
  /-- Bits of the generation. -/
  generationMask : UInt64 := 0x0000000fff000000
  /-- Bits of the secondary particle. -/
  secondaryMask : UInt64 := 0x0000000000fff000
  /-- Bits of the process. -/
  processMask : UInt64 := 0x0000000000000fff
deriving DecidableEq, Repr

namespace BarcodeLayout

/-- The barcode of a history. -/
def encode (l : BarcodeLayout) (h : History) : Barcode :=
  deposit h.vertex l.vertexMask ||| deposit h.primary l.primaryMask ||| deposit h.generation l.generationMask |||
    deposit h.secondary l.secondaryMask ||| deposit h.process l.processMask

/-- The history read from a barcode. -/
def decode (l : BarcodeLayout) (b : Barcode) : History where
  vertex := extract b l.vertexMask
  primary := extract b l.primaryMask
  generation := extract b l.generationMask
  secondary := extract b l.secondaryMask
  process := extract b l.processMask

end BarcodeLayout

end DetectorReadout
