import Mathlib.Data.Set.Function
import Mathlib.Order.Interval.Set.Defs
import DetectorReadout.Proofs.ChannelNumbers

/-!
# All numbers are channels

The numbers of the channels of a grid leave no gap: every number below the number of channels stands for one triple of bins
(`ChannelGrid.has_deserialize`, `ChannelGrid.serialize_deserialize`), so the triples and the numbers correspond one to one. A
number is a sum of products that do not become larger than the sum, so a machine that can hold the number of channels can hold
everything that comes up on the way (`ChannelGrid.serializeWithin_eq`).
-/

namespace DetectorReadout

/-- A number, unless it is above the largest one that a machine can hold. -/
def within (limit n : Nat) : Option Nat := if n ≤ limit then some n else none

namespace ChannelGrid

variable {α : Type} (g : ChannelGrid α)

/-- A triple of bins that the grid has. -/
structure Has (t : BinTriple) : Prop where
  /-- The first bin is one of the first dimension. -/
  first_lt : t.first < g.bins 0
  /-- The second bin is one of the second dimension. -/
  second_lt : t.second < g.bins 1
  /-- The third bin is one of the third dimension. -/
  third_lt : t.third < g.bins 2

/-- The number of a channel on a machine that holds numbers up to a limit: there is none if a product or a sum on the way is
above the limit. -/
def serializeWithin (limit : Nat) (t : BinTriple) : Option Nat := do
  let rows ← within limit (t.second * g.bins 0)
  let place ← within limit (t.first + rows)
  let columns ← within limit (t.third * g.bins 0)
  let layers ← within limit (columns * g.bins 1)
  within limit (place + layers)

/-- The channel with a number, on a machine that holds numbers up to a limit. -/
def deserializeWithin (limit s : Nat) : Option BinTriple := do
  let layer ← within limit (g.bins 0 * g.bins 1)
  return ⟨s % g.bins 0, s / g.bins 0 % g.bins 1, s / layer⟩

/-- The number of a channel is below the number of channels. -/
theorem serialize_lt_serialSize {t : BinTriple} (ht : g.Has t) : g.serialize t < g.serialSize := by
  calc g.serialize t
      < g.bins 0 * g.bins 1 * (t.third + 1) := g.serialize_lt ht.first_lt ht.second_lt
    _ ≤ g.bins 0 * g.bins 1 * g.bins 2 := Nat.mul_le_mul_left _ ht.third_lt

/-- The channel with a number below the number of channels is one of the grid. -/
theorem has_deserialize {s : Nat} (hs : s < g.serialSize) : g.Has (g.deserialize s) where
  first_lt := Nat.mod_lt _ (g.bins_pos 0)
  second_lt := Nat.mod_lt _ (g.bins_pos 1)
  third_lt := Nat.div_lt_of_lt_mul hs

/-- A number is found again from its channel. -/
theorem serialize_deserialize (s : Nat) : g.serialize (g.deserialize s) = s := by
  rw [serialize_eq, deserialize, ← Nat.div_div_eq_div_mul, Nat.mul_assoc, Nat.add_assoc, ← Nat.mul_add, Nat.mod_add_div,
    Nat.mod_add_div]

/-- Nothing that comes up on the way to the number of a channel is above this number. -/
theorem serializeWithin_eq {limit : Nat} (hlimit : g.serialSize ≤ limit) {t : BinTriple} (ht : g.Has t) :
    g.serializeWithin limit t = some (g.serialize t) := by
  have hnumber : g.serialize t ≤ limit := (g.serialize_lt_serialSize ht).le.trans hlimit
  have hlayers : t.third * g.bins 0 ≤ t.third * g.bins 0 * g.bins 1 := Nat.le_mul_of_pos_right _ (g.bins_pos 1)
  unfold serialize at hnumber ⊢
  have h1 : t.second * g.bins 0 ≤ limit := by omega
  have h2 : t.first + t.second * g.bins 0 ≤ limit := by omega
  have h3 : t.third * g.bins 0 ≤ limit := by omega
  have h4 : t.third * g.bins 0 * g.bins 1 ≤ limit := by omega
  simp only [serializeWithin, within, if_pos h1, if_pos h2, if_pos h3, if_pos h4, if_pos hnumber, Option.bind_eq_bind,
    Option.bind_some]

/-- The number of channels of a layer is not above that of the grid. -/
theorem deserializeWithin_eq {limit : Nat} (hlimit : g.serialSize ≤ limit) (s : Nat) :
    g.deserializeWithin limit s = some (g.deserialize s) := by
  have hlayer : g.bins 0 * g.bins 1 ≤ limit := g.layer_le_serialSize.trans hlimit
  simp only [deserializeWithin, within, if_pos hlayer, Option.bind_eq_bind, Option.bind_some]
  rfl

/-- The triples of bins of a grid with up to three dimensions correspond one to one to the numbers below the number of its
channels. On a machine that can hold the number of channels, the number of every triple and the triple of every number can be
computed, and each is found again from the other. -/
theorem serialize_bijOn_channels (limit : Nat) (hlimit : g.serialSize ≤ limit) :
    Set.BijOn g.serialize {t | g.Has t} (Set.Iio g.serialSize) ∧
      (∀ t, g.Has t → g.serializeWithin limit t = some (g.serialize t) ∧ g.deserialize (g.serialize t) = t) ∧
      ∀ s < g.serialSize, g.deserializeWithin limit s = some (g.deserialize s) ∧ g.Has (g.deserialize s) ∧
        g.serialize (g.deserialize s) = s := by
  have hback : ∀ t, g.Has t → g.deserialize (g.serialize t) = t := fun t ht =>
    g.deserialize_serialize ht.first_lt ht.second_lt
  refine ⟨⟨fun t ht => g.serialize_lt_serialSize ht, fun t ht u hu heq => ?_, fun s hs => ?_⟩,
    fun t ht => ⟨g.serializeWithin_eq hlimit ht, hback t ht⟩,
    fun s hs => ⟨g.deserializeWithin_eq hlimit s, g.has_deserialize hs, g.serialize_deserialize s⟩⟩
  · rw [← hback t ht, ← hback u hu, heq]
  · exact ⟨g.deserialize s, g.has_deserialize hs, g.serialize_deserialize s⟩

/-- Three, one and two bins, on a machine that can hold the number of channels and nothing more: the last channel has the last
number, and a limit below the number of the second layer does not suffice for it. -/
theorem serialize_bijOn_channels_tight :
    let x : Binning Float := ⟨.x, .clamp, #[0, 1, 2, 3], true, by decide⟩
    let y : Binning Float := ⟨.y, .wrap, #[0, 4], false, by decide⟩
    let third : Binning Float := ⟨.x, .clamp, #[0, 1, 3], false, by decide⟩
    let g : ChannelGrid Float := ⟨[x, y, third], by decide⟩
    g.serialSize = 6 ∧ g.Has ⟨2, 0, 1⟩ ∧ g.serializeWithin 6 ⟨2, 0, 1⟩ = some 5 ∧ g.deserializeWithin 6 5 = some ⟨2, 0, 1⟩ ∧
      g.serializeWithin 4 ⟨2, 0, 1⟩ = none := by
  intro x y third g
  obtain ⟨-, hto, hfrom⟩ := serialize_bijOn_channels g 6 (by decide)
  have hlast : g.Has ⟨2, 0, 1⟩ := ⟨by decide, by decide, by decide⟩
  exact ⟨rfl, hlast, (hto _ hlast).1, (hfrom 5 (by decide)).1.trans (by decide), by decide⟩

end ChannelGrid

end DetectorReadout
