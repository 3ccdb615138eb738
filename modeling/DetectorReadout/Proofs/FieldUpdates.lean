import DetectorReadout.Proofs.AddressFields
import DetectorReadout.Proofs.LastGiven

/-!
# Packing fields and replacing them

The fields of an address are independent of each other: what is packed is read back, reduced to what the field can hold
(`GeometryId.get_ofNumbers`), and every address is packed from its own fields (`GeometryId.ofNumbers_get`). Replacing fields one
after another therefore amounts to packing the number that was given last for each field, and the old one where none was given
(`GeometryId.afterSets_eq_ofNumbers`).
-/

namespace DetectorReadout

namespace GeometryId

open GeometryField

variable (x : GeometryId)

/-! ## Packing -/

/-- A packed number is read back modulo the number of values of its field. -/
theorem get_ofNumbers (n : GeometryField → UInt64) (f : GeometryField) :
    (ofNumbers n).get f = n f % .ofNat f.capacity := by
  rw [← UInt64.toNat_inj, toNat_get_ofNumbers, UInt64.toNat_mod, f.toNat_ofNat_capacity]

/-- A field holds its own number without reduction. -/
theorem get_mod_capacity (f : GeometryField) : x.get f % .ofNat f.capacity = x.get f := by
  rw [← UInt64.toNat_inj, UInt64.toNat_mod, f.toNat_ofNat_capacity, toNat_get, Nat.mod_mod]

/-- Packing the fields of an address gives the address back. -/
theorem ofNumbers_get : ofNumbers x.get = x :=
  ext_get fun f => (get_ofNumbers x.get f).trans (x.get_mod_capacity f)

/-! ## Replacing fields -/

/-- A replaced field has the new number, and every other field the old one. -/
theorem get_set (f g : GeometryField) (v : UInt64) :
    (x.set f v).get g = (if f = g then some (v % .ofNat g.capacity) else none).getD (x.get g) := by
  by_cases h : f = g
  · subst h
    rw [if_pos rfl, get_set_self, Option.getD_some]
  · rw [if_neg h, Option.getD_none, x.get_set_of_ne (Ne.symm h)]

/-- Different fields may be replaced in either order. -/
theorem set_comm {f g : GeometryField} (h : f ≠ g) (v w : UInt64) : (x.set f v).set g w = (x.set g w).set f v := by
  refine ext_get fun e => ?_
  simp only [get_set]
  by_cases hf : f = e
  · have hg : g ≠ e := fun hg => h (hf.trans hg.symm)
    rw [if_pos hf, if_neg hg]
    rfl
  · rw [if_neg hf]
    rfl

/-- Of two replacements of one field the later one counts. -/
theorem set_set (f : GeometryField) (v w : UInt64) : (x.set f v).set f w = x.set f w := by
  refine ext_get fun e => ?_
  simp only [get_set]
  by_cases hf : f = e
  · rw [if_pos hf, if_pos hf]
    rfl
  · rw [if_neg hf, if_neg hf]
    rfl

/-- The address with fields replaced one after another. -/
def afterSets (updates : List (GeometryField × UInt64)) : GeometryId := updates.foldl (fun x u => x.set u.1 u.2) x

/-- The number that is given last for a field. -/
def lastNumber? (updates : List (GeometryField × UInt64)) (f : GeometryField) : Option UInt64 :=
  lastGiven? (fun u => if u.1 = f then some u.2 else none) updates

/-- Replacing fields one after another is packing the number that is given last for each field, and the old number where none is
given. -/
theorem afterSets_eq_ofNumbers (updates : List (GeometryField × UInt64)) :
    x.afterSets updates = ofNumbers fun f => (lastNumber? updates f).getD (x.get f) := by
  refine ext_get fun f => ?_
  have hvalue (u : GeometryField × UInt64) : (if u.1 = f then some (u.2 % .ofNat f.capacity) else none) =
      (if u.1 = f then some u.2 else none).map fun v => v % .ofNat f.capacity := by
    split <;> rfl
  have hread : (x.afterSets updates).get f =
      ((lastNumber? updates f).map fun v => v % .ofNat f.capacity).getD (x.get f) := by
    rw [lastNumber?, ← lastGiven?_map]
    refine read_foldl_write (fun x => x.get f) (fun x u => ?_) updates x
    rw [← hvalue]
    exact x.get_set u.1 f u.2
  rw [hread, get_ofNumbers]
  cases lastNumber? updates f with
  | none => exact (x.get_mod_capacity f).symm
  | some v => rfl

/-- Addresses are a lossless packing of their fields, each of a width of its own. A packed number is read back modulo two to the
power of the width of its field, for numbers of any size, and every address is packed from its own fields. Replacing a field gives
it the new number, reduced in the same way, and leaves the other fields alone. So fields are replaced independently of each
other: in any order if they are different, the later number counts if they are the same, and any sequence of replacements is
packing the last number of each field. -/
theorem packing_is_lossless :
    (∀ n : GeometryField → UInt64, ∀ f,
      (pack (n .volume) (n .boundary) (n .layer) (n .approach) (n .sensitive)).get f = n f % .ofNat (1 <<< f.width)) ∧
    (∀ x : GeometryId, pack (x.get .volume) (x.get .boundary) (x.get .layer) (x.get .approach) (x.get .sensitive) = x) ∧
    (∀ (x : GeometryId) f v, (x.set f v).get f = v % .ofNat (1 <<< f.width) ∧ ∀ g, g ≠ f → (x.set f v).get g = x.get g) ∧
    (∀ (x : GeometryId) f g v w, f ≠ g → (x.set f v).set g w = (x.set g w).set f v) ∧
    (∀ (x : GeometryId) f v w, (x.set f v).set f w = x.set f w) ∧
    ∀ (x : GeometryId) updates, x.afterSets updates =
      let number := fun f => (lastNumber? updates f).getD (x.get f)
      pack (number .volume) (number .boundary) (number .layer) (number .approach) (number .sensitive) := by
  refine ⟨fun n f => ?_, ofNumbers_get, fun x f v => ⟨?_, fun g hg => x.get_set_of_ne hg v⟩, fun x f g v w h => x.set_comm h v w,
    set_set, afterSets_eq_ofNumbers⟩
  · rw [← f.capacity_eq]
    exact get_ofNumbers n f
  · rw [← f.capacity_eq]
    exact x.get_set_self f v

/-- A volume that is too wide for its field, set between two layers: the volume loses its upper bits, and of the layers the second
one counts. -/
example : (ofModule 1 2 3).afterSets [(.layer, 9), (.volume, 0x107), (.layer, 4)] = ofModule 7 4 3 := by
  decide +kernel

end GeometryId

end DetectorReadout
