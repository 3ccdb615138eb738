import DetectorReadout.Event.Collection

/-!
# What a store holds

A store is what stands under each of its names (`EventStore.lookup`, `EventStore.ext_lookup`). Reading a collection depends
on what stands under one name; adding one changes what stands under one name, and writes to different names commute
(`EventStore.put_comm`). What reading and adding do is said here once, by what stands under the name, and later statements
use nothing else of it.
-/

namespace DetectorReadout

universe u v

namespace EventStore

variable {Kind : Type u} {Collection : Kind → Type v}

/-- What stands under a name: a collection with its kind, if there is one. -/
def lookup (s : EventStore Collection) (name : String) : Option (Sigma Collection) := s.collections[name]?

/-- The store with a collection written under a name, whatever stood there. -/
def put (s : EventStore Collection) (name : String) (x : Sigma Collection) : EventStore Collection :=
  ⟨s.collections.insert name x⟩

/-- Stores that hold the same under every name are equal. -/
theorem ext_lookup {s s' : EventStore Collection} (h : ∀ name, s.lookup name = s'.lookup name) : s = s' := by
  obtain ⟨m⟩ := s
  obtain ⟨m'⟩ := s'
  exact congrArg mk (Std.ExtTreeMap.ext_getElem? fun name => h name)

/-- Nothing stands in the store to which nothing was added. -/
theorem lookup_empty (name : String) : (empty : EventStore Collection).lookup name = none :=
  Std.ExtTreeMap.getElem?_empty

/-- A name is taken when something stands under it. -/
theorem contains_eq_isSome (s : EventStore Collection) (name : String) : s.contains name = (s.lookup name).isSome :=
  Std.ExtTreeMap.contains_eq_isSome_getElem?

@[simp] theorem lookup_put_self (s : EventStore Collection) (name : String) (x : Sigma Collection) :
    (s.put name x).lookup name = some x :=
  Std.ExtTreeMap.getElem?_insert_self

/-- A write to one name leaves what stands under the others. -/
theorem lookup_put_of_ne (s : EventStore Collection) {name other : String} (x : Sigma Collection) (h : other ≠ name) :
    (s.put name x).lookup other = s.lookup other := by
  have hcompare : compare name other ≠ .eq := fun heq => h (Std.LawfulEqOrd.eq_of_compare heq).symm
  rw [lookup, put, Std.ExtTreeMap.getElem?_insert, if_neg hcompare]
  rfl

/-- Writes to different names commute. -/
theorem put_comm (s : EventStore Collection) {name other : String} (x y : Sigma Collection) (h : name ≠ other) :
    (s.put name x).put other y = (s.put other y).put name x := by
  refine ext_lookup fun n => ?_
  by_cases hn : n = name
  · subst hn
    rw [lookup_put_of_ne _ _ h, lookup_put_self, lookup_put_self]
  · by_cases ho : n = other
    · subst ho
      rw [lookup_put_self, lookup_put_of_ne _ _ hn, lookup_put_self]
    · rw [lookup_put_of_ne _ _ ho, lookup_put_of_ne _ _ hn, lookup_put_of_ne _ _ hn, lookup_put_of_ne _ _ ho]

section Adding

variable {s : EventStore Collection} {name : String}

/-- A collection is added under a name that is free and not empty. -/
theorem add_of_none (hname : name ≠ "") (h : s.lookup name = none) (kind : Kind) (c : Collection kind) :
    s.add name kind c = .ok (s.put name ⟨kind, c⟩) := by
  have hfree : s.contains name = false := by
    rw [contains_eq_isSome, h]
    rfl
  simp only [add, if_neg hname, hfree]
  rfl

/-- A name that is taken is refused. -/
theorem add_of_some (hname : name ≠ "") {x : Sigma Collection} (h : s.lookup name = some x) (kind : Kind)
    (c : Collection kind) : s.add name kind c = .error (.duplicate name) := by
  have htaken : s.contains name = true := by
    rw [contains_eq_isSome, h]
    rfl
  simp only [add, if_neg hname, htaken, if_true]

/-- The empty name is refused. -/
theorem add_empty (s : EventStore Collection) (kind : Kind) (c : Collection kind) :
    s.add "" kind c = .error .emptyName :=
  if_pos rfl

end Adding

section Reading

variable [DecidableEq Kind] [ToString Kind]

/-- A name under which nothing stands is missing. -/
theorem get_of_none {s : EventStore Collection} {name : String} (h : s.lookup name = none) (kind : Kind) :
    s.get name kind = .error (.missing name) := by
  have h' : s.collections[name]? = none := h
  simp only [get, h']

/-- A collection of another kind is not handed out. -/
theorem get_of_ne {s : EventStore Collection} {name : String} {x : Sigma Collection} (h : s.lookup name = some x)
    {kind : Kind} (hne : x.1 ≠ kind) : s.get name kind = .error (.otherKind name (toString kind)) := by
  have h' : s.collections[name]? = some x := h
  simp only [get, h', dif_neg hne]

/-- A collection of the right kind is handed out. -/
theorem get_of_some {s : EventStore Collection} {name : String} {kind : Kind} {c : Collection kind}
    (h : s.lookup name = some ⟨kind, c⟩) : s.get name kind = .ok c := by
  have h' : s.collections[name]? = some ⟨kind, c⟩ := h
  simp only [get, h', dif_pos]

end Reading

end EventStore

namespace EventStore

variable {s : EventStore Collection} {name : String}

/-- An output is added under a name that is free and not empty. -/
theorem publish_of_none (hname : name ≠ "") (h : s.lookup name = none) (kind : CollectionKind) (c : Collection kind) :
    s.publish name kind c = (.ok .success, s.put name ⟨kind, c⟩) := by
  rw [publish, add_of_none hname h]

/-- An output whose name is taken is refused, and the store stays as it was. -/
theorem publish_of_some (hname : name ≠ "") {x : Sigma Collection} (h : s.lookup name = some x) (kind : CollectionKind)
    (c : Collection kind) : s.publish name kind c = (.error (.duplicate name), s) := by
  rw [publish, add_of_some hname h]

end EventStore

end DetectorReadout
