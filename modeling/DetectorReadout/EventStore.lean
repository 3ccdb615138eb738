import Std.Data.ExtTreeMap
import DetectorReadout.Text.Quoted

/-!
# The store of one event

An `EventStore` holds named collections. Each is added once, under a name that is not empty and not yet taken, and is
read-only afterwards. A collection is of one of several kinds, and it can only be read as a collection of its own kind. A
kind is printed as the name of the type of its collections.
-/

namespace DetectorReadout

universe u v

/-- Why a collection could not be added or read. -/
inductive StoreError where
  /-- Names of collections must not be empty. -/
  | emptyName
  /-- No collection has this name. -/
  | missing (name : String)
  /-- A collection with this name was added before. -/
  | duplicate (name : String)
  /-- The collection with this name is of another kind than the expected one, which is told by the name of its type. -/
  | otherKind (name expected : String)
deriving DecidableEq, Repr

namespace StoreError

/-- The cause in words. -/
def message : StoreError → String
  | emptyName => "collection name is empty"
  | missing name => s!"missing collection '{name}'"
  | duplicate name => s!"collection '{name}' already exists"
  | otherKind name expected => s!"collection '{name}' is not of type {expected}"

end StoreError

/-- Collections by name. `Collection k` is the type of the collections of kind `k`. -/
structure EventStore {Kind : Type u} (Collection : Kind → Type v) where
  /-- The collections added so far, each with its kind. -/
  collections : Std.ExtTreeMap String (Sigma Collection) := ∅

namespace EventStore

variable {Kind : Type u} {Collection : Kind → Type v}

/-- The store to which nothing was added. -/
def empty : EventStore Collection := {}

instance : EmptyCollection (EventStore Collection) := ⟨empty⟩

/-- Whether a collection of this name was added. -/
def contains (s : EventStore Collection) (name : String) : Bool := s.collections.contains name

/-- Adds a collection, or says why its name is refused. -/
def add (s : EventStore Collection) (name : String) (kind : Kind) (c : Collection kind) :
    Except StoreError (EventStore Collection) :=
  if name = "" then .error .emptyName
  else if s.contains name then .error (.duplicate name)
  else .ok ⟨s.collections.insert name ⟨kind, c⟩⟩

/-- The collection of this name, provided that it is of the given kind. -/
def get [DecidableEq Kind] [ToString Kind] (s : EventStore Collection) (name : String) (kind : Kind) :
    Except StoreError (Collection kind) :=
  match s.collections[name]? with
  | none => .error (.missing name)
  | some ⟨k, c⟩ => if h : k = kind then .ok (h ▸ c) else .error (.otherKind name (toString kind))

/-- The number of collections. -/
def size (s : EventStore Collection) : Nat := s.collections.size

/-- Whether nothing was added yet. -/
def isEmpty (s : EventStore Collection) : Bool := s.collections.isEmpty

/-- The names of the collections, in ascending order. -/
def names (s : EventStore Collection) : List String := s.collections.keys

/-- A one-line listing of the names, each between double quotes. -/
def listing (s : EventStore Collection) : String :=
  "WhiteBoard \x7b collections: [" ++ ", ".intercalate (s.names.map Text.quoted) ++ "] \x7d"

end EventStore

end DetectorReadout
