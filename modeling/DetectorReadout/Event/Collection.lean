import DetectorReadout.Digitization.Cluster
import DetectorReadout.EventStore
import DetectorReadout.Hit
import DetectorReadout.Particle
import DetectorReadout.Random.Keystream

/-!
# Collections of an event

The kinds of collections that the store of an event may hold, and what an algorithm is told about the event. Four kinds are
read and added by the algorithms here; whatever else shares the store is opaque to them. An algorithm that publishes a
collection adds it under its output name or leaves the store as it was.
-/

namespace DetectorReadout

/-- The clusters of one event, by the address of their surface. -/
abbrev Clusters (α : Type) [Scalar α] := GeometryMultimap (Cluster α)

/-- A measurement of a local position, linked to the hit that it comes from. -/
structure SourceLink where
  /-- The place of the hit in its collection. -/
  hitIndex : Nat
  /-- The address of the surface. -/
  id : GeometryId
  /-- The surface. -/
  surface : Surface Float
  /-- The measured local position. -/
  values : Vec2 Float
  /-- Covariance of the local position. -/
  covariance : Mat2 Float

/-- Links are compared by the hit that they come from. -/
instance : BEq SourceLink where
  beq a b := a.hitIndex = b.hitIndex && a.id = b.id

/-- The source links of one event, by the address of their surface. -/
abbrev SourceLinks := GeometryMultimap SourceLink

/-- The kinds of collections of an event. -/
inductive CollectionKind where
  /-- Hits. -/
  | hits
  /-- Clusters. -/
  | clusters
  /-- Source links. -/
  | links
  /-- Vertices with their particles. -/
  | vertices
  /-- Anything else, by the name of its type. -/
  | other (type : String)
deriving DecidableEq, Repr

/-- The name of the type of the collections of a kind. -/
def CollectionKind.typeName : CollectionKind → String
  | hits => "Hits"
  | clusters => "Clusters"
  | links => "SourceLinks"
  | vertices => "List Vertex"
  | other type => type

instance : ToString CollectionKind := ⟨CollectionKind.typeName⟩

/-- The collections of each kind. Of those of any other type only the bytes are known. -/
def Collection : CollectionKind → Type
  | .hits => Hits Float
  | .clusters => Clusters Float
  | .links => SourceLinks
  | .vertices => List Vertex
  | .other _ => ByteArray

/-- What an algorithm is told about an event besides its store. -/
structure EventContext where
  /-- The place of the algorithm in the sequence of algorithms. -/
  algorithm : Nat := 0
  /-- The number of the event. -/
  event : UInt64 := 0
  /-- The conditions of the geometry. -/
  conditions : GeometryContext := {}
deriving DecidableEq, Repr

/-- How an algorithm ended. -/
inductive ProcessCode where
  /-- The event was processed and the output is in the store. -/
  | success
  /-- The event was given up and there is no output. -/
  | abort
deriving DecidableEq, Repr

/-- The name of the code. -/
def ProcessCode.name : ProcessCode → String
  | success => "Success"
  | abort => "Abort"

/-- The outcome of an algorithm: how it ended, and the store behind it. -/
abbrev Outcome := Except StoreError ProcessCode × EventStore Collection

namespace EventStore

/-- Adds the output of an algorithm. -/
def publish (s : EventStore Collection) (name : String) (kind : CollectionKind) (c : Collection kind) : Outcome :=
  match s.add name kind c with
  | .ok s => (.ok .success, s)
  | .error e => (.error e, s)

end EventStore

end DetectorReadout
