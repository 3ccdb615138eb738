import DetectorReadout.Event.Collection
import DetectorReadout.Event.ConfigError
import DetectorReadout.LocalHit

/-!
# The digitizer

The digitizer turns hits into clusters. A hit gives a cluster if its surface stands on an element that is read out and its
track takes steps through the readout cells; it then depends on nothing but the conditions, the address and the hit
itself. Clusters come out in the order of their addresses even if hits do not come in that way.
-/

namespace DetectorReadout

/-- The configuration of a digitizer. -/
structure DigitizerConfig (α : Type) [Scalar α] where
  /-- The name of the collection of hits. -/
  input : String := ""
  /-- The name of the collection of clusters. -/
  output : String := "clusters"
  /-- The way to cut tracks into steps. -/
  stepper : Option (Stepper α) := none
  /-- The source of randomness, which has to be there although no random number is drawn. -/
  random : Option RandomService := none

/-- A digitizer. -/
structure Digitizer (α : Type) [Scalar α] where
  /-- The name of the collection of hits. -/
  input : String
  /-- The name of the collection of clusters. -/
  output : String
  /-- The way to cut tracks into steps. -/
  stepper : Stepper α
  /-- The source of randomness. -/
  random : RandomService
  /-- The input has a name. -/
  input_ne : input ≠ ""
  /-- The output has a name. -/
  output_ne : output ≠ ""

namespace Digitizer

variable {α : Type} [Scalar α]

/-- The name of the algorithm. -/
def name : String := "DigitizationAlgorithm"

/-- The digitizer of a configuration. -/
def ofConfig (c : DigitizerConfig α) : Except ConfigError (Digitizer α) :=
  if hi : c.input = "" then .error (.missingInput "simulated hits")
  else if ho : c.output = "" then .error (.missingOutput "clusters")
  else
    match c.stepper, c.random with
    | none, _ => .error (.missingCollaborator "planar module stepper")
    | some _, none => .error (.missingCollaborator "random number service")
    | some stepper, some random => .ok ⟨c.input, c.output, stepper, random, hi, ho⟩

/-- The cluster of one hit, if it gives one. -/
def cluster? (d : Digitizer α) (ctx : GeometryContext) (id : GeometryId) (hit : Hit α) : Option (Cluster α) :=
  match hit.surface.support with
  | .planar element => do
    let module ← element.readout
    let seen := hit.surface.toLocal ctx hit.position hit.direction
    Cluster.ofSteps hit.surface module element.thickness ⟨id.value, [hit.particle]⟩ hit.time
      (d.stepper ctx module seen.position seen.direction)
  | _ => none

/-- Adds a cluster at the end, or in its place if the address is smaller than the last one. -/
def store (clusters : Clusters α) (id : GeometryId) (c : Cluster α) : Clusters α :=
  match clusters.insertSortedEnd id c with
  | .ok clusters => clusters
  | .error refused => (clusters.insert refused.key refused.value).1

/-- The clusters of a list of hits with their addresses, in whatever order. -/
def digitizeEntries (d : Digitizer α) (ctx : GeometryContext) (entries : List (GeometryId × Hit α)) : Clusters α :=
  entries.foldl
    (fun clusters (id, hit) =>
      match d.cluster? ctx id hit with
      | some c => store clusters id c
      | none => clusters)
    .empty

/-- The clusters of the hits of one event. -/
def digitize (d : Digitizer α) (ctx : GeometryContext) (hits : Hits α) : Clusters α :=
  d.digitizeEntries ctx hits.toList

/-- Processes one event. -/
def execute (d : Digitizer Float) (ctx : EventContext) (s : EventStore Collection) : Outcome :=
  match s.get d.input .hits with
  | .error e => (.error e, s)
  | .ok hits => s.publish d.output .clusters (d.digitize ctx.conditions hits)

end Digitizer

end DetectorReadout
