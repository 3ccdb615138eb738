import DetectorReadout.Event.Collection
import DetectorReadout.Event.ConfigError
import DetectorReadout.LocalHit
import DetectorReadout.Random.Normal

/-!
# The smearer

The smearer turns every hit into a source link: the local position of the hit, moved by a pair of normal numbers scaled by
the resolutions. Hit number `n` gets pair number `n` of the event's random sequence, whatever the other hits and the
resolutions are. Hits that are not in the order of their addresses make it give up.
-/

namespace DetectorReadout

/-- The configuration of a smearer. -/
structure SmearerConfig where
  /-- The name of the collection of hits. -/
  input : String := ""
  /-- The name of the collection of source links. -/
  output : String := "sourcelinks"
  /-- The resolutions along the local coordinates. -/
  sigma : Vec2 Float := ⟨25 * micrometre, 100 * micrometre⟩
  /-- The source of randomness. -/
  random : Option RandomService := none

/-- A smearer. -/
structure Smearer where
  /-- The name of the collection of hits. -/
  input : String
  /-- The name of the collection of source links. -/
  output : String
  /-- The resolutions along the local coordinates. -/
  sigma : Vec2 Float
  /-- The source of randomness. -/
  random : RandomService
  /-- The input has a name. -/
  input_ne : input ≠ ""
  /-- The output has a name. -/
  output_ne : output ≠ ""
  /-- The resolutions are not negative. -/
  sigma_nonneg : 0 ≤ sigma.x ∧ 0 ≤ sigma.y

namespace Smearer

/-- The name of the algorithm. -/
def name : String := "HitSmearing"

/-- The smearer of a configuration. -/
def ofConfig (c : SmearerConfig) : Except ConfigError Smearer :=
  if hi : c.input = "" then .error (.missingInput "simulated hits")
  else if ho : c.output = "" then .error (.missingOutput "source links")
  else if hx : 0 ≤ c.sigma.x then
    if hy : 0 ≤ c.sigma.y then
      match c.random with
      | none => .error (.missingCollaborator "random number service")
      | some random => .ok ⟨c.input, c.output, c.sigma, random, hi, ho, hx, hy⟩
    else .error (.negativeResolution "sigma_loc1" c.sigma.y)
  else .error (.negativeResolution "sigma_loc0" c.sigma.x)

/-- Covariance of the links. -/
def covariance (s : Smearer) : Mat2 Float := .diagonal ⟨s.sigma.x * s.sigma.x, s.sigma.y * s.sigma.y⟩

/-- The link of the hit with a place in its collection, for a pair of normal numbers. -/
def link (s : Smearer) (ctx : GeometryContext) (index : Nat) (id : GeometryId) (hit : Hit Float)
    (noise : Float × Float) : SourceLink :=
  let seen := (hit.surface.toLocal ctx hit.position hit.direction).position
  { hitIndex := index
    id := id
    surface := hit.surface
    values := ⟨seen.x + s.sigma.x * noise.1, seen.y + s.sigma.y * noise.2⟩
    covariance := s.covariance }

/-- The links of a list of hits with their addresses, each with its address. -/
def links (s : Smearer) (ctx : GeometryContext) (random : Keystream) (entries : List (GeometryId × Hit Float)) :
    List (GeometryId × SourceLink) :=
  (entries.zipIdx.zip (Normal.pairs entries.length random)).map fun (((id, hit), index), noise) =>
    (id, s.link ctx index id hit noise)

/-- The links of a list of hits as a collection, or the first link whose address is smaller than the one before it. -/
def smear (s : Smearer) (ctx : GeometryContext) (random : Keystream) (entries : List (GeometryId × Hit Float)) :
    Except (OutOfOrder GeometryId SourceLink) SourceLinks :=
  (s.links ctx random entries).foldlM (fun links (id, link) => links.insertSortedEnd id link) .empty

/-- Processes one event. -/
def execute (s : Smearer) (ctx : EventContext) (store : EventStore Collection) : Outcome :=
  match store.get s.input .hits with
  | .error e => (.error e, store)
  | .ok hits =>
    match s.smear ctx.conditions (s.random.stream ctx.event) (SortedMultimap.toList hits) with
    | .error _ => (.ok .abort, store)
    | .ok links => store.publish s.output .links links

end Smearer

end DetectorReadout
