import DetectorReadout.Event.Collection
import DetectorReadout.Event.ConfigError

/-!
# The particle selector

The selector keeps the particles whose kinematic quantities all lie in their windows, and drops vertices that are left
without particles. A window holds its lower end and not its upper one; a quantity that is not a number is in no window.
-/

namespace DetectorReadout

/-- A range of values. -/
structure Window where
  /-- The lower end, which belongs to the window. -/
  lower : Float
  /-- The upper end, which does not. -/
  upper : Float
deriving DecidableEq, BEq, Repr

namespace Window

/-- Whether a value lies in the window. -/
def contains (w : Window) (x : Float) : Bool := w.lower ≤ x ∧ x < w.upper

/-- The values up to a bound that are not negative. -/
def upTo (upper : Float) : Window := ⟨0, upper⟩

/-- The values that are not negative. -/
def nonnegative : Window := .upTo Binary64.infinity

/-- All values. -/
def all : Window := ⟨-Binary64.infinity, Binary64.infinity⟩

end Window

/-- The configuration of a selector. Windows that are not set hold everything but positive infinity. -/
structure SelectorConfig where
  /-- The name of the collection of vertices. -/
  input : String := ""
  /-- The name of the collection of selected vertices. -/
  output : String := ""
  /-- The distance from the beam of the place of production stays below this. -/
  rhoMax : Float := Binary64.infinity
  /-- The distance along the beam of the place of production stays below this. -/
  absZMax : Float := Binary64.infinity
  /-- Window of the angle around the beam. -/
  phi : Window := .all
  /-- Window of the pseudorapidity. -/
  eta : Window := .all
  /-- Window of the size of the pseudorapidity. -/
  absEta : Window := .nonnegative
  /-- Window of the momentum across the beam. -/
  pt : Window := .nonnegative
  /-- Whether particles without charge are kept. -/
  keepNeutral : Bool := true

namespace SelectorConfig

/-- The windows with their names, in the order in which they are checked. -/
def windows (c : SelectorConfig) : List (String × Window) :=
  [("rho", .upTo c.rhoMax), ("abs_z", .upTo c.absZMax), ("phi", c.phi), ("eta", c.eta), ("abs_eta", c.absEta),
    ("pt", c.pt)]

end SelectorConfig

/-- The quantities of a particle that the windows speak of, in the order of the windows. -/
def Particle.windowQuantities (a : Particle) : List Float :=
  [a.rho, a.position.z.abs, a.phi, a.eta, a.eta.abs, a.pt]

/-- A selector. -/
structure ParticleSelector where
  /-- Its configuration. -/
  config : SelectorConfig
  /-- The input has a name. -/
  input_ne : config.input ≠ ""
  /-- The output has a name. -/
  output_ne : config.output ≠ ""
  /-- Every window has its ends in order. -/
  windows_le : ∀ w ∈ config.windows, w.2.lower ≤ w.2.upper

namespace ParticleSelector

/-- The name of the algorithm. -/
def name : String := "ParticleSelector"

/-- The selector of a configuration. -/
def ofConfig (c : SelectorConfig) : Except ConfigError ParticleSelector :=
  if hi : c.input = "" then .error (.missingInput "particles")
  else if ho : c.output = "" then .error (.missingOutput "selected particles")
  else
    match h : c.windows.find? fun w => ¬ w.2.lower ≤ w.2.upper with
    | some w => .error (.emptyWindow w.1 w.2.lower w.2.upper)
    | none => .ok ⟨c, hi, ho, by simpa using h⟩

/-- Whether a particle is kept. -/
def keeps (s : ParticleSelector) (a : Particle) : Bool :=
  ((s.config.windows.zip a.windowQuantities).all fun (w, x) => w.2.contains x) &&
    (s.config.keepNeutral || a.charge != 0)

/-- The vertex with the particles that are kept. -/
def restrict (s : ParticleSelector) (v : Vertex) : Vertex :=
  { v with incoming := v.incoming.filter s.keeps, outgoing := v.outgoing.filter s.keeps }

/-- The vertices with the particles that are kept, without those that are left empty. -/
def select (s : ParticleSelector) (vertices : List Vertex) : List Vertex :=
  (vertices.map s.restrict).filter fun v => !v.isEmpty

/-- Processes one event. -/
def execute (s : ParticleSelector) (_ : EventContext) (store : EventStore Collection) : Outcome :=
  match store.get s.config.input .vertices with
  | .error e => (.error e, store)
  | .ok vertices => store.publish s.config.output .vertices (s.select vertices)

end ParticleSelector

end DetectorReadout
