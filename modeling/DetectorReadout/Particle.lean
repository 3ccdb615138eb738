import DetectorReadout.Barcode
import DetectorReadout.Binary64.Artanh
import DetectorReadout.Binary64.Hypotenuse
import DetectorReadout.Vector

/-!
# Simulated particles

Particles with their kinematic quantities, and the vertices at which they meet. Energies, momenta and masses share one
unit, and the beam runs along the third axis.
-/

namespace DetectorReadout

/-- The state of a particle where it is produced. -/
structure Particle where
  /-- Where it is produced. -/
  position : Vec3 Float
  /-- When it is produced. -/
  time : Float
  /-- Momentum. -/
  momentum : Vec3 Float
  /-- Rest mass. -/
  mass : Float
  /-- Electric charge, in units of the elementary charge. -/
  charge : Float
  /-- The number of the particle's type. -/
  pdg : Int32
  /-- The history of the particle. -/
  barcode : Barcode
deriving BEq, Repr

namespace Particle

/-- The size of the momentum. -/
def p (a : Particle) : Float := a.momentum.length

/-- The size of the momentum across the beam. -/
def pt (a : Particle) : Float := Binary64.hypotenuse a.momentum.x a.momentum.y

/-- The angle of the momentum around the beam. -/
def phi (a : Particle) : Float := Binary64.angle a.momentum.y a.momentum.x

/-- Pseudorapidity. It is infinite along the beam and no number for a particle at rest. -/
def eta (a : Particle) : Float := Binary64.artanh (a.momentum.z / a.p)

/-- The distance of the place of production from the beam. -/
def rho (a : Particle) : Float := Binary64.hypotenuse a.position.x a.position.y

/-- Energy. -/
def energy (a : Particle) : Float := Binary64.hypotenuse a.p a.mass

end Particle

/-- An interaction, with the particles that go in and those that come out. -/
structure Vertex where
  /-- Where it happens. -/
  position : Vec3 Float
  /-- When it happens. -/
  time : Float
  /-- The particles that go in. -/
  incoming : List Particle
  /-- The particles that come out. -/
  outgoing : List Particle
  /-- The number of the process. -/
  process : UInt32
deriving BEq, Repr

namespace Vertex

/-- The number of particles. -/
def particleCount (v : Vertex) : Nat := v.incoming.length + v.outgoing.length

/-- Whether there are no particles. -/
def isEmpty (v : Vertex) : Bool := v.incoming.isEmpty && v.outgoing.isEmpty

end Vertex

end DetectorReadout
