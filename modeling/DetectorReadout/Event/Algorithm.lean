import DetectorReadout.Event.Digitizer
import DetectorReadout.Event.ParticleSelector
import DetectorReadout.Event.Smearer

/-!
# Algorithms

What processes an event: a digitizer, a smearer or a selector. An algorithm holds nothing that changes, so one instance
serves any number of events.
-/

namespace DetectorReadout

/-- An algorithm of the event loop. -/
inductive Algorithm where
  /-- Turns hits into clusters. -/
  | digitizer (d : Digitizer Float)
  /-- Turns hits into source links. -/
  | smearer (s : Smearer)
  /-- Selects particles. -/
  | selector (s : ParticleSelector)

namespace Algorithm

/-- The name of the algorithm. -/
def name : Algorithm → String
  | digitizer _ => Digitizer.name
  | smearer _ => Smearer.name
  | selector _ => ParticleSelector.name

/-- The name of the collection that it reads. -/
def input : Algorithm → String
  | digitizer d => d.input
  | smearer s => s.input
  | selector s => s.config.input

/-- The name of the collection that it adds. -/
def output : Algorithm → String
  | digitizer d => d.output
  | smearer s => s.output
  | selector s => s.config.output

/-- Processes one event. -/
def execute : Algorithm → EventContext → EventStore Collection → Outcome
  | digitizer d => d.execute
  | smearer s => s.execute
  | selector s => s.execute

end Algorithm

end DetectorReadout
