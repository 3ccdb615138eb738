import DetectorReadout.Event.Digitizer
import DetectorReadout.Event.Smearer

/-!
# Options

What a user may choose about the algorithms. Options are plain values; they become a configuration together with the
name of the input and the things that the algorithm works with.
-/

namespace DetectorReadout

/-- Options of digitization. -/
structure DigitizationOptions where
  /-- The name of the collection of clusters. -/
  clusters : String := "clusters"
  /-- The name of the collection of space points made from the clusters. -/
  spacePoints : String := "space-points"
deriving DecidableEq, Repr

/-- The digitizer configuration of some options. -/
def DigitizationOptions.toConfig {α : Type} [Scalar α] (o : DigitizationOptions) (input : String) (stepper : Stepper α)
    (random : RandomService) : DigitizerConfig α :=
  { input := input, output := o.clusters, stepper := some stepper, random := some random }

/-- Options of smearing. -/
structure SmearingOptions where
  /-- The name of the collection of source links. -/
  sourceLinks : String := "sourcelinks"
  /-- The resolution along the first local coordinate. -/
  sigmaLoc0 : Float := 25 * micrometre
  /-- The resolution along the second local coordinate. -/
  sigmaLoc1 : Float := 100 * micrometre
deriving DecidableEq, Repr

/-- The smearer configuration of some options. -/
def SmearingOptions.toConfig (o : SmearingOptions) (input : String) (random : RandomService) : SmearerConfig :=
  { input := input, output := o.sourceLinks, sigma := ⟨o.sigmaLoc0, o.sigmaLoc1⟩, random := some random }

end DetectorReadout
