import DetectorReadout.Decimal.Shortest
import DetectorReadout.EventStore

/-!
# Why an algorithm cannot be built, or an event not be processed
-/

namespace DetectorReadout

/-- Why a configuration is refused. -/
inductive ConfigError where
  /-- The name of the input collection is empty. -/
  | missingInput (what : String)
  /-- The name of the output collection is empty. -/
  | missingOutput (what : String)
  /-- Something that the algorithm works with was not given. -/
  | missingCollaborator (what : String)
  /-- A resolution is negative, or not a number. -/
  | negativeResolution (parameter : String) (value : Float)
  /-- The lower end of a window is above the upper one, or an end is not a number. -/
  | emptyWindow (parameter : String) (lower upper : Float)
deriving DecidableEq, Repr

/-- The cause in words. -/
def ConfigError.message : ConfigError → String
  | missingInput what => "missing input collection: " ++ what
  | missingOutput what => "missing output collection: " ++ what
  | missingCollaborator what => "missing " ++ what
  | negativeResolution parameter value =>
    "invalid parameter " ++ parameter ++ ": resolution must be non-negative, got " ++ Decimal.text value
  | emptyWindow parameter lower upper =>
    "invalid parameter " ++ parameter ++ ": window [" ++ Decimal.text lower ++ ", " ++ Decimal.text upper ++
      ") is empty or undefined"

/-- What can go wrong with an algorithm. -/
inductive AlgorithmError where
  /-- Its configuration is refused. -/
  | config (cause : ConfigError)
  /-- A collection could not be read or added. -/
  | store (cause : StoreError)
deriving DecidableEq, Repr

/-- The cause in words. -/
def AlgorithmError.message : AlgorithmError → String
  | config cause => "configuration error: " ++ cause.message
  | store cause => "event store error: " ++ cause.message

end DetectorReadout
