import DetectorReadout.Event.Algorithm
import DetectorReadout.Json.Values
import DetectorReadout.Proofs.DigitizerOrder
import DetectorReadout.Proofs.History
import DetectorReadout.Proofs.Schedule
import DetectorReadout.Proofs.Transaction
import DetectorReadout.Proofs.SourceLinks
import DetectorReadout.Proofs.Noise
import DetectorReadout.Proofs.HitOrder
import DetectorReadout.Proofs.ChannelNumbers
import DetectorReadout.Proofs.StepCells
import DetectorReadout.Proofs.ClusterChannels
import DetectorReadout.Proofs.RangeLookup
import DetectorReadout.Proofs.ListedEntries
import DetectorReadout.Proofs.WriteOnce
import DetectorReadout.Proofs.DetectorContents
import DetectorReadout.Proofs.DetectorLoading
import DetectorReadout.Proofs.AddressFields
import DetectorReadout.Proofs.ModuleAddresses
import DetectorReadout.Proofs.ExactScalars
import DetectorReadout.Proofs.Rigidity
import DetectorReadout.Proofs.DescribedPlacements
import DetectorReadout.Proofs.TrackCuts
import DetectorReadout.Proofs.BinLookup
import DetectorReadout.Proofs.TrackPieces
import DetectorReadout.Proofs.ClippedTrack
import DetectorReadout.Proofs.ChordLength
import DetectorReadout.Proofs.StepOrder
import DetectorReadout.Proofs.CellLengths
import DetectorReadout.Proofs.StepChain
import DetectorReadout.Proofs.ContainingBin
import DetectorReadout.Proofs.ClusterPosition
import DetectorReadout.Proofs.ReversedTrack
import DetectorReadout.Proofs.CellTiling
import DetectorReadout.Proofs.ChannelBijection
import DetectorReadout.Proofs.KeyRanges
import DetectorReadout.Proofs.AddressPrefixes
import DetectorReadout.Proofs.SubtreeSelection
import DetectorReadout.Proofs.HierarchyWalk
import DetectorReadout.Proofs.Inversion
import DetectorReadout.Proofs.FrameChange
import DetectorReadout.Proofs.RigidMotion
import DetectorReadout.Proofs.LastGiven
import DetectorReadout.Proofs.FieldUpdates
import DetectorReadout.Proofs.ElementHistory
import DetectorReadout.Proofs.AlignmentEpochs
import DetectorReadout.Proofs.FloatPacking
import DetectorReadout.Proofs.FloatOrder
import DetectorReadout.Proofs.FloatSigns
import DetectorReadout.Proofs.Selections
import DetectorReadout.Proofs.UnsetWindows
import DetectorReadout.Proofs.MixedRadix
import DetectorReadout.Proofs.AddressOrder
import DetectorReadout.Proofs.AddressText
import DetectorReadout.Proofs.BarcodeFields
