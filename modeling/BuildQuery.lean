import BuildQuery.Main
import BuildQuery.Proofs.GlobMatching
import BuildQuery.Proofs.LeafWise
import BuildQuery.Proofs.LikeMatching
import BuildQuery.Proofs.StoreEval
import BuildQuery.Proofs.Backends
import BuildQuery.Proofs.Canonical
import BuildQuery.Proofs.Containment
import BuildQuery.Proofs.LowerCase
import BuildQuery.Proofs.MovedProject
import BuildQuery.Proofs.RegistryHistory
import BuildQuery.Proofs.AnyEntity
import BuildQuery.Proofs.LeafwiseMoves
import BuildQuery.Proofs.SqlReading
import BuildQuery.Handle
import BuildQuery.Proofs.RepeatedMoves
import BuildQuery.Proofs.MovedRegistry
import BuildQuery.Proofs.ByteOrder
import BuildQuery.Proofs.RegistryByName
import BuildQuery.Pattern.Scan
import BuildQuery.Proofs.GlobScan
import BuildQuery.Proofs.MoveCounts
import BuildQuery.Proofs.ClauseForm
import BuildQuery.Proofs.ConfiguredContext
import BuildQuery.Pattern.Rows
import BuildQuery.Proofs.LikeRows
import BuildQuery.Proofs.PathExpansion
import BuildQuery.Proofs.LongerPatterns
import BuildQuery.Proofs.Hierarchy
import BuildQuery.Proofs.UnmappedFields
import BuildQuery.Proofs.Parentheses
import BuildQuery.Proofs.LoweredGlobs
import BuildQuery.Proofs.LostMatches
import BuildQuery.Proofs.IgnoringCase
import BuildQuery.Proofs.KnownProjects
import BuildQuery.Proofs.NormalForm
import BuildQuery.Proofs.FaultPlaces
import BuildQuery.Store.Scan
import BuildQuery.Proofs.KleeneOrder
import BuildQuery.Proofs.ContainedPatterns
import BuildQuery.Proofs.NormalPaths
import BuildQuery.Proofs.PathOrder
import BuildQuery.Proofs.QuotedValues
