import RowBinding.Derive.Code
import RowBinding.Derive.Declaration
import RowBinding.Rules.Scripted
import RowBinding.Sample.All
import RowBinding.Sample.Hooks
import RowBinding.Session
import RowBinding.Proofs.Labels
import RowBinding.Proofs.Selection
import RowBinding.Proofs.Assignment
import RowBinding.Proofs.Plans
import RowBinding.Proofs.Sources
import RowBinding.Proofs.ColumnOrder
import RowBinding.Proofs.AlikeResults
import RowBinding.Proofs.SharedRoutine
import RowBinding.Proofs.Jobs
import RowBinding.Proofs.CachedRoutines
import RowBinding.Proofs.Requests
import RowBinding.Proofs.CacheTransparency
import RowBinding.Proofs.StoredValues
import RowBinding.Proofs.Variants
import RowBinding.Proofs.Adaptation
import RowBinding.Proofs.Staging
import RowBinding.Proofs.StoreNames
import RowBinding.Proofs.ReadArguments
import RowBinding.Proofs.DerivedEntities
import RowBinding.Proofs.PlanRuns
import RowBinding.Proofs.StagedRows
import RowBinding.Proofs.BulkRoundTrip
import RowBinding.Proofs.ConversionTypes
import RowBinding.Proofs.AgreeingReaders
import RowBinding.Proofs.DeliveredTypes
import RowBinding.Proofs.StoreFieldTypes
import RowBinding.Proofs.SharedPlans
import RowBinding.Proofs.WellFormedPlans
import RowBinding.Proofs.UnreachedBranches
import RowBinding.Proofs.BoundParameters
import RowBinding.Proofs.StagedParameters
import RowBinding.Proofs.KeptRoutine
import RowBinding.Proofs.BlankValues
import RowBinding.Proofs.NullReads
import RowBinding.Proofs.SentTypes
import RowBinding.Proofs.CacheRuns
import RowBinding.Proofs.Blame
import RowBinding.Proofs.WantedRoutines
import RowBinding.Proofs.Memoization
import RowBinding.Proofs.FailureKinds
import RowBinding.Proofs.ConfinedRules
import RowBinding.Proofs.RuleChanges
import RowBinding.Proofs.FieldUpdates
import RowBinding.Proofs.RowFrame
import RowBinding.Proofs.NamesBothWays
import RowBinding.Proofs.NameResolution
import RowBinding.Proofs.BestConstructor
import RowBinding.Proofs.LeftOverFields
import RowBinding.Proofs.ConversionLaws
import RowBinding.Proofs.ExactConversions
import RowBinding.Proofs.Truncation
import RowBinding.Proofs.ModularCasts
import RowBinding.Proofs.NearestFloats
import RowBinding.Proofs.SaturatingCasts
import RowBinding.Proofs.RepresentedIntegers
import RowBinding.Proofs.ReaderRelations
import RowBinding.Proofs.AgreeingModes
import RowBinding.Proofs.TruthValues
import RowBinding.Proofs.WrittenNumbers
import RowBinding.Proofs.WrittenBytes
import RowBinding.Proofs.WrittenDates
import RowBinding.Proofs.TextColumns
import RowBinding.Proofs.WrittenTimes
import RowBinding.Proofs.DayNumbers
import RowBinding.Proofs.UniversalTimes
import RowBinding.Proofs.ReadTexts
import RowBinding.Proofs.VariantRepresentations
import RowBinding.Proofs.ReachedOperations
import RowBinding.Proofs.EndedConversions
import RowBinding.Proofs.NativeConversions
import RowBinding.Proofs.CentAmounts
import RowBinding.Proofs.RectangularTables
import RowBinding.Proofs.WrittenArguments
import RowBinding.Proofs.FieldArguments
import RowBinding.Proofs.SeparatedItems
import RowBinding.Proofs.HashedKeys
import RowBinding.Proofs.MirroredStructs
import RowBinding.Proofs.DeclaredDefinitions
import RowBinding.Proofs.DefinitionCode
