import BeanMapping.Code.Rendering
import BeanMapping.Compiled.Run
import BeanMapping.Converter.Script
import BeanMapping.Json.Printer
import BeanMapping.Plan.Document
import BeanMapping.TraceLog
import BeanMapping.Proofs.PlanTree
import BeanMapping.Proofs.Verification
import BeanMapping.Proofs.Derivation
import BeanMapping.Proofs.DerivedMethods
import BeanMapping.Proofs.Accepted
import BeanMapping.Proofs.Running
import BeanMapping.Proofs.Linking
import BeanMapping.Proofs.FailureSafety
import BeanMapping.Proofs.MethodNames
import BeanMapping.Proofs.Rendering
import BeanMapping.Proofs.SharedMethods
import BeanMapping.Proofs.FallibleCalls
import BeanMapping.Proofs.Conversions
import BeanMapping.Proofs.BuiltinTypes
import BeanMapping.Proofs.NestedTargets
import BeanMapping.Proofs.Batch
import BeanMapping.Proofs.RejectedEmissions
import BeanMapping.Proofs.ConservativeLinking
import BeanMapping.Proofs.IntrospectedShapes
import BeanMapping.Proofs.FaithfulCaches
import BeanMapping.Proofs.Correlated
import BeanMapping.Proofs.PlannedShapes
import BeanMapping.Proofs.LinkErrors
import BeanMapping.Proofs.LinkComplete
import BeanMapping.Proofs.LinkedFamilies
import BeanMapping.Proofs.FreshRuns
import BeanMapping.Proofs.WellTypedRuns
import BeanMapping.Proofs.ShapeViews
import BeanMapping.Proofs.NestingDepth
import BeanMapping.Proofs.Writing
import BeanMapping.Proofs.KeptTargets
import BeanMapping.Proofs.NewTargets
import BeanMapping.Proofs.StrategyChoice
import BeanMapping.Proofs.ReorderedTypes
import BeanMapping.Proofs.ReachedMethods
import BeanMapping.Proofs.NestingLimit
import BeanMapping.Proofs.ExactCorrelation
import BeanMapping.Proofs.DiscoveryOrder
import BeanMapping.Proofs.ExactDerivations
import BeanMapping.Proofs.SeenShapes
import BeanMapping.Proofs.RaisedLimits
import BeanMapping.Proofs.IsolatedMethods
import BeanMapping.Proofs.MoreFailures
import BeanMapping.Proofs.Outlines
import BeanMapping.Proofs.Replanning
import BeanMapping.Proofs.Situations
import BeanMapping.Proofs.SharedCache
import BeanMapping.Proofs.CompletePlans
import BeanMapping.Proofs.MirroredMappings
import BeanMapping.Proofs.JsonTexts
import BeanMapping.Proofs.Documents
import BeanMapping.Proofs.HeuristicMatches
import BeanMapping.Proofs.Matchings
import BeanMapping.Proofs.Namesakes
import BeanMapping.Proofs.AmbiguousMatches
import BeanMapping.Proofs.MemberOrigins
import BeanMapping.Proofs.NearestFirst
import BeanMapping.Proofs.ConversionPriority
import BeanMapping.Proofs.SpecificAdders
import BeanMapping.Proofs.OverloadedSetters
import BeanMapping.Proofs.CallTraces
import BeanMapping.Proofs.VectorElements
import BeanMapping.Proofs.SingularForms
import BeanMapping.Proofs.OrderWarnings
import BeanMapping.Proofs.DeletedLogs
import BeanMapping.Proofs.Boxing
import BeanMapping.Proofs.RegistryViews
