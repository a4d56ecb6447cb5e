import PublicPath.CommandLine.Session
import PublicPath.Json.Equality
import PublicPath.Json.Writer
import PublicPath.Main
import PublicPath.Proofs.CharacterClasses
import PublicPath.Proofs.LexemeGrammar
import PublicPath.Proofs.TargetGrammar
import PublicPath.Proofs.ValueScanning
import PublicPath.Proofs.FollowingText
import PublicPath.Proofs.AssignmentScanning
import PublicPath.Proofs.PassingText
import PublicPath.Proofs.Replacement
import PublicPath.Proofs.BalancedBrackets
import PublicPath.Proofs.AssignmentGrammar
import PublicPath.Proofs.BundlerExpressions
import PublicPath.Proofs.Processing
import PublicPath.Proofs.StaticPaths
import PublicPath.Proofs.BuildAccounts
import PublicPath.Proofs.SecondStatements
import PublicPath.Proofs.InitializerValues
import PublicPath.Proofs.NestedAssignments
import PublicPath.Proofs.Divisions
import PublicPath.Proofs.MissingValues
import PublicPath.Proofs.RefusedSources
import PublicPath.Proofs.ErrorPlaces
import PublicPath.Proofs.EndedStatements
import PublicPath.Proofs.LineComments
import PublicPath.Proofs.JoinedSources
import PublicPath.Proofs.SurroundingTrivia
import PublicPath.Proofs.LongerSources
import PublicPath.Proofs.GeneratedPaths
import PublicPath.Proofs.ScriptLiterals
import PublicPath.Proofs.SchemaViolations
import PublicPath.Proofs.SharedCompiler
import PublicPath.Proofs.SuppliedOptions
import PublicPath.Proofs.TapCalls
import PublicPath.Proofs.RepeatedProcessing
import PublicPath.Proofs.ErrorReports
import PublicPath.Proofs.SeveralCalls
import PublicPath.Proofs.PathComponents
import PublicPath.Proofs.FilePlaces
import PublicPath.Proofs.QuietMachine
import PublicPath.Proofs.Directories
import PublicPath.Proofs.OutputPaths
import PublicPath.Proofs.Overlays
import PublicPath.Proofs.NamedMembers
import PublicPath.Proofs.LoadedProjects
import PublicPath.Proofs.JobEffects
import PublicPath.Proofs.Deliveries
import PublicPath.Proofs.JobOrder
import PublicPath.Proofs.ContainerReaders
import PublicPath.Proofs.OrderedValues
import PublicPath.Proofs.WrittenProjects
import PublicPath.Proofs.InsertedEndpoints
import PublicPath.Proofs.LoadedMaps
import PublicPath.Proofs.HostNames
import PublicPath.Proofs.ReachableMaps
import PublicPath.Proofs.SerialisedMaps
import PublicPath.Proofs.WrittenMaps
import PublicPath.Proofs.ShortestLiterals
import PublicPath.Proofs.ByteCursor
import PublicPath.Proofs.CursorRuns
