import DocMarkers.Main
import DocMarkers.Proofs.FirstAppearance
import DocMarkers.Proofs.ResolutionOrder
import DocMarkers.Proofs.Circles
import DocMarkers.Proofs.Wiring
import DocMarkers.Proofs.CircleBreaking
import DocMarkers.Proofs.Meaning
import DocMarkers.Proofs.Memoisation
import DocMarkers.Proofs.WorstLeaf
import DocMarkers.Proofs.Bindings
import DocMarkers.Proofs.Locality
import DocMarkers.Proofs.PlaceholderGrammar
import DocMarkers.Proofs.Reading
import DocMarkers.Proofs.RenderedVerdicts
import DocMarkers.Proofs.SplitTexts
import DocMarkers.Proofs.JoinedPaths
import DocMarkers.Proofs.PathTables
import DocMarkers.Proofs.Sessions
import DocMarkers.Proofs.DocumentPaths
import DocMarkers.Proofs.Summaries
import DocMarkers.Proofs.Gate
import DocMarkers.Proofs.SharedChecks
import DocMarkers.Proofs.Isolation
import DocMarkers.Proofs.RelativePaths
import DocMarkers.Proofs.CheckReports
import DocMarkers.Proofs.PlainPaths
import DocMarkers.Proofs.Writes
import DocMarkers.Proofs.Destinations
import DocMarkers.Proofs.RenderedTrees
import DocMarkers.Proofs.RenderRuns
import DocMarkers.Proofs.Clauses
import DocMarkers.Proofs.RenderedPlaceholders
import DocMarkers.Proofs.Descents
import DocMarkers.Proofs.FoundDocuments
import DocMarkers.Proofs.Landings
import DocMarkers.Proofs.RenderedSources
import DocMarkers.Proofs.MarkdownLinks
import DocMarkers.Proofs.LinkTargets
import DocMarkers.Proofs.SlashedPaths
import DocMarkers.Proofs.MadeFiles
import DocMarkers.Proofs.Listings
import DocMarkers.Proofs.Initialisation
import DocMarkers.Proofs.Warnings
import DocMarkers.Proofs.EvaluationTables
import DocMarkers.Proofs.EndingEvaluations
import DocMarkers.Proofs.OverlaidSettings
import DocMarkers.Proofs.LoadedSettings
