import LintPlan.Main
import LintPlan.Proofs.Planning.Rivals
import LintPlan.Proofs.Planning.FirstWins
import LintPlan.Proofs.Planning.LinterSets
import LintPlan.Proofs.Planning.Wishes
import LintPlan.Proofs.Planning.Budgets
import LintPlan.Proofs.Planning.Plan
import LintPlan.Proofs.Planning.Names
import LintPlan.Proofs.Number.Rounding
import LintPlan.Proofs.Text.Bytes
import LintPlan.Proofs.Text.ReadingBack
import LintPlan.Proofs.PlanText.RoundTrip
import LintPlan.Proofs.Execution.Runs
import LintPlan.Proofs.Execution.Sessions
import LintPlan.Proofs.Execution.Delivery
import LintPlan.Proofs.Execution.EventGrammar
import LintPlan.Proofs.Execution.EventBlocks
import LintPlan.Proofs.Execution.Renaming
import LintPlan.Proofs.Execution.Slots
import LintPlan.Proofs.Execution.Histories
import LintPlan.Proofs.Execution.Verdicts
import LintPlan.Proofs.Execution.SingleFlight
import LintPlan.Proofs.Execution.FreshStart
import LintPlan.Proofs.Execution.Launches
import LintPlan.Proofs.Execution.Cancelling
import LintPlan.Proofs.FileSystem.Paths
import LintPlan.Proofs.FileSystem.Following
import LintPlan.Proofs.FileSystem.Ways
import LintPlan.Proofs.FileSystem.Actions
import LintPlan.Proofs.FileSystem.Replacing
import LintPlan.Proofs.Execution.Preparing
import LintPlan.Proofs.Execution.Starting
import LintPlan.Proofs.Execution.Traffic
import LintPlan.Proofs.Execution.PipeLines
import LintPlan.Proofs.Execution.Telling
import LintPlan.Proofs.Execution.Feeding
import LintPlan.Proofs.Execution.Attending
import LintPlan.Proofs.Execution.Lossless
import LintPlan.Proofs.Execution.HiddenLines
import LintPlan.Proofs.Execution.Subduing
import LintPlan.Proofs.Planning.Partition
import LintPlan.Proofs.Planning.Omissions
import LintPlan.Proofs.Planning.CatalogOrder
import LintPlan.Proofs.Json.SortedEntries
import LintPlan.Proofs.Json.Continuing
import LintPlan.Proofs.Json.Records
import LintPlan.Proofs.Report.Embedding
import LintPlan.Proofs.Json.Yielding
import LintPlan.Proofs.Report.Counters
import LintPlan.Proofs.Report.Findings
import LintPlan.Proofs.Report.Gathering
import LintPlan.Proofs.Number.Seconds
import LintPlan.Proofs.Report.PrintedLines
import LintPlan.Proofs.Report.PrintedLogs
import LintPlan.Proofs.Report.IssueLines
import LintPlan.Proofs.Repository.Walking
import LintPlan.Proofs.Repository.Languages
import LintPlan.Proofs.Repository.MainLanguages
import LintPlan.Proofs.Repository.Detection
import LintPlan.Proofs.Repository.Profiles
import LintPlan.Proofs.Repository.Growing
import LintPlan.Proofs.Repository.PassedBy
import LintPlan.Proofs.Repository.Counting
import LintPlan.Proofs.Repository.NearestFiles
import LintPlan.Proofs.Repository.Visits
import LintPlan.Proofs.Repository.Frameworks
import LintPlan.Proofs.Repository.UnusableManifests
import LintPlan.Proofs.Execution.Unseen
import LintPlan.Proofs.Execution.ContainerArguments
import LintPlan.Proofs.Json.Scalars
import LintPlan.Proofs.Json.Layouts
import LintPlan.Proofs.Json.RoundTrip
import LintPlan.Proofs.Document.Denoting
import LintPlan.Proofs.Document.RoundTrip
import LintPlan.Proofs.Planning.Repairs
import LintPlan.Proofs.Planning.Candidates
import LintPlan.Proofs.Execution.Confinement
import LintPlan.Proofs.Report.Totals
import LintPlan.Proofs.Text.Trimming
import LintPlan.Proofs.Text.Cases
import LintPlan.Proofs.PlanText.Layout
import LintPlan.Proofs.Command.Spellings
import LintPlan.Proofs.Command.TimeLimits
import LintPlan.Proofs.FileSystem.Straight
import LintPlan.Proofs.FileSystem.Calls
import LintPlan.Proofs.FileSystem.Interrupted
import LintPlan.Proofs.Planning.SwitchingOff
import LintPlan.Proofs.Number.Megabytes
import LintPlan.Proofs.Report.NamedTools
import LintPlan.Proofs.Execution.StartedTools
