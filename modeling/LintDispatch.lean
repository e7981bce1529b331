import LintDispatch.Main
import LintDispatch.Plan
import LintDispatch.Report
import LintDispatch.Proofs.Plan.Greedy
import LintDispatch.Proofs.Plan.Optimal
import LintDispatch.Proofs.Plan.Boundaries
import LintDispatch.Proofs.Run.Round
import LintDispatch.Proofs.Run.Sequential
import LintDispatch.Proofs.Run.History
import LintDispatch.Proofs.Json.Grammar
import LintDispatch.Proofs.Json.Reading
import LintDispatch.Proofs.FileSystem.Changes
import LintDispatch.Proofs.FileSystem.Fresh
import LintDispatch.Proofs.Json.Lists
import LintDispatch.Proofs.Json.Records
import LintDispatch.Proofs.Json.Writing
import LintDispatch.Proofs.Json.Taken.Skipping
import LintDispatch.Proofs.Report.Spelling
import LintDispatch.Proofs.Report.Writing
import LintDispatch.Proofs.Report.Decoding
import LintDispatch.Proofs.Report.Acceptance
import LintDispatch.Proofs.Json.Positions
import LintDispatch.Proofs.Json.Values
import LintDispatch.Proofs.Json.Taken.Records
import LintDispatch.Proofs.Run.PerFile
import LintDispatch.Proofs.Run.Parallel
import LintDispatch.Proofs.Issue.RoundTrip
import LintDispatch.Proofs.Run.Limit
import LintDispatch.Proofs.Run.Agreement
import LintDispatch.Proofs.FileSystem.Temporary
import LintDispatch.Proofs.Run.Leftovers
import LintDispatch.Proofs.Run.Repetition
import LintDispatch.Proofs.Json.Taken.Steps
import LintDispatch.Proofs.Json.Taken.Scalars
import LintDispatch.Proofs.Run.SingleWorker
import LintDispatch.Proofs.Run.Cancellation
import LintDispatch.Proofs.Run.Resumption
import LintDispatch.Proofs.Settings.Acceptance
import LintDispatch.Proofs.CommandLine.Preview
import LintDispatch.Proofs.CommandLine.ExitCode
import LintDispatch.Proofs.CommandLine.RulesDir
import LintDispatch.Proofs.Run.Refusal
import LintDispatch.Proofs.Settings.RoundTrip
import LintDispatch.Proofs.Run.Line
import LintDispatch.Proofs.CommandLine.Precedence
import LintDispatch.Proofs.Run.Deadlines
import LintDispatch.Proofs.FileSystem.Lifecycle
import LintDispatch.Proofs.CommandLine.Stretches
import LintDispatch.Proofs.Run.Waiting
import LintDispatch.Proofs.Failure.Wrapping
