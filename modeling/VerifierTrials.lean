import VerifierTrials.Main
import VerifierTrials.Machine
import VerifierTrials.Proofs.Definition.FileSets
import VerifierTrials.Proofs.FileTree.Ways
import VerifierTrials.Proofs.FileTree.Writing
import VerifierTrials.Proofs.Path.Components
import VerifierTrials.Proofs.Report.Filings
import VerifierTrials.Proofs.Report.Progress
import VerifierTrials.Proofs.Report.Places
import VerifierTrials.Proofs.Report.Steps
import VerifierTrials.Proofs.Trial.Beginning
import VerifierTrials.Proofs.Trial.Contents
import VerifierTrials.Proofs.Trial.Course
import VerifierTrials.Proofs.Trial.Effects
import VerifierTrials.Proofs.Trial.Reports
import VerifierTrials.Proofs.Trial.Runs
import VerifierTrials.Proofs.Trial.Stopped
import VerifierTrials.Proofs.Verifier.Killed
import VerifierTrials.Proofs.Verifier.Scratch
import VerifierTrials.Proofs.Run.Supervision
import VerifierTrials.Proofs.Definition.ClassicDocument
import VerifierTrials.Proofs.Verifier.TraceReport
import VerifierTrials.Proofs.Path.Expansion
import VerifierTrials.Proofs.Trial.Progress
import VerifierTrials.Proofs.Trial.Notes
import VerifierTrials.Proofs.Trial.Sources
import VerifierTrials.Proofs.Trial.Apart
import VerifierTrials.Proofs.Trial.CommandLines
import VerifierTrials.Proofs.Report.Counts
import VerifierTrials.Proofs.Report.Records
import VerifierTrials.Proofs.Report.Documents
import VerifierTrials.Proofs.FileTree.Patterns
import VerifierTrials.Proofs.Xml.Traversal
import VerifierTrials.Proofs.FileTree.Directories
import VerifierTrials.Proofs.Report.Failures
import VerifierTrials.Proofs.Trial.Beside
import VerifierTrials.Proofs.Trial.Unwritten
import VerifierTrials.Proofs.Trial.Parts
import VerifierTrials.Proofs.Trial.Failed
import VerifierTrials.Proofs.Path.Routes
import VerifierTrials.Proofs.Run.Deadline
import VerifierTrials.Proofs.Verifier.Exhaustion
import VerifierTrials.Proofs.Verifier.Readings
import VerifierTrials.Proofs.Path.References
import VerifierTrials.Proofs.Path.Commutation
import VerifierTrials.Proofs.Definition.Lookup
import VerifierTrials.Proofs.FileTree.Beginnings
import VerifierTrials.Proofs.Verifier.Options
import VerifierTrials.Proofs.Verifier.Labels
import VerifierTrials.Proofs.Report.Expectations
import VerifierTrials.Proofs.Path.Home
import VerifierTrials.Proofs.Path.Joining
import VerifierTrials.Proofs.Report.Values
import VerifierTrials.Proofs.Report.Rounded
import VerifierTrials.Proofs.Report.Spacing
import VerifierTrials.Proofs.Report.Survival
import VerifierTrials.Proofs.Verifier.Acceptance
