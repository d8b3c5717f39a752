import ImageBuild.Archive.Basic
import ImageBuild.Archive.Unpack
import ImageBuild.Backend.Basic
import ImageBuild.Backend.Daemon
import ImageBuild.Backend.Memory
import ImageBuild.Builder.Basic
import ImageBuild.Builder.Run
import ImageBuild.Command.Basic
import ImageBuild.Command.Host
import ImageBuild.Command.Printf
import ImageBuild.Command.Programs
import ImageBuild.Command.Shell.Run
import ImageBuild.Command.Shell.Syntax
import ImageBuild.CommandLine.Arguments
import ImageBuild.CommandLine.LogFilter
import ImageBuild.CommandLine.Run
import ImageBuild.Config.Basic
import ImageBuild.Config.Load
import ImageBuild.Config.Printer
import ImageBuild.Config.Reader
import ImageBuild.Config.Validate
import ImageBuild.Daemon.Basic
import ImageBuild.Daemon.Message
import ImageBuild.Daemon.Target
import ImageBuild.Error
import ImageBuild.FileSystem.Acquire
import ImageBuild.FileSystem.Basic
import ImageBuild.FileSystem.Edit
import ImageBuild.FileSystem.Fault
import ImageBuild.FileSystem.Resolve
import ImageBuild.Git.Change
import ImageBuild.Git.Provider
import ImageBuild.Git.Repository
import ImageBuild.Git.Sha1
import ImageBuild.Git.Snapshot
import ImageBuild.Image
import ImageBuild.Json.Binary64
import ImageBuild.Json.Decimal
import ImageBuild.Json.Fault
import ImageBuild.Json.Number
import ImageBuild.Json.Printer
import ImageBuild.Json.Record
import ImageBuild.Json.Scalar
import ImageBuild.Json.Skip
import ImageBuild.Json.Text
import ImageBuild.Log
import ImageBuild.Main
import ImageBuild.Output.LineLogger
import ImageBuild.Output.Sink
import ImageBuild.Path
import ImageBuild.Pattern
import ImageBuild.Plan.Basic
import ImageBuild.Plan.Compiler
import ImageBuild.Plan.Run
import ImageBuild.Proofs.Archive.Contents
import ImageBuild.Proofs.Archive.Traversal
import ImageBuild.Proofs.Archive.Unpacking
import ImageBuild.Proofs.Builder.Halting
import ImageBuild.Proofs.Builder.Images
import ImageBuild.Proofs.Builder.Isolation
import ImageBuild.Proofs.Builder.Preparation
import ImageBuild.Proofs.Builder.Sections
import ImageBuild.Proofs.Builder.Workdir
import ImageBuild.Proofs.FileSystem.Resolved
import ImageBuild.Proofs.FileSystem.WellFormed
import ImageBuild.Proofs.PathText
import ImageBuild.Proofs.Plan.Attempts
import ImageBuild.Proofs.Plan.Steps
import ImageBuild.Proofs.Sandbox.Containment
import ImageBuild.Proofs.Staging
import ImageBuild.Proofs.World
import ImageBuild.Sandbox
import ImageBuild.Staging
import ImageBuild.TagSpec
import ImageBuild.Text.Blank
import ImageBuild.Text.Quoted
import ImageBuild.Text.Split
import ImageBuild.Text.Unprintable
import ImageBuild.Text.Utf8
import ImageBuild.Uuid
import ImageBuild.VersionControl
import ImageBuild.World
import ImageBuild.Proofs.Builder.Results
import ImageBuild.Proofs.Backend.Memory
import ImageBuild.Proofs.CommandLine.ExitStatus
import ImageBuild.Proofs.Builder.Reclaiming
import ImageBuild.Proofs.Archive.Order
import ImageBuild.Proofs.Archive.Targets
import ImageBuild.Proofs.Rearchiving
import ImageBuild.Proofs.Builder.Sending
import ImageBuild.Proofs.FileSystem.Aside
import ImageBuild.Proofs.StagingBeside
import ImageBuild.Proofs.Builder.Leftovers
import ImageBuild.Proofs.Builder.Transport
import ImageBuild.Proofs.Builder.Reuse
import ImageBuild.Proofs.Builder.Filework
import ImageBuild.Proofs.Builder.Traces
import ImageBuild.Proofs.Agreement
import ImageBuild.Proofs.Builder.SkippedPushes
import ImageBuild.Proofs.Plan.Straight
import ImageBuild.Proofs.Builder.Pushing
import ImageBuild.Proofs.Builder.DryRun
import ImageBuild.Proofs.FileSystem.Within
import ImageBuild.Proofs.Archive.Refilling
import ImageBuild.Proofs.Restaging
import ImageBuild.Proofs.Builder.Lifetimes
import ImageBuild.Proofs.Archive.Faults
import ImageBuild.Proofs.StagingFaults
import ImageBuild.Proofs.Builder.FreshNames
import ImageBuild.Proofs.Builder.Queries
import ImageBuild.Proofs.Builder.BlankTags
import ImageBuild.Proofs.Plan.Identifiers
import ImageBuild.Proofs.Json.Grammar
import ImageBuild.Proofs.Json.Strings
import ImageBuild.Proofs.Json.Numbers
import ImageBuild.Proofs.Json.Skipping
import ImageBuild.Proofs.Json.Readers
import ImageBuild.Proofs.Json.Records
import ImageBuild.Proofs.Config.Documents
import ImageBuild.Proofs.Json.Printing
import ImageBuild.Proofs.Config.RoundTrip
import ImageBuild.Proofs.Builder.Detached
import ImageBuild.Proofs.Sandbox.Respelling
import ImageBuild.Proofs.Archive.Completeness
import ImageBuild.Proofs.Builder.TemporaryReferences
import ImageBuild.Proofs.FileSystem.Stages
import ImageBuild.Proofs.Sandbox.Verdicts
import ImageBuild.Proofs.Backend.Streams
import ImageBuild.Proofs.Builder.Refusals
import ImageBuild.Proofs.Config.FirstFault
import ImageBuild.Proofs.Plan.Compilation
import ImageBuild.Proofs.Builder.ContextRoots
import ImageBuild.Proofs.Archive.Overlaying
import ImageBuild.Proofs.StagingAgain
import ImageBuild.Proofs.Builder.SetupsInTurn
import ImageBuild.Proofs.Builder.TrustedFiles
import ImageBuild.Proofs.Sandbox.Reentry
import ImageBuild.Proofs.Text.Decoding
import ImageBuild.Proofs.Text.Lines
import ImageBuild.Proofs.Output.Chunks
import ImageBuild.Proofs.Output.Forwarding
import ImageBuild.Proofs.PathDrafts
import ImageBuild.Proofs.PathNormalForms
