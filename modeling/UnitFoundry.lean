import UnitFoundry.UnitName
import UnitFoundry.Artifact.Format
import UnitFoundry.ResourcePath
import UnitFoundry.Store
import UnitFoundry.File.Writer
import UnitFoundry.Diagnostic
import UnitFoundry.Options
import UnitFoundry.Text.Binary64
import UnitFoundry.Path
import UnitFoundry.Log
import UnitFoundry.Text.Lines
import UnitFoundry.Text.Quoted
import UnitFoundry.Text.Percent
import UnitFoundry.Script.Syntax
import UnitFoundry.Script.Token
import UnitFoundry.Script.Parse
import UnitFoundry.Script.Check
import UnitFoundry.Script.Value
import UnitFoundry.Registry
import UnitFoundry.Session
import UnitFoundry.Import
import UnitFoundry.Script.Run
import UnitFoundry.Loader
import UnitFoundry.Overlay
import UnitFoundry.Emission
import UnitFoundry.Policy
import UnitFoundry.Backend.Program
import UnitFoundry.Backend.Standard
import UnitFoundry.Backend.Scenario
import UnitFoundry.Compiler
import UnitFoundry.Yaml.Document
import UnitFoundry.Backend.Catalogue
import UnitFoundry.Backend.Installed
import UnitFoundry.Settings
import UnitFoundry.Setup
import UnitFoundry.Collector
import UnitFoundry.Disk.TextFile
import UnitFoundry.CommandLine.Words
import UnitFoundry.CommandLine.Styled
import UnitFoundry.CommandLine.Command
import UnitFoundry.CommandLine.Report
import UnitFoundry.Main
import UnitFoundry.Text.Numeral
import UnitFoundry.Text.Casing
import UnitFoundry.Text.NormalForm
import UnitFoundry.Script.Engine
import UnitFoundry.Script.Compare
import UnitFoundry.Script.Arithmetic
import UnitFoundry.Script.Exception
import UnitFoundry.Script.Picture
import UnitFoundry.Proofs.Loader.Memory
import UnitFoundry.Proofs.Loader.Nesting
import UnitFoundry.Proofs.Session.Isolation
import UnitFoundry.Proofs.Compiler.Success
import UnitFoundry.Proofs.Compiler.Rejection
import UnitFoundry.Proofs.Compiler.Competition
import UnitFoundry.Proofs.Compiler.Recovery
import UnitFoundry.Proofs.Emission.Publications
import UnitFoundry.Proofs.UnitName
import UnitFoundry.Proofs.Loader.Imports
import UnitFoundry.Proofs.Compiler.Memoization
import UnitFoundry.Proofs.Compiler.Atomicity
import UnitFoundry.Proofs.Loader.SeveralNames
import UnitFoundry.Proofs.Loader.Dotted
import UnitFoundry.Proofs.ResourcePath.Agreement
import UnitFoundry.Proofs.Compiler.Documented
import UnitFoundry.Proofs.Session.Copies
import UnitFoundry.Proofs.ResourcePath.Containment
import UnitFoundry.Proofs.Store.Containment
import UnitFoundry.Proofs.Store.Contents
import UnitFoundry.Proofs.Session.Candidates
import UnitFoundry.Proofs.Session.Replies
import UnitFoundry.Proofs.UnitName.Markers
import UnitFoundry.Proofs.Compiler.Changes
import UnitFoundry.Proofs.Compiler.Attempts
import UnitFoundry.Proofs.CommandLine.Precedence
import UnitFoundry.Proofs.Compiler.Submissions
import UnitFoundry.Proofs.Backend.Sources
import UnitFoundry.Proofs.Backend.Leniency
import UnitFoundry.Proofs.Loader.Ways
import UnitFoundry.Proofs.Backend.Generations
import UnitFoundry.Proofs.ResourcePath.Shadowing
import UnitFoundry.Proofs.File.LifeCycle
import UnitFoundry.Proofs.Session.Succession
import UnitFoundry.Proofs.Artifact.Truncation
import UnitFoundry.Proofs.Store.Failures
import UnitFoundry.Proofs.Backend.Discovery
import UnitFoundry.Proofs.Settings.Failures
import UnitFoundry.Proofs.Settings.Precedence
import UnitFoundry.Proofs.Text.Numeral
import UnitFoundry.Proofs.Options
import UnitFoundry.Proofs.Options.Lint
import UnitFoundry.Proofs.Compiler.Failures
import UnitFoundry.Proofs.Setup.Failures
import UnitFoundry.Proofs.CommandLine.Exits
