import InfraAudit.Audit.Cluster
import InfraAudit.Audit.Error
import InfraAudit.Audit.Plan
import InfraAudit.Audit.Policy
import InfraAudit.Audit.Tool
import InfraAudit.Cluster.Container
import InfraAudit.Cluster.Resource
import InfraAudit.Cluster.Workload
import InfraAudit.CommandLine.Arguments
import InfraAudit.CommandLine.Options
import InfraAudit.CommandLine.Run
import InfraAudit.Decimal.Reading
import InfraAudit.Decimal.Shortest
import InfraAudit.Files.Path
import InfraAudit.Files.System
import InfraAudit.Files.Tree
import InfraAudit.Json.Printer
import InfraAudit.Json.Reader
import InfraAudit.Main
import InfraAudit.Manifest.Document
import InfraAudit.Manifest.Parse
import InfraAudit.Plan.Action
import InfraAudit.Plan.Basic
import InfraAudit.Plan.Drift
import InfraAudit.Plan.Parse
import InfraAudit.Plan.Resource
import InfraAudit.Policy.Basic
import InfraAudit.Policy.Config
import InfraAudit.Record.Decoder
import InfraAudit.Record.Error
import InfraAudit.Report.Format
import InfraAudit.Report.Markdown
import InfraAudit.Report.Plain
import InfraAudit.Report.Render
import InfraAudit.Report.Style
import InfraAudit.Report.View
import InfraAudit.Risk.Aws
import InfraAudit.Risk.Azure
import InfraAudit.Risk.Basic
import InfraAudit.Risk.Google
import InfraAudit.Risk.Triage
import InfraAudit.Rule.Basic
import InfraAudit.Rule.Builtin
import InfraAudit.Rule.Engine
import InfraAudit.Rule.Finding
import InfraAudit.Rule.Network
import InfraAudit.Rule.Storage
import InfraAudit.Rule.Workload
import InfraAudit.Text.Blank
import InfraAudit.Text.Case
import InfraAudit.Text.Invisible
import InfraAudit.Text.Lines
import InfraAudit.Text.Quoted
import InfraAudit.Toml.Reader
import InfraAudit.Toml.Scalar
import InfraAudit.Toml.Table
import InfraAudit.Validation
import InfraAudit.Value
import InfraAudit.Yaml.Cursor
import InfraAudit.Yaml.Document
import InfraAudit.Yaml.Node
import InfraAudit.Yaml.Scalar
import InfraAudit.Yaml.Token
import InfraAudit.Yaml.Token.Lexer
import InfraAudit.Yaml.Token.Scalar
import InfraAudit.Yaml.Token.Tag
import InfraAudit.Proofs.Rule.Registration
import InfraAudit.Proofs.Rule.Evaluation
import InfraAudit.Proofs.Rule.Builtin
import InfraAudit.Proofs.Manifest.Document
import InfraAudit.Proofs.Manifest.Stream
import InfraAudit.Proofs.Manifest.Coverage
import InfraAudit.Proofs.Validation
import InfraAudit.Proofs.Plan.Acceptance
import InfraAudit.Proofs.Policy.Selection
import InfraAudit.Proofs.Plan.Reading
import InfraAudit.Proofs.Plan.Issues
import InfraAudit.Proofs.Plan.Violations
import InfraAudit.Proofs.Plan.Duplicates
import InfraAudit.Proofs.Plan.Summary
import InfraAudit.Proofs.Plan.Drift
import InfraAudit.Proofs.Audit.Risks
import InfraAudit.Proofs.Audit.Cloud
import InfraAudit.Proofs.Audit.Files
import InfraAudit.Proofs.Risk.Buckets
import InfraAudit.Proofs.Risk.Groups
import InfraAudit.Proofs.Risk.Analyses
import InfraAudit.Proofs.Risk.FlatEntries
import InfraAudit.Proofs.Cluster.Containers
import InfraAudit.Proofs.Audit.Requests
import InfraAudit.Proofs.CommandLine.Calls
import InfraAudit.Proofs.Rule.Workload
import InfraAudit.Proofs.Rule.Exposure
import InfraAudit.Proofs.Rule.Offenders
import InfraAudit.Proofs.Rule.Images
import InfraAudit.Proofs.Cluster.Objects
import InfraAudit.Proofs.Cluster.Reading
import InfraAudit.Proofs.Cluster.Violations
import InfraAudit.Proofs.Report.Tables
import InfraAudit.Proofs.CommandLine.Reports
import InfraAudit.Proofs.Plan.Normalization
import InfraAudit.Proofs.Json.Reader
import InfraAudit.Proofs.Manifest.Lists
import InfraAudit.Proofs.Rule.Attribution
import InfraAudit.Proofs.Report.Order
import InfraAudit.Proofs.Text.Bytes
import InfraAudit.Proofs.Cluster.Groups
import InfraAudit.Proofs.Manifest.Runs
import InfraAudit.Proofs.Plan.Providers
import InfraAudit.Proofs.Record.Encoding
import InfraAudit.Proofs.Record.Exchange
