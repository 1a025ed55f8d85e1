import ClusterPlan.Activity
import ClusterPlan.Artifacts.Error
import ClusterPlan.Artifacts.Generation
import ClusterPlan.Artifacts.Keys
import ClusterPlan.Artifacts.Layout
import ClusterPlan.Artifacts.Manifests
import ClusterPlan.Artifacts.Provisioning
import ClusterPlan.Artifacts.Writing
import ClusterPlan.Bindings.Global
import ClusterPlan.Bindings.Server
import ClusterPlan.Command.Action
import ClusterPlan.Command.Apply
import ClusterPlan.Command.Destroy
import ClusterPlan.Command.Error
import ClusterPlan.Command.Generate
import ClusterPlan.Command.Init
import ClusterPlan.Compose
import ClusterPlan.Decimal.Double
import ClusterPlan.Decimal.Layout
import ClusterPlan.Decimal.Reader
import ClusterPlan.Decimal.Shortest
import ClusterPlan.Deployment.Basic
import ClusterPlan.Deployment.Checks
import ClusterPlan.Deployment.Planner
import ClusterPlan.Entity.Complaint
import ClusterPlan.Entity.Options
import ClusterPlan.Entity.Server
import ClusterPlan.Entity.Service
import ClusterPlan.Entity.SshKey
import ClusterPlan.Entity.Volume
import ClusterPlan.Files.Change
import ClusterPlan.Files.Path
import ClusterPlan.Files.Tree
import ClusterPlan.Image.Basic
import ClusterPlan.Image.Docker
import ClusterPlan.Image.Error
import ClusterPlan.Image.ExposedPorts
import ClusterPlan.Image.Glob
import ClusterPlan.Image.Pages
import ClusterPlan.Image.Reference
import ClusterPlan.Image.Resolver
import ClusterPlan.Json.Basic
import ClusterPlan.Json.Reader
import ClusterPlan.Json.Writer
import ClusterPlan.Main
import ClusterPlan.Naming
import ClusterPlan.Program.Basic
import ClusterPlan.Program.Session
import ClusterPlan.Project
import ClusterPlan.Proofs.Decimal
import ClusterPlan.Proofs.Deployment.Checks
import ClusterPlan.Proofs.Except
import ClusterPlan.Proofs.Naming
import ClusterPlan.Proofs.Proxy.Backends
import ClusterPlan.Proofs.Proxy.ListenPorts
import ClusterPlan.Proofs.Proxy.PoolNames
import ClusterPlan.Proofs.Proxy.Port
import ClusterPlan.Proofs.Proxy.Resolved
import ClusterPlan.Proofs.Proxy.Routes
import ClusterPlan.Proofs.Proxy.Served
import ClusterPlan.Proofs.Proxy.WellFormed
import ClusterPlan.Proxy.Declaration
import ClusterPlan.Proxy.Nginx
import ClusterPlan.Proxy.Plan
import ClusterPlan.Proxy.Port
import ClusterPlan.Proxy.Resolved
import ClusterPlan.Proxy.Strategy
import ClusterPlan.Reading
import ClusterPlan.Registry.Basic
import ClusterPlan.Registry.Document
import ClusterPlan.Registry.References
import ClusterPlan.Rollout.Backoff
import ClusterPlan.Rollout.Delivery
import ClusterPlan.Rollout.Readiness
import ClusterPlan.Rollout.Remote
import ClusterPlan.Rollout.Run
import ClusterPlan.Settings
import ClusterPlan.State
import ClusterPlan.Template.Context
import ClusterPlan.Template.Error
import ClusterPlan.Template.Eval
import ClusterPlan.Template.Expr
import ClusterPlan.Template.Parser
import ClusterPlan.Template.Render
import ClusterPlan.Template.Segment
import ClusterPlan.Template.Token
import ClusterPlan.Template.Value
import ClusterPlan.Terraform.Attachment
import ClusterPlan.Terraform.Command
import ClusterPlan.Terraform.Resource
import ClusterPlan.Text.Alphabetic
import ClusterPlan.Text.Blank
import ClusterPlan.Text.Lowercase
import ClusterPlan.Text.Printable
import ClusterPlan.Text.Quoted
import ClusterPlan.Text.Ranges
import ClusterPlan.Text.Split
import ClusterPlan.Toml.Basic
import ClusterPlan.Toml.Reader
import ClusterPlan.Toml.Writer
import ClusterPlan.Yaml.Basic
import ClusterPlan.Yaml.Cursor
import ClusterPlan.Yaml.Reader
import ClusterPlan.Yaml.Resolve
import ClusterPlan.Yaml.ScalarStyle
import ClusterPlan.Yaml.ScalarText
import ClusterPlan.Yaml.Token
import ClusterPlan.Yaml.Writer
import ClusterPlan.Proofs.Deployment.Plans
import ClusterPlan.Proofs.Deployment.Balance
import ClusterPlan.Proofs.Compose.Services
import ClusterPlan.Proofs.Compose.Agreement
import ClusterPlan.Proofs.Compose.HostPorts
import ClusterPlan.Proofs.Proxy.Assignments
import ClusterPlan.Proofs.Template.Braces
import ClusterPlan.Proofs.Template.Segments
import ClusterPlan.Proofs.Template.Grammar
import ClusterPlan.Proofs.Template.Readers
import ClusterPlan.Proofs.Template.Parsing
import ClusterPlan.Proofs.Activity
import ClusterPlan.Proofs.Template.Rendering
import ClusterPlan.Proofs.Template.Tokens
import ClusterPlan.Proofs.Template.Embedding
import ClusterPlan.Proofs.Sequence
import ClusterPlan.Proofs.Template.Calls
import ClusterPlan.Proofs.Template.Isolation
import ClusterPlan.Proofs.Template.Shown
import ClusterPlan.Proofs.Template.ValueText
import ClusterPlan.Proofs.Template.Concatenation
import ClusterPlan.Proofs.Template.Failures
import ClusterPlan.Proofs.Template.UndefinedPolicy
import ClusterPlan.Proofs.Document.Strings
import ClusterPlan.Proofs.Document.Loading
import ClusterPlan.Proofs.Naming.Identifiers
import ClusterPlan.Proofs.Template.Filling
import ClusterPlan.Proofs.Terraform.MountScript
import ClusterPlan.Proofs.Artifacts.Items
import ClusterPlan.Proofs.Artifacts.Separation
import ClusterPlan.Proofs.Registry.Names
import ClusterPlan.Proofs.Artifacts.Entities
import ClusterPlan.Proofs.Artifacts.References
import ClusterPlan.Proofs.Files.Path
import ClusterPlan.Proofs.Files.Tree
import ClusterPlan.Proofs.Artifacts.Kept
import ClusterPlan.Proofs.Files.Frame
import ClusterPlan.Proofs.Outcomes
import ClusterPlan.Proofs.Files.Outcomes
import ClusterPlan.Proofs.Files.Change
import ClusterPlan.Proofs.Files.Settled
import ClusterPlan.Proofs.Files.LastWords
import ClusterPlan.Proofs.Deployment.Resolving
import ClusterPlan.Proofs.Artifacts.Footprint
import ClusterPlan.Proofs.Artifacts.Places
import ClusterPlan.Proofs.Artifacts.Containment
import ClusterPlan.Proofs.Artifacts.Checks
import ClusterPlan.Proofs.Files.Standing
import ClusterPlan.Proofs.Artifacts.ManifestRun
import ClusterPlan.Proofs.Command.Actions
import ClusterPlan.Proofs.Program.Session
import ClusterPlan.Proofs.Rollout.Course
import ClusterPlan.Proofs.Rollout.Events
import ClusterPlan.Proofs.Rollout.Order
import ClusterPlan.Proofs.Command.Order
import ClusterPlan.Proofs.Command.Steps
import ClusterPlan.Proofs.Command.Teardown
import ClusterPlan.Proofs.Text.Parts
import ClusterPlan.Proofs.Image.References
import ClusterPlan.Proofs.Image.Resolving
import ClusterPlan.Proofs.Artifacts.Ownership
import ClusterPlan.Proofs.Proxy.ConfigText
import ClusterPlan.Proofs.Compose.Entries
import ClusterPlan.Proofs.Artifacts.KeyFiles
import ClusterPlan.Proofs.Proxy.Answered
import ClusterPlan.Proofs.Registry.Store
import ClusterPlan.Proofs.Proxy.Fitting
import ClusterPlan.Proofs.Image.Expansion
import ClusterPlan.Proofs.Determined
import ClusterPlan.Proofs.Template.Answers
import ClusterPlan.Proofs.Deployment.Seeing
import ClusterPlan.Proofs.Artifacts.Repeated
import ClusterPlan.Proofs.Image.Wildcards
import ClusterPlan.Proofs.Proxy.Shorthand
import ClusterPlan.Proofs.Proxy.Written
import ClusterPlan.Proofs.Image.Grammar
import ClusterPlan.Proofs.Deployment.SharedPorts
import ClusterPlan.Proofs.Terraform.MountPlaces
import ClusterPlan.Proofs.Fields
import ClusterPlan.Proofs.Deployment.Carrying
import ClusterPlan.Proofs.Entity.Reading
import ClusterPlan.Proofs.Entity.Building
import ClusterPlan.Proofs.Registry.References
import ClusterPlan.Proofs.Naming.Sanitized
import ClusterPlan.Proofs.Rollout.Delays
import ClusterPlan.Proofs.Rollout.Waiting
import ClusterPlan.Proofs.Image.Pages
import ClusterPlan.Proofs.Image.ExposedPorts
import ClusterPlan.Proofs.Template.Contexts
import ClusterPlan.Proofs.State
