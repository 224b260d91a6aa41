import GatewaySim.Bus.RuleTable
import GatewaySim.Main
import GatewaySim.Simulation.Workspace
import GatewaySim.Proofs.Bus.Levels
import GatewaySim.Proofs.Bus.Segments
import GatewaySim.Proofs.Bus.LevelOrder
import GatewaySim.Proofs.Bus.DepthFirst
import GatewaySim.Proofs.Bus.HopLimit
import GatewaySim.Proofs.Gateway.HopBound
import GatewaySim.Proofs.Bus.Shape
import GatewaySim.Proofs.Bus.Causes
import GatewaySim.Proofs.Gateway.Routing
import GatewaySim.Proofs.Gateway.Delivery
import GatewaySim.Proofs.Gateway.Provenance
import GatewaySim.Proofs.Gateway.Admission
import GatewaySim.Proofs.Message.RoundTrip
import GatewaySim.Proofs.Bus.Reordering
import GatewaySim.Proofs.Config.Parts
import GatewaySim.Proofs.Scenario.Configured
import GatewaySim.Proofs.Report.RecordNames
import GatewaySim.Proofs.Simulation.Files
import GatewaySim.Proofs.Simulation.Effects
import GatewaySim.Proofs.Simulation.Steps
import GatewaySim.Proofs.Simulation.Runs
import GatewaySim.Proofs.Report.Totals
import GatewaySim.Proofs.Simulation.Accounts
import GatewaySim.Proofs.Json.Layout
import GatewaySim.Proofs.Report.Records
import GatewaySim.Proofs.Bus.Deliveries
import GatewaySim.Proofs.Bus.Subscribers
import GatewaySim.Proofs.Simulation.Saving
import GatewaySim.Proofs.Application.Outcomes
import GatewaySim.Proofs.Simulation.Answers
import GatewaySim.Proofs.Bus.Growth
import GatewaySim.Proofs.Bus.Listening
import GatewaySim.Proofs.Report.TraceLines
import GatewaySim.Proofs.Config.Alike
import GatewaySim.Proofs.Config.Writes
import GatewaySim.Proofs.Config.Reordering
import GatewaySim.Proofs.Config.Keys
import GatewaySim.Proofs.Toml.Keys
import GatewaySim.Proofs.Toml.DateTimes
import GatewaySim.Proofs.Config.Sources
import GatewaySim.Proofs.Config.Sections
import GatewaySim.Proofs.Config.Overrides
import GatewaySim.Proofs.Config.Roots
import GatewaySim.Proofs.Bus.Configured
import GatewaySim.Proofs.Scenario.Listed
import GatewaySim.Proofs.Scenario.Visits
import GatewaySim.Proofs.Json.Syntax
import GatewaySim.Proofs.Json.Tokens
import GatewaySim.Proofs.Json.Soundness
import GatewaySim.Proofs.Json.Containers
import GatewaySim.Proofs.Message.Arrays
import GatewaySim.Proofs.Scenario.Seeds
import GatewaySim.Proofs.Scenario.Slugs
import GatewaySim.Proofs.Simulation.Registry
import GatewaySim.Proofs.Bus.HopRange
import GatewaySim.Proofs.Number.Rounding
import GatewaySim.Proofs.Json.Integers
import GatewaySim.Proofs.Config.Integers
import GatewaySim.Proofs.Bus.IntegerLimits
import GatewaySim.Proofs.Message.Edits
