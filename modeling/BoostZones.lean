import BoostZones.Binary64
import BoostZones.Binding
import BoostZones.Bins
import BoostZones.Buffers
import BoostZones.CommandLine.Help
import BoostZones.CommandLine.Reply
import BoostZones.CommandLine.Request
import BoostZones.CommandLine.Switch
import BoostZones.Decimal.Basic
import BoostZones.Decimal.Layout
import BoostZones.Decimal.Reading
import BoostZones.Decimal.Rounded
import BoostZones.Decimal.Shortest
import BoostZones.Handle
import BoostZones.Json
import BoostZones.Json.Reader
import BoostZones.Json.Text
import BoostZones.Json.Writer
import BoostZones.Kernel.Entry
import BoostZones.Kernel.Job
import BoostZones.Kernel.Lanes
import BoostZones.Kernel.Scalar
import BoostZones.Kernel.Staged
import BoostZones.Main
import BoostZones.Objective
import BoostZones.Objective.Error
import BoostZones.Objective.Json
import BoostZones.Objective.Name
import BoostZones.Objective.Sample
import BoostZones.Objective.Targets
import BoostZones.Objective.Terms
import BoostZones.Proofs.Binary64.Order
import BoostZones.Proofs.Binary64.Values
import BoostZones.Proofs.Bins.Bits
import BoostZones.Proofs.Bins.Coverage
import BoostZones.Proofs.Bins.Packing
import BoostZones.Proofs.Buffers.Acceptance
import BoostZones.Proofs.Buffers.Modes
import BoostZones.Proofs.Buffers.Rounds
import BoostZones.Proofs.Buffers.Split
import BoostZones.Proofs.Crossing
import BoostZones.Proofs.Kernel.Bins
import BoostZones.Proofs.Kernel.Lanes
import BoostZones.Proofs.Kernel.Queue
import BoostZones.Proofs.Kernel.Round
import BoostZones.Proofs.Kernel.Scalar
import BoostZones.Proofs.Kernel.Staged
import BoostZones.Proofs.Kernel.Wrapping
import BoostZones.Proofs.Objective.Decoding
import BoostZones.Proofs.Objective.Domain
import BoostZones.Proofs.Objective.Formulas
import BoostZones.Proofs.Objective.Handles
import BoostZones.Proofs.Objective.Names
import BoostZones.Proofs.Objective.Samples
import BoostZones.Proofs.Objective.Slots
import BoostZones.Proofs.Registry.Acceptance
import BoostZones.Proofs.Registry.Answers
import BoostZones.Proofs.Registry.Bareness
import BoostZones.Proofs.Registry.Order
import BoostZones.Proofs.Registry.Refusals
import BoostZones.Proofs.Registry.Runs
import BoostZones.Proofs.Sequence.Blocks
import BoostZones.Proofs.Sequence.Loops
import BoostZones.Proofs.Sequence.Parts
import BoostZones.Proofs.Sequence.Reading
import BoostZones.Proofs.Sequence.Rows
import BoostZones.Proofs.Session.Binding
import BoostZones.Proofs.Session.Choice
import BoostZones.Proofs.Session.Errors
import BoostZones.Proofs.Session.Finishing
import BoostZones.Proofs.Session.Opening
import BoostZones.Proofs.Session.Runs
import BoostZones.Proofs.Session.Validation
import BoostZones.Proofs.Settings.Layers
import BoostZones.Proofs.Settings.RoundTrip
import BoostZones.Proofs.Text.Numerals
import BoostZones.Proofs.Toml.Integers
import BoostZones.Proofs.Toml.Lines
import BoostZones.Proofs.Toml.Quoting
import BoostZones.Proofs.Transfer.Samples
import BoostZones.Proofs.Trial.Baseline
import BoostZones.Proofs.Trial.Differences
import BoostZones.Proofs.Trial.Making
import BoostZones.Proofs.Trial.Reports
import BoostZones.Proofs.View.Acceptance
import BoostZones.Proofs.View.Admission
import BoostZones.Proofs.View.Shape
import BoostZones.Proofs.Zone.Answers
import BoostZones.Proofs.Zone.Calls
import BoostZones.Proofs.Zone.Metrics
import BoostZones.Proofs.Zone.Products
import BoostZones.Proofs.Zone.Repacking
import BoostZones.Proofs.Zone.Rounds
import BoostZones.Proofs.Zone.Schedules
import BoostZones.Registry
import BoostZones.Registry.Linked
import BoostZones.Registry.Summary
import BoostZones.Selector
import BoostZones.Sequence.Blocks
import BoostZones.Sequence.Window
import BoostZones.Session
import BoostZones.Session.Error
import BoostZones.Settings
import BoostZones.Settings.Error
import BoostZones.Settings.File
import BoostZones.Status
import BoostZones.Text.Blank
import BoostZones.Text.Hexadecimal
import BoostZones.Text.Numeral
import BoostZones.Toml.Document
import BoostZones.Toml.Moment
import BoostZones.Toml.Number
import BoostZones.Toml.Quoting
import BoostZones.Toml.Reader
import BoostZones.Toml.Space
import BoostZones.Toml.Text
import BoostZones.Toml.Value
import BoostZones.Transfer
import BoostZones.Trial
import BoostZones.Trial.Report
import BoostZones.View
import BoostZones.Zone
import BoostZones.Zone.Error
import BoostZones.Zone.Name
