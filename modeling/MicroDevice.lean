import MicroDevice.Main
import MicroDevice.Session.Script
import MicroDevice.Simulation.Backend
import MicroDevice.Simulation.Channel
import MicroDevice.Simulation.Image
import MicroDevice.Simulation.Server
import MicroDevice.Simulation.Toolbox
import MicroDevice.Proofs.Action.Moves
import MicroDevice.Proofs.Memory.Words
import MicroDevice.Proofs.Memory.Regions
import MicroDevice.Proofs.Memory.Overlap
import MicroDevice.Proofs.Memory.Planning
import MicroDevice.Proofs.Files.Presence
import MicroDevice.Proofs.Session.Opening
import MicroDevice.Proofs.Session.Building
import MicroDevice.Proofs.Session.Hooks
import MicroDevice.Proofs.Session.Run
import MicroDevice.Proofs.Session.Scopes
import MicroDevice.Proofs.Session.Guards
import MicroDevice.Proofs.Session.Closing
import MicroDevice.Proofs.Build.Leaving
import MicroDevice.Proofs.Build.Failures
import MicroDevice.Proofs.Text.Digits
import MicroDevice.Proofs.Json.Tokens
import MicroDevice.Proofs.Json.Rendering
import MicroDevice.Proofs.Config.Fields
import MicroDevice.Proofs.Config.JsonText
import MicroDevice.Proofs.Toml.Strings
import MicroDevice.Proofs.Toml.Values
import MicroDevice.Proofs.Toml.Statements
import MicroDevice.Proofs.Toml.Tables
import MicroDevice.Proofs.Config.TomlText
import MicroDevice.Proofs.Config.Overlaps
import MicroDevice.Proofs.Channel.Stack
import MicroDevice.Proofs.Channel.Opening
import MicroDevice.Proofs.Channel.Placement
import MicroDevice.Proofs.Channel.Calls
import MicroDevice.Proofs.Channel.Framing
import MicroDevice.Proofs.Session.Stages
import MicroDevice.Proofs.Session.Stopping
import MicroDevice.Proofs.Session.Validation
import MicroDevice.Proofs.Session.OnHost
import MicroDevice.Proofs.Channel.Commands
import MicroDevice.Proofs.Channel.Conversation
import MicroDevice.Proofs.Session.Operators
import MicroDevice.Proofs.Number.Rounding
import MicroDevice.Proofs.Number.Packing
import MicroDevice.Proofs.Number.Arithmetic
import MicroDevice.Proofs.Number.Conversion
import MicroDevice.Proofs.Memory.Shares
import MicroDevice.Proofs.Object.Fields
import MicroDevice.Proofs.Object.Names
import MicroDevice.Proofs.Object.Library
import MicroDevice.Proofs.Session.Creation
import MicroDevice.Proofs.Session.Household
import MicroDevice.Proofs.Build.Registry
import MicroDevice.Proofs.Build.Registries
import MicroDevice.Proofs.Config.Acceptance
import MicroDevice.Proofs.Config.Defaults
import MicroDevice.Proofs.Files.Beside
import MicroDevice.Proofs.Build.Making
import MicroDevice.Proofs.Session.Tidying
import MicroDevice.Proofs.Session.Visiting
import MicroDevice.Proofs.CommandLine.Consoles
import MicroDevice.Proofs.CommandLine.Defaults
import MicroDevice.Proofs.CommandLine.Checking
import MicroDevice.Proofs.Channel.Packing
import MicroDevice.Proofs.Session.Bodies
import MicroDevice.Proofs.Build.Commands
import MicroDevice.Proofs.Build.Surroundings
import MicroDevice.Proofs.Session.Exporting
import MicroDevice.Proofs.Channel.Wire
import MicroDevice.Proofs.Channel.Agreement
import MicroDevice.Proofs.Session.StackPointer
import MicroDevice.Proofs.Json.Division
import MicroDevice.Proofs.Json.Runs
import MicroDevice.Proofs.Json.Members
import MicroDevice.Proofs.Data.Entries
import MicroDevice.Proofs.Config.Orders
import MicroDevice.Proofs.Config.Rearranging
import MicroDevice.Proofs.Memory.FixedSizes
import MicroDevice.Proofs.Config.Edits
import MicroDevice.Proofs.Build.Invocations
import MicroDevice.Proofs.Build.Furnishing
import MicroDevice.Proofs.Build.Staging
