import LogicalNet.Address.Ip
import LogicalNet.Address.Mac
import LogicalNet.Address.V4
import LogicalNet.Address.V6
import LogicalNet.Client.Balancers
import LogicalNet.Client.Groups
import LogicalNet.Client.Plan
import LogicalNet.Client.Request
import LogicalNet.Client.Routers
import LogicalNet.Client.Switches
import LogicalNet.Column.Record
import LogicalNet.Column.Value
import LogicalNet.Command.Arguments
import LogicalNet.Command.Process
import LogicalNet.Command.Remote
import LogicalNet.Command.Session
import LogicalNet.CommandLine
import LogicalNet.Document.Basic
import LogicalNet.Document.Choice
import LogicalNet.Document.Codec
import LogicalNet.Document.Format
import LogicalNet.Document.JsonReader
import LogicalNet.Document.JsonWriter
import LogicalNet.Document.Plain
import LogicalNet.Document.YamlReader
import LogicalNet.Document.YamlScalar
import LogicalNet.Document.YamlToken
import LogicalNet.Document.YamlWriter
import LogicalNet.Fault
import LogicalNet.Identifiers
import LogicalNet.Main
import LogicalNet.Names
import LogicalNet.Number.Binary64
import LogicalNet.Number.Shortest
import LogicalNet.Policy.Compiled
import LogicalNet.Policy.Match
import LogicalNet.Policy.Preset
import LogicalNet.Policy.RuleError
import LogicalNet.Policy.SecurityGroup
import LogicalNet.Proofs.Address.Alphabet
import LogicalNet.Proofs.Address.MacRoundTrip
import LogicalNet.Proofs.Address.RoundTrip
import LogicalNet.Proofs.Client.Aside
import LogicalNet.Proofs.Client.BalancerCalls
import LogicalNet.Proofs.Client.Bystanders
import LogicalNet.Proofs.Client.DhcpReferences
import LogicalNet.Proofs.Client.Ending
import LogicalNet.Proofs.Client.Footprints
import LogicalNet.Proofs.Client.GroupCalls
import LogicalNet.Proofs.Client.GroupRows
import LogicalNet.Proofs.Client.Grouping
import LogicalNet.Proofs.Client.Histories
import LogicalNet.Proofs.Client.Interfaces
import LogicalNet.Proofs.Client.Isolation
import LogicalNet.Proofs.Client.Issued
import LogicalNet.Proofs.Client.Journal
import LogicalNet.Proofs.Client.Labels
import LogicalNet.Proofs.Client.Listing
import LogicalNet.Proofs.Client.Membership
import LogicalNet.Proofs.Client.Outcomes
import LogicalNet.Proofs.Client.Reading
import LogicalNet.Proofs.Client.Regeneration
import LogicalNet.Proofs.Client.RouterCalls
import LogicalNet.Proofs.Client.Success
import LogicalNet.Proofs.Client.SwitchCalls
import LogicalNet.Proofs.Client.Transitions
import LogicalNet.Proofs.Column.Cells
import LogicalNet.Proofs.Command.ArgumentReader
import LogicalNet.Proofs.Outcome
import LogicalNet.Proofs.Policy.ExpressionText
import LogicalNet.Proofs.Policy.GroupPlans
import LogicalNet.Proofs.Policy.MatchMeaning
import LogicalNet.Proofs.Policy.Packet
import LogicalNet.Proofs.Policy.ProtocolClauses
import LogicalNet.Proofs.Policy.RulePackets
import LogicalNet.Proofs.Row.Change
import LogicalNet.Proofs.Row.ColumnKinds
import LogicalNet.Proofs.Row.Listings
import LogicalNet.Proofs.Row.References
import LogicalNet.Proofs.Store.Addition
import LogicalNet.Proofs.Store.CacheCoherence
import LogicalNet.Proofs.Store.CacheOverlap
import LogicalNet.Proofs.Store.CacheStaleness
import LogicalNet.Proofs.Store.CacheTransparency
import LogicalNet.Proofs.Store.Collection
import LogicalNet.Proofs.Store.Effects
import LogicalNet.Proofs.Store.Exactness
import LogicalNet.Proofs.Store.Ownership
import LogicalNet.Proofs.Store.Provenance
import LogicalNet.Proofs.Store.Removal
import LogicalNet.Proofs.Store.Representation
import LogicalNet.Proofs.Store.Sparing
import LogicalNet.Proofs.TextMap
import LogicalNet.Row.Access
import LogicalNet.Row.Basic
import LogicalNet.Row.Kinds
import LogicalNet.Row.Router
import LogicalNet.Row.Service
import LogicalNet.Row.Switch
import LogicalNet.Schema
import LogicalNet.Settings
import LogicalNet.Store.Basic
import LogicalNet.Store.Cache
import LogicalNet.Store.Database
import LogicalNet.Store.Memory
import LogicalNet.Store.Metered
import LogicalNet.Store.Tables
import LogicalNet.Tenant.DhcpConfig
import LogicalNet.Tenant.LoadBalancer
import LogicalNet.Tenant.Network
import LogicalNet.Tenant.Port
import LogicalNet.Text.Blank
import LogicalNet.Text.CaseRanges
import LogicalNet.Text.Escaped
import LogicalNet.Text.InvisibleRanges
import LogicalNet.Text.LetterCase
import LogicalNet.Text.Numeral
import LogicalNet.Text.Pieces
import LogicalNet.Text.Utf8
import LogicalNet.TextMap
import LogicalNet.Proofs.Policy.RulePartition
import LogicalNet.Proofs.Command.LoggedLink
import LogicalNet.Proofs.Command.Moments
import LogicalNet.Proofs.Policy.ClauseGrammar
import LogicalNet.Proofs.Command.Rendering
import LogicalNet.Proofs.Command.Connection
import LogicalNet.Proofs.Store.Frame
import LogicalNet.Proofs.Policy.Satisfiability
import LogicalNet.Proofs.Client.Deletions
import LogicalNet.Proofs.Store.Restoration
import LogicalNet.Proofs.Client.Creations
import LogicalNet.Proofs.Client.RoundTrips
import LogicalNet.Proofs.Address.MacGrammar
import LogicalNet.Proofs.Client.Backends
import LogicalNet.Proofs.Client.Cascades
import LogicalNet.Proofs.Client.Spellings
import LogicalNet.Proofs.Address.GeneratedMacs
import LogicalNet.Proofs.Command.Reconnection
import LogicalNet.Proofs.Command.RemoteForms
import LogicalNet.Proofs.Policy.AddressForms
import LogicalNet.Proofs.Store.SavedReads
import LogicalNet.Proofs.Client.SharedNames
import LogicalNet.Proofs.Identifiers
import LogicalNet.Proofs.Policy.PresetGroups
