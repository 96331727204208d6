import NetworkSite.Addressing.Delegation
import NetworkSite.Addressing.Error
import NetworkSite.Addressing.Hosts
import NetworkSite.Addressing.Plan
import NetworkSite.Addressing.Resolution
import NetworkSite.Addressing.Vlans
import NetworkSite.Addressing.Writing
import NetworkSite.Build.Compile
import NetworkSite.Build.Environment
import NetworkSite.Build.Plan
import NetworkSite.Build.Template
import NetworkSite.Build.Writing
import NetworkSite.BuildOrder.Dependency
import NetworkSite.BuildOrder.Schedule
import NetworkSite.Check
import NetworkSite.Check.Addresses
import NetworkSite.Check.Finding
import NetworkSite.Check.Hosts
import NetworkSite.Check.Interfaces
import NetworkSite.Check.Policy
import NetworkSite.Check.Subnets
import NetworkSite.Check.Switches
import NetworkSite.CommandLine.Arguments
import NetworkSite.CommandLine.Run
import NetworkSite.Data.Count
import NetworkSite.Data.Cycles
import NetworkSite.Data.Earlier
import NetworkSite.Data.Keyed
import NetworkSite.Data.SortedMap
import NetworkSite.Data.Walk
import NetworkSite.Document.Basic
import NetworkSite.Document.Decode
import NetworkSite.Document.Json
import NetworkSite.Document.Yaml
import NetworkSite.Document.Yaml.Cursor
import NetworkSite.Document.Yaml.Scalar
import NetworkSite.Document.Yaml.Token
import NetworkSite.Duration
import NetworkSite.Files.Change
import NetworkSite.Files.Location
import NetworkSite.Files.Name
import NetworkSite.Files.PlanDirectory
import NetworkSite.Files.SiteDirectory
import NetworkSite.Files.Tree
import NetworkSite.Firewall.Expansion
import NetworkSite.Firewall.Implied
import NetworkSite.Firewall.RuleText
import NetworkSite.Firewall.Service
import NetworkSite.Firewall.Tuple
import NetworkSite.Main
import NetworkSite.Net.Address
import NetworkSite.Net.AddressText
import NetworkSite.Net.Keystream
import NetworkSite.Net.Mac
import NetworkSite.Net.Network
import NetworkSite.Net.Pool
import NetworkSite.Net.Registry
import NetworkSite.Net.Reverse
import NetworkSite.Net.Words
import NetworkSite.Proofs.AddressTexts
import NetworkSite.Proofs.Agreement
import NetworkSite.Proofs.AliasRecords
import NetworkSite.Proofs.AliasTargets
import NetworkSite.Proofs.BuildCycles
import NetworkSite.Proofs.BuildStages
import NetworkSite.Proofs.Carving
import NetworkSite.Proofs.Changes
import NetworkSite.Proofs.Claims
import NetworkSite.Proofs.Clearing
import NetworkSite.Proofs.Compilation
import NetworkSite.Proofs.CompiledFiles
import NetworkSite.Proofs.Coverage
import NetworkSite.Proofs.Decoders
import NetworkSite.Proofs.Deduplication
import NetworkSite.Proofs.Dependencies
import NetworkSite.Proofs.DhcpClients
import NetworkSite.Proofs.DhcpSettings
import NetworkSite.Proofs.Emission
import NetworkSite.Proofs.EmittedFiles
import NetworkSite.Proofs.EmptyRules
import NetworkSite.Proofs.EndpointNames
import NetworkSite.Proofs.Entries
import NetworkSite.Proofs.Exhaustion
import NetworkSite.Proofs.Expansions
import NetworkSite.Proofs.FamilyLines
import NetworkSite.Proofs.FileNames
import NetworkSite.Proofs.FileTrees
import NetworkSite.Proofs.FindingKinds
import NetworkSite.Proofs.FirewallZones
import NetworkSite.Proofs.ForwardTargets
import NetworkSite.Proofs.Gateways
import NetworkSite.Proofs.Holders
import NetworkSite.Proofs.HostRules
import NetworkSite.Proofs.HostVariables
import NetworkSite.Proofs.Hosting
import NetworkSite.Proofs.HostingCycles
import NetworkSite.Proofs.ImpliedRules
import NetworkSite.Proofs.ImpliedTuples
import NetworkSite.Proofs.Indices
import NetworkSite.Proofs.InterfaceNames
import NetworkSite.Proofs.JsonTexts
import NetworkSite.Proofs.Leases
import NetworkSite.Proofs.LineBreaks
import NetworkSite.Proofs.ListFields
import NetworkSite.Proofs.Locations
import NetworkSite.Proofs.LocatorZones
import NetworkSite.Proofs.Locators
import NetworkSite.Proofs.Lookups
import NetworkSite.Proofs.MacTexts
import NetworkSite.Proofs.NameServers
import NetworkSite.Proofs.NamedHosts
import NetworkSite.Proofs.Names
import NetworkSite.Proofs.NetworkArithmetic
import NetworkSite.Proofs.NetworkTexts
import NetworkSite.Proofs.Networks
import NetworkSite.Proofs.Outlines
import NetworkSite.Proofs.Overlaps
import NetworkSite.Proofs.OwnNames
import NetworkSite.Proofs.Parts
import NetworkSite.Proofs.Placement
import NetworkSite.Proofs.PlanTexts
import NetworkSite.Proofs.PlannedHosts
import NetworkSite.Proofs.PlannedInterfaces
import NetworkSite.Proofs.PoolRanges
import NetworkSite.Proofs.Pools
import NetworkSite.Proofs.PortTexts
import NetworkSite.Proofs.PublishedAddresses
import NetworkSite.Proofs.PublishedAliases
import NetworkSite.Proofs.ReadBack
import NetworkSite.Proofs.RecordNames
import NetworkSite.Proofs.References
import NetworkSite.Proofs.Registrations
import NetworkSite.Proofs.Rendering
import NetworkSite.Proofs.ReverseNames
import NetworkSite.Proofs.Rewriting
import NetworkSite.Proofs.RoleVariables
import NetworkSite.Proofs.RuleAddresses
import NetworkSite.Proofs.RuleComments
import NetworkSite.Proofs.RuleLines
import NetworkSite.Proofs.RuleOrder
import NetworkSite.Proofs.Runs
import NetworkSite.Proofs.Separation
import NetworkSite.Proofs.Shares
import NetworkSite.Proofs.Substitution
import NetworkSite.Proofs.SymbolicShares
import NetworkSite.Proofs.Validity
import NetworkSite.Proofs.WaitingLists
import NetworkSite.Proofs.WrittenPlans
import NetworkSite.Records.Dhcp
import NetworkSite.Records.Dns
import NetworkSite.Records.Writing
import NetworkSite.Site.Basic
import NetworkSite.Site.Host
import NetworkSite.Site.Policy
import NetworkSite.Site.Reading
import NetworkSite.Site.Role
import NetworkSite.Site.Vlan
import NetworkSite.Site.Writing
import NetworkSite.Text.Blank
import NetworkSite.Text.Case
import NetworkSite.Text.Label
import NetworkSite.Text.Numeral
import NetworkSite.Text.Quoted
import NetworkSite.Text.Split
