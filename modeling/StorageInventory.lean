import StorageInventory.Address
import StorageInventory.CommandLine.Choice
import StorageInventory.CommandLine.Help
import StorageInventory.CommandLine.Messages
import StorageInventory.CommandLine.Request
import StorageInventory.CommandLine.Run
import StorageInventory.Controller
import StorageInventory.Drive
import StorageInventory.Failure
import StorageInventory.FileTree.Basic
import StorageInventory.FileTree.Build
import StorageInventory.FileTree.Run
import StorageInventory.Health
import StorageInventory.Identifier
import StorageInventory.Inventory
import StorageInventory.Json.Basic
import StorageInventory.Json.Printer
import StorageInventory.Json.Reader
import StorageInventory.Json.Record
import StorageInventory.Kernel.Attribute
import StorageInventory.Kernel.DirectAttributes
import StorageInventory.Kernel.PciBus
import StorageInventory.Kernel.Topology
import StorageInventory.Listing
import StorageInventory.Logger
import StorageInventory.Main
import StorageInventory.Matching
import StorageInventory.MegaRaid
import StorageInventory.Number.Binary64
import StorageInventory.Number.Numeral
import StorageInventory.Pool
import StorageInventory.Proofs.Address.Agreement
import StorageInventory.Proofs.Address.Spellings
import StorageInventory.Proofs.FileTree.Extension
import StorageInventory.Proofs.FileTree.Paths
import StorageInventory.Proofs.FileTree.Reordering
import StorageInventory.Proofs.Health.BusErrors
import StorageInventory.Proofs.Health.Diagnosis
import StorageInventory.Proofs.Health.Resolved
import StorageInventory.Proofs.Health.Verdicts
import StorageInventory.Proofs.Identifier.Agreement
import StorageInventory.Proofs.Identifier.Spellings
import StorageInventory.Proofs.Json.Records
import StorageInventory.Proofs.Json.Tokens
import StorageInventory.Proofs.Json.Values
import StorageInventory.Proofs.Kernel.ClassEntries
import StorageInventory.Proofs.Kernel.DiskNames
import StorageInventory.Proofs.Kernel.ErrorCounts
import StorageInventory.Proofs.Kernel.ListingOrder
import StorageInventory.Proofs.Listing.Blocks
import StorageInventory.Proofs.Listing.Fields
import StorageInventory.Proofs.Listing.Firsts
import StorageInventory.Proofs.Matching.Conservation
import StorageInventory.Proofs.Matching.Later
import StorageInventory.Proofs.Matching.Order
import StorageInventory.Proofs.Matching.Stability
import StorageInventory.Proofs.Matching.Visits
import StorageInventory.Proofs.MegaRaid.Blocks
import StorageInventory.Proofs.MegaRaid.MediaErrors
import StorageInventory.Proofs.MegaRaid.Members
import StorageInventory.Proofs.MegaRaid.Uniqueness
import StorageInventory.Proofs.Number.Digits
import StorageInventory.Proofs.Number.Exact
import StorageInventory.Proofs.Number.Units
import StorageInventory.Proofs.Report.Document
import StorageInventory.Proofs.Report.Drives
import StorageInventory.Proofs.SasIr.Blocks
import StorageInventory.Proofs.SasIr.Display
import StorageInventory.Proofs.SasIr.DisplayBlocks
import StorageInventory.Proofs.SasIr.Places
import StorageInventory.Proofs.SasIr.RoundTrip
import StorageInventory.Proofs.Scan.Containment
import StorageInventory.Proofs.Scan.KernelView
import StorageInventory.Proofs.Scan.Outcome
import StorageInventory.Proofs.SmartArray.Blocks
import StorageInventory.Proofs.SmartArray.Drives
import StorageInventory.Proofs.SmartArray.Search
import StorageInventory.Proofs.Table.Layout
import StorageInventory.Proofs.Text.Lines
import StorageInventory.Proofs.Text.Search
import StorageInventory.Proofs.Timestamp.Zulu
import StorageInventory.Proofs.Trace.Outcomes
import StorageInventory.Proofs.Vendor.Battery
import StorageInventory.Proofs.Vendor.Binding
import StorageInventory.Proofs.Vendor.Commands
import StorageInventory.Proofs.Vendor.Outcome
import StorageInventory.Proofs.Vendor.Runs
import StorageInventory.Raid
import StorageInventory.Report.Diagnosis
import StorageInventory.Report.Document
import StorageInventory.Report.Drives
import StorageInventory.Report.Outline
import StorageInventory.SasIr
import StorageInventory.Scan
import StorageInventory.Settings
import StorageInventory.Settings.Document
import StorageInventory.Size
import StorageInventory.SmartArray
import StorageInventory.Snapshot
import StorageInventory.Table
import StorageInventory.Text.Blank
import StorageInventory.Text.Plain
import StorageInventory.Text.Quoted
import StorageInventory.Text.Search
import StorageInventory.Text.Shapeless
import StorageInventory.Text.Utf8
import StorageInventory.Timestamp
import StorageInventory.Tool
import StorageInventory.Trace
import StorageInventory.Vendor
import StorageInventory.Yaml.Cursor
import StorageInventory.Yaml.Document
import StorageInventory.Yaml.Node
import StorageInventory.Yaml.Scalar
import StorageInventory.Yaml.Token
