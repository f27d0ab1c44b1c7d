import SandboxNet.CommandLine.Command
import SandboxNet.CommandLine.Grammar
import SandboxNet.CommandLine.Session
import SandboxNet.Duplex
import SandboxNet.Error
import SandboxNet.File
import SandboxNet.Host.Kernel
import SandboxNet.Host.Tool
import SandboxNet.Interface
import SandboxNet.Ipv4
import SandboxNet.Kernel.Call
import SandboxNet.Kernel.Faults
import SandboxNet.Kernel.Program
import SandboxNet.Kernel.Run
import SandboxNet.Link
import SandboxNet.Log
import SandboxNet.Main
import SandboxNet.Masquerade
import SandboxNet.NameMap
import SandboxNet.NatRule
import SandboxNet.Netns.Basic
import SandboxNet.Netns.Kernel
import SandboxNet.Netns.Sweep
import SandboxNet.Plan
import SandboxNet.Proofs.Duplex
import SandboxNet.Proofs.Kernel.Always
import SandboxNet.Proofs.Kernel.Asking
import SandboxNet.Proofs.Kernel.FailStop
import SandboxNet.Proofs.Kernel.Guarded
import SandboxNet.Proofs.Kernel.States
import SandboxNet.Proofs.Kernel.Trace
import SandboxNet.Proofs.Masquerade
import SandboxNet.Proofs.NameMap
import SandboxNet.Proofs.Netns.Answers
import SandboxNet.Proofs.Netns.Calls
import SandboxNet.Proofs.Netns.Changes
import SandboxNet.Proofs.Netns.Record
import SandboxNet.Proofs.Netns.Steps
import SandboxNet.Proofs.Netns.Sweep
import SandboxNet.Proofs.Sandbox.BestEffort
import SandboxNet.Proofs.Sandbox.Calls
import SandboxNet.Proofs.Sandbox.Cleanup
import SandboxNet.Proofs.Sandbox.Commuting
import SandboxNet.Proofs.Sandbox.FirstFailure
import SandboxNet.Proofs.Sandbox.Isolation
import SandboxNet.Proofs.Sandbox.Occupied
import SandboxNet.Proofs.Sandbox.Ordering
import SandboxNet.Proofs.Sandbox.Race
import SandboxNet.Proofs.Sandbox.Reclaim
import SandboxNet.Proofs.Sandbox.Rounds
import SandboxNet.Proofs.Sandbox.RuleTable
import SandboxNet.Proofs.Sandbox.Session
import SandboxNet.Proofs.Sandbox.Setup
import SandboxNet.Proofs.Sandbox.SetupCalls
import SandboxNet.Proofs.Sandbox.SharedIngress
import SandboxNet.Proofs.Sandbox.Wire
import SandboxNet.Proofs.Uplink
import SandboxNet.Route
import SandboxNet.Sandbox.Cleanup
import SandboxNet.Sandbox.Setup
import SandboxNet.Scheme
import SandboxNet.Settings.Basic
import SandboxNet.Settings.Load
import SandboxNet.Tap
import SandboxNet.TapIndex
import SandboxNet.Tc.Filter
import SandboxNet.Tc.FilterListing
import SandboxNet.Tc.Handle
import SandboxNet.Tc.Qdisc
import SandboxNet.Tc.QdiscListing
import SandboxNet.Text.Blank
import SandboxNet.Text.JsonText
import SandboxNet.Text.Lines
import SandboxNet.Text.Number
import SandboxNet.Text.Printable
import SandboxNet.Text.Quoted
import SandboxNet.Text.Utf8
import SandboxNet.Toml.Document
import SandboxNet.Toml.Quotation
import SandboxNet.Toml.Reader
import SandboxNet.Toml.Scalar
import SandboxNet.Toml.Value
import SandboxNet.Uplink
import SandboxNet.Proofs.Kernel.Together
import SandboxNet.Proofs.Sandbox.Schemes
import SandboxNet.Proofs.Host.Replies
import SandboxNet.Proofs.Host.Turns
import SandboxNet.Proofs.Host.Joining
import SandboxNet.Proofs.Netns.Handles
import SandboxNet.Proofs.Settings
import SandboxNet.Proofs.Netns.Representation
import SandboxNet.Proofs.Netns.Attachment
import SandboxNet.Proofs.Netns.Locality
import SandboxNet.Proofs.Redirects
import SandboxNet.Proofs.Clearing
import SandboxNet.Proofs.Reinstallation
import SandboxNet.Proofs.Text.Lines
import SandboxNet.Proofs.Text.Number
import SandboxNet.Proofs.Tc.Handle
import SandboxNet.Proofs.Tc.QdiscListing
import SandboxNet.Proofs.Tc.FilterListing
import SandboxNet.Proofs.Tc.Attribution
import SandboxNet.Proofs.Text.Numeral
import SandboxNet.Proofs.Text.Words
import SandboxNet.Proofs.Ipv4
import SandboxNet.Proofs.Route
import SandboxNet.Proofs.Plan
import SandboxNet.Proofs.TapIndex
import SandboxNet.Proofs.Dismantling
import SandboxNet.Proofs.Host.Complaints
import SandboxNet.Proofs.Host.Deletions
import SandboxNet.Proofs.Host.Rules
import SandboxNet.Proofs.Netns.Subtree
