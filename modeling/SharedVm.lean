import SharedVm.Json.Read
import SharedVm.Journal.Draft
import SharedVm.Journal.Handlers
import SharedVm.Main
import SharedVm.Request.Draft
import SharedVm.Session
import SharedVm.Text.Line
import SharedVm.Proofs.Act
import SharedVm.Proofs.Disk.Operations
import SharedVm.Proofs.Decimal
import SharedVm.Proofs.Bindings
import SharedVm.Proofs.Environ
import SharedVm.Proofs.Json.Read
import SharedVm.Proofs.Journal.Draft
import SharedVm.Proofs.Journal.Handlers
import SharedVm.Proofs.Json.OneLine
import SharedVm.Proofs.Local
import SharedVm.Proofs.Request.Wire
import SharedVm.Proofs.Trace
import SharedVm.Proofs.Exchange
import SharedVm.Proofs.Relay
import SharedVm.Proofs.Reply
import SharedVm.Proofs.Launch.Delivery
import SharedVm.Proofs.Launch.Retry
import SharedVm.Proofs.Edges
import SharedVm.Proofs.Quiet
import SharedVm.Proofs.Disk.Lookup
import SharedVm.Proofs.LockFile
import SharedVm.Proofs.Election
import SharedVm.Proofs.Leading
import SharedVm.Proofs.Session.Perform
import SharedVm.Proofs.Session.Release
import SharedVm.Proofs.Session.Run
import SharedVm.Proofs.Session.Exclusion
import SharedVm.Proofs.Session.Rendezvous
import SharedVm.Proofs.Launch.Relays
import SharedVm.Proofs.Launch.Refusals
import SharedVm.Proofs.Launch.Sends
import SharedVm.Proofs.Disk.Reopen
import SharedVm.Proofs.Inspection
import SharedVm.Proofs.Session.Intact
import SharedVm.Proofs.Session.Prediction
import SharedVm.Proofs.Session.Names
import SharedVm.Proofs.Session.Command
import SharedVm.Proofs.Grows
import SharedVm.Proofs.Launch.Known
import SharedVm.Proofs.Session.Children
import SharedVm.Proofs.Alike
import SharedVm.Proofs.Twin
import SharedVm.Proofs.Launch.Twin
import SharedVm.Proofs.Launch.Secrecy
import SharedVm.Proofs.Launch.Unread
import SharedVm.Proofs.Session.Outcomes
import SharedVm.Proofs.Native
import SharedVm.Proofs.Ends
import SharedVm.Proofs.Ordinary
import SharedVm.Proofs.Candidate
import SharedVm.Proofs.Launch.Told
import SharedVm.Proofs.CommandLine
import SharedVm.Proofs.Disk.Way
import SharedVm.Proofs.Options
import SharedVm.Proofs.RelayPort
import SharedVm.Proofs.Session.Bridges
import SharedVm.Proofs.Disk.Footprint
import SharedVm.Proofs.Footprint
import SharedVm.Proofs.Session.Footprint
import SharedVm.Proofs.Text.Blank
import SharedVm.Proofs.RelayAddress
import SharedVm.Proofs.Candidacy
import SharedVm.Proofs.Session.Candidacy
import SharedVm.Proofs.Published
import SharedVm.Proofs.Following
import SharedVm.Proofs.Session.Contents
import SharedVm.Proofs.Request.Build
import SharedVm.Proofs.Classification
import SharedVm.Proofs.Guest
import SharedVm.Proofs.Publishing
import SharedVm.Proofs.Request.Flaws
import SharedVm.Proofs.Port
