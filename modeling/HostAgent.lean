import HostAgent.Account.Key
import HostAgent.Addresses
import HostAgent.Agent
import HostAgent.ApplyError
import HostAgent.Dispatch.Run
import HostAgent.Domain.Registry
import HostAgent.Event
import HostAgent.Fetch.Client
import HostAgent.Fetch.Error
import HostAgent.Fetch.Streak
import HostAgent.Main
import HostAgent.OverrideFile
import HostAgent.Overrides
import HostAgent.Program.Run
import HostAgent.Service.Control
import HostAgent.Settings
import HostAgent.Snapshot.Decode
import HostAgent.Text.Blank
import HostAgent.Text.Case
import HostAgent.Text.Quoted
import HostAgent.Text.Utf8
import HostAgent.Text.Word
import HostAgent.Proofs.Dispatch.Behaviour
import HostAgent.Proofs.Dispatch.Interleaving
import HostAgent.Proofs.Dispatch.Contract
import HostAgent.Proofs.Dispatch.Ownership
import HostAgent.Proofs.Host.Part
import HostAgent.Proofs.Account.Key
import HostAgent.Proofs.Watch.Loop
import HostAgent.Proofs.Watch.Convergence
import HostAgent.Proofs.Watch.OverrideChange
import HostAgent.Proofs.Watch.Script
import HostAgent.Proofs.Watch.Succession
import HostAgent.Proofs.Dispatch.Independence
import HostAgent.Proofs.Host.Order
import HostAgent.Proofs.Watch.Carriers
import HostAgent.Proofs.Watch.Course
import HostAgent.Proofs.Watch.Shutdown
import HostAgent.Proofs.Dispatch.Log
import HostAgent.Proofs.Fetch.Streak
import HostAgent.Proofs.Fetch.StreakLength
import HostAgent.Proofs.Watch.FailureReport
import HostAgent.Proofs.Host.Canonical
import HostAgent.Proofs.Text.Blank
import HostAgent.Proofs.Dispatch.Status
import HostAgent.Proofs.Host.Operations
import HostAgent.Proofs.Watch.Repetition
import HostAgent.Proofs.Watch.Relevance
import HostAgent.Proofs.Watch.Uploads
import HostAgent.Proofs.Dispatch.StatusLines
import HostAgent.Proofs.Text.Utf8
import HostAgent.Proofs.Fetch.Session
import HostAgent.Proofs.Watch.BrokenOverrides
import HostAgent.Proofs.Agent.Tasks
import HostAgent.Proofs.Agent.Executions
import HostAgent.Proofs.Agent.Lifecycle
import HostAgent.Proofs.Dispatch.Elapsed
import HostAgent.Proofs.File.Folder
import HostAgent.Proofs.Service.Commands
import HostAgent.Proofs.Service.Control
import HostAgent.Proofs.Account.Selection
import HostAgent.Proofs.Addresses
import HostAgent.Proofs.Overrides
import HostAgent.Proofs.Text.Reading
import HostAgent.Proofs.Cluster
import HostAgent.Proofs.Dispatch.Attempts
import HostAgent.Proofs.Host.Fields
import HostAgent.Proofs.Domain.Idempotence
import HostAgent.Proofs.Watch.Timeline
import HostAgent.Proofs.Text.Case
import HostAgent.Proofs.Dict
import HostAgent.Proofs.Overrides.LastEntry
import HostAgent.Proofs.Overrides.Equality
import HostAgent.Proofs.Ini.Cursor
import HostAgent.Proofs.Ini.Lines
import HostAgent.Proofs.Ini.Tables
import HostAgent.Proofs.Overrides.PlainFile
import HostAgent.Proofs.Snapshot
import HostAgent.Proofs.Account.Layout
import HostAgent.Proofs.Instant
import HostAgent.Proofs.Account.Publication
import HostAgent.Proofs.Account.Expiry
import HostAgent.Proofs.Fetch.Cause
import HostAgent.Proofs.Domain.Switches
import HostAgent.Proofs.Settings
import HostAgent.Proofs.Service.UnitWrite
