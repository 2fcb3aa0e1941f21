import Telemetry.Cache
import Telemetry.Command.Arguments
import Telemetry.Command.Basic
import Telemetry.Command.Inputs
import Telemetry.Command.Run
import Telemetry.Command.Summary
import Telemetry.Command.Usage
import Telemetry.Credentials
import Telemetry.Database.Backend
import Telemetry.Database.Open
import Telemetry.Database.Reply
import Telemetry.Database.Stored
import Telemetry.Definition.Basic
import Telemetry.Definition.Check
import Telemetry.Definition.Set
import Telemetry.Definition.Source
import Telemetry.Definition.Store
import Telemetry.Error
import Telemetry.Exporter.Basic
import Telemetry.Exporter.Pages
import Telemetry.Exporter.Schedule
import Telemetry.Exposition
import Telemetry.Files
import Telemetry.Format.Json
import Telemetry.KeyMap
import Telemetry.Keyed
import Telemetry.Log.File
import Telemetry.Log.Record
import Telemetry.Log.Tail
import Telemetry.Main
import Telemetry.Meters
import Telemetry.Number.Binary64
import Telemetry.Number.Decimal
import Telemetry.Observation
import Telemetry.Plan
import Telemetry.Proofs.Cache
import Telemetry.Proofs.Command.Agreement
import Telemetry.Proofs.Command.AllowLists
import Telemetry.Proofs.Credentials
import Telemetry.Proofs.Database.Role
import Telemetry.Proofs.Definition.Acceptance
import Telemetry.Proofs.Definition.Changes
import Telemetry.Proofs.Definition.Collected
import Telemetry.Proofs.Definition.Freshness
import Telemetry.Proofs.Definition.Identity
import Telemetry.Proofs.Definition.Labels
import Telemetry.Proofs.Definition.Problems
import Telemetry.Proofs.Definition.Store
import Telemetry.Proofs.Exporter.Backoff
import Telemetry.Proofs.Exporter.Failures
import Telemetry.Proofs.Exporter.Journal
import Telemetry.Proofs.Exporter.Meters
import Telemetry.Proofs.Exporter.Monitor
import Telemetry.Proofs.Exporter.Separation
import Telemetry.Proofs.Exposition.Families
import Telemetry.Proofs.Exposition.Line
import Telemetry.Proofs.Exposition.Page
import Telemetry.Proofs.Exposition.Partition
import Telemetry.Proofs.Exposition.Rows
import Telemetry.Proofs.Files
import Telemetry.Proofs.Files.Apart
import Telemetry.Proofs.Format.Json
import Telemetry.Proofs.Format.Leftover
import Telemetry.Proofs.Log.Faults
import Telemetry.Proofs.Log.File
import Telemetry.Proofs.Log.Glued
import Telemetry.Proofs.Log.LastLine
import Telemetry.Proofs.Log.Record
import Telemetry.Proofs.Log.Redelivery
import Telemetry.Proofs.Log.Replication
import Telemetry.Proofs.Log.Resume
import Telemetry.Proofs.Log.Selection
import Telemetry.Proofs.Log.Tail
import Telemetry.Proofs.Log.Written
import Telemetry.Proofs.Number.Decimal
import Telemetry.Proofs.Number.Order
import Telemetry.Proofs.Number.Rounding
import Telemetry.Proofs.Number.Text
import Telemetry.Proofs.Outcome
import Telemetry.Proofs.Scrape.Buckets
import Telemetry.Proofs.Scrape.Conversion
import Telemetry.Proofs.Scrape.Series
import Telemetry.Proofs.Settings.Destinations
import Telemetry.Proofs.Settings.Keys
import Telemetry.Proofs.Settings.Sections
import Telemetry.Proofs.Target.Connection
import Telemetry.Proofs.Target.Health
import Telemetry.Proofs.Target.Isolation
import Telemetry.Proofs.Target.Journal
import Telemetry.Proofs.Target.Rotation
import Telemetry.Proofs.Target.Upkeep
import Telemetry.Proofs.Text.Blank
import Telemetry.Proofs.Text.Case
import Telemetry.Proofs.Text.Decoded
import Telemetry.Proofs.Text.Prefix
import Telemetry.Proofs.Text.Search
import Telemetry.Proofs.Text.Utf8
import Telemetry.Proofs.Tick.Accounting
import Telemetry.Proofs.Tick.Aggregate
import Telemetry.Proofs.Tick.Answers
import Telemetry.Proofs.Tick.Completion
import Telemetry.Proofs.Tick.Contribution
import Telemetry.Proofs.Tick.History
import Telemetry.Proofs.Tick.Independence
import Telemetry.Proofs.Tick.Labels
import Telemetry.Proofs.Tick.Meters
import Telemetry.Proofs.Tick.UpSamples
import Telemetry.Proofs.Time.Calendar
import Telemetry.Proofs.Time.Order
import Telemetry.Proofs.Time.Reading
import Telemetry.Proofs.Time.Spelling
import Telemetry.Proofs.Time.Timestamp
import Telemetry.Proofs.Url.Authority
import Telemetry.Proofs.Url.Domain
import Telemetry.Proofs.Url.Host
import Telemetry.Proofs.Url.Ipv4
import Telemetry.Proofs.Url.Ipv6
import Telemetry.Proofs.Url.Masked
import Telemetry.Proofs.Url.Normal
import Telemetry.Proofs.Url.Path
import Telemetry.Proofs.Url.Percent
import Telemetry.Proofs.Url.Reader
import Telemetry.Rehearsal
import Telemetry.Row
import Telemetry.Scrape
import Telemetry.Settings.Basic
import Telemetry.Settings.Check
import Telemetry.Settings.Layer
import Telemetry.Settings.Load
import Telemetry.Settings.Reader
import Telemetry.Target.Basic
import Telemetry.Target.Connection
import Telemetry.Target.Session
import Telemetry.Text.Blank
import Telemetry.Text.Case
import Telemetry.Text.CaseTable
import Telemetry.Text.Digits
import Telemetry.Text.HiddenTable
import Telemetry.Text.Quoted
import Telemetry.Text.Search
import Telemetry.Text.Similar
import Telemetry.Text.Utf8
import Telemetry.Tick
import Telemetry.Time.Calendar
import Telemetry.Time.Duration
import Telemetry.Time.Instant
import Telemetry.Time.Timestamp
import Telemetry.Toml.Basic
import Telemetry.Toml.Document
import Telemetry.Toml.Scalar
import Telemetry.Url.Basic
import Telemetry.Url.Host
import Telemetry.Url.Percent
import Telemetry.Url.Punycode
import Telemetry.Url.Reader
