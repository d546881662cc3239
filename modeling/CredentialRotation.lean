import CredentialRotation.Backoff.Fibonacci
import CredentialRotation.Backoff.Table
import CredentialRotation.Cluster.Client
import CredentialRotation.Cluster.Exchange
import CredentialRotation.Command.Basic
import CredentialRotation.Command.Description
import CredentialRotation.Command.Line
import CredentialRotation.Command.Listing
import CredentialRotation.Cycle
import CredentialRotation.Definition.Resource
import CredentialRotation.Definition.Schema
import CredentialRotation.Definition.Yaml
import CredentialRotation.Due
import CredentialRotation.Event
import CredentialRotation.Failure
import CredentialRotation.FollowUp
import CredentialRotation.Interval.Reading
import CredentialRotation.Interval.Segment
import CredentialRotation.Json.Basic
import CredentialRotation.Json.Merge
import CredentialRotation.Json.Printer
import CredentialRotation.Json.Reader
import CredentialRotation.Json.Record
import CredentialRotation.Log.Filter
import CredentialRotation.Log.Watch
import CredentialRotation.Main
import CredentialRotation.Metrics.Page
import CredentialRotation.Metrics.Sample
import CredentialRotation.Operator
import CredentialRotation.Password.Alphabet
import CredentialRotation.Password.Drawing
import CredentialRotation.Password.Entropy
import CredentialRotation.Policy
import CredentialRotation.Probe
import CredentialRotation.Proofs.Course.Cycle
import CredentialRotation.Proofs.Course.Echo
import CredentialRotation.Proofs.Course.Event
import CredentialRotation.Proofs.Course.Kept
import CredentialRotation.Proofs.Course.Scheduled
import CredentialRotation.Proofs.Course.Stuck
import CredentialRotation.Proofs.Gate
import CredentialRotation.Proofs.Interval.Fraction
import CredentialRotation.Proofs.Interval.Grammar
import CredentialRotation.Proofs.Interval.Overflow
import CredentialRotation.Proofs.Interval.Search
import CredentialRotation.Proofs.Interval.Stuck
import CredentialRotation.Proofs.Interval.Sum
import CredentialRotation.Proofs.Password.Drawing
import CredentialRotation.Proofs.Retry
import CredentialRotation.Proofs.Time.Order
import CredentialRotation.Proofs.Time.Stamp
import CredentialRotation.Reconcile
import CredentialRotation.Record.Basic
import CredentialRotation.Record.Sink
import CredentialRotation.Resource.Basic
import CredentialRotation.Resource.Document
import CredentialRotation.Resource.Schedule
import CredentialRotation.Settings.Controller
import CredentialRotation.Settings.Environment
import CredentialRotation.Settings.Server
import CredentialRotation.Settings.Vault
import CredentialRotation.Store.Basic
import CredentialRotation.Store.Memory
import CredentialRotation.Target
import CredentialRotation.Text.Blank
import CredentialRotation.Text.Bytes
import CredentialRotation.Text.Composition
import CredentialRotation.Text.Digit
import CredentialRotation.Text.Direction
import CredentialRotation.Text.Joining
import CredentialRotation.Text.Lowercase
import CredentialRotation.Text.Mark
import CredentialRotation.Text.Printable
import CredentialRotation.Text.Punycode
import CredentialRotation.Text.Quoted
import CredentialRotation.Text.Ranges
import CredentialRotation.Text.Search
import CredentialRotation.Text.Split
import CredentialRotation.Text.Utf8
import CredentialRotation.Time.Calendar
import CredentialRotation.Time.Instant
import CredentialRotation.Time.Span
import CredentialRotation.Time.Stamp
import CredentialRotation.Trigger
import CredentialRotation.Url.Basic
import CredentialRotation.Url.Folding
import CredentialRotation.Url.Host
import CredentialRotation.Url.Ipv4
import CredentialRotation.Url.Ipv6
import CredentialRotation.Url.Name
import CredentialRotation.Url.Path
import CredentialRotation.Url.Percent
import CredentialRotation.Vault.Host
import CredentialRotation.Vault.Store
import CredentialRotation.Word
import CredentialRotation.Proofs.Life.Acknowledged
import CredentialRotation.Proofs.Life.Basic
import CredentialRotation.Proofs.Life.Spacing
import CredentialRotation.Proofs.Life.Change
import CredentialRotation.Proofs.Life.Request
import CredentialRotation.Proofs.Account
import CredentialRotation.Proofs.Advance
import CredentialRotation.Proofs.Backoff.Calls
import CredentialRotation.Proofs.Patch
import CredentialRotation.Proofs.Decision
import CredentialRotation.Proofs.Interval.Value
import CredentialRotation.Proofs.Secrecy.Event
import CredentialRotation.Proofs.Secrecy.Fleet
import CredentialRotation.Proofs.Vault.Diary
import CredentialRotation.Proofs.Vault.Call
import CredentialRotation.Proofs.Vault.Shown
import CredentialRotation.Proofs.Vault.Token
import CredentialRotation.Proofs.Backoff.Growth
import CredentialRotation.Proofs.Waiting
import CredentialRotation.Proofs.Transition
import CredentialRotation.Proofs.Password.Uniform
import CredentialRotation.Proofs.Metrics.Deed
import CredentialRotation.Proofs.Metrics.Reason
import CredentialRotation.Proofs.Metrics.Totals
import CredentialRotation.Proofs.Interval.Concatenation
import CredentialRotation.Proofs.Command.Steering
import CredentialRotation.Proofs.Log.Watch
import CredentialRotation.Proofs.Text.Words
import CredentialRotation.Proofs.Text.Truncation
import CredentialRotation.Proofs.Vault.Quotation
