import AdAdmission.Candidate
import AdAdmission.Candidate.Record
import AdAdmission.Chain
import AdAdmission.Delivery
import AdAdmission.Event
import AdAdmission.Event.Record
import AdAdmission.History
import AdAdmission.Json.Basic
import AdAdmission.Json.Printer
import AdAdmission.Json.Reader
import AdAdmission.Kind
import AdAdmission.Log
import AdAdmission.Notice
import AdAdmission.Proofs.Candidate.Record
import AdAdmission.Proofs.Candidate.Validation
import AdAdmission.Proofs.Delivery.Account
import AdAdmission.Proofs.Delivery.Answers
import AdAdmission.Proofs.Delivery.Audit
import AdAdmission.Proofs.Delivery.Caps
import AdAdmission.Proofs.Delivery.Clearing
import AdAdmission.Proofs.Delivery.Conversion
import AdAdmission.Proofs.Delivery.Counting
import AdAdmission.Proofs.Delivery.Disclosure
import AdAdmission.Proofs.Delivery.Exchanges
import AdAdmission.Proofs.Delivery.Intervals
import AdAdmission.Proofs.Delivery.Lockstep
import AdAdmission.Proofs.Delivery.Steps
import AdAdmission.Proofs.Event.Record
import AdAdmission.Proofs.History.Index
import AdAdmission.Proofs.History.Latest
import AdAdmission.Proofs.History.Positions
import AdAdmission.Proofs.Json.RoundTrip
import AdAdmission.Proofs.List.First
import AdAdmission.Proofs.List.Ordered
import AdAdmission.Proofs.Log.Chronology
import AdAdmission.Proofs.Log.Corruption
import AdAdmission.Proofs.Log.Freshness
import AdAdmission.Proofs.Log.Keys
import AdAdmission.Proofs.Log.Numbers
import AdAdmission.Proofs.Log.Opening
import AdAdmission.Proofs.Log.Queries
import AdAdmission.Proofs.Log.Reading
import AdAdmission.Proofs.Log.Recovery
import AdAdmission.Proofs.Log.Run
import AdAdmission.Proofs.Rule.Decision
import AdAdmission.Proofs.Rule.Dependence
import AdAdmission.Proofs.Rule.Meaning
import AdAdmission.Proofs.Rule.Monotone
import AdAdmission.Proofs.Rule.Record
import AdAdmission.Proofs.Rule.Verdict
import AdAdmission.Proofs.RuleSet.Document
import AdAdmission.Proofs.RuleSet.Validation
import AdAdmission.Proofs.Signal.Category
import AdAdmission.Proofs.Store.Calls
import AdAdmission.Proofs.Store.Scan
import AdAdmission.Proofs.Text.Digits
import AdAdmission.Proofs.Text.Utf8
import AdAdmission.Proofs.Time.Calendar
import AdAdmission.Proofs.Time.Order
import AdAdmission.Proofs.Time.Stamp
import AdAdmission.Proofs.Time.Window
import AdAdmission.Proofs.Value.Fields
import AdAdmission.Rule
import AdAdmission.Rule.Record
import AdAdmission.RuleSet
import AdAdmission.RuleSet.Document
import AdAdmission.RuleSet.YamlDocument
import AdAdmission.Segment
import AdAdmission.Signal
import AdAdmission.Store
import AdAdmission.Text.Blank
import AdAdmission.Text.Digits
import AdAdmission.Text.Utf8
import AdAdmission.Time.Calendar
import AdAdmission.Time.Instant
import AdAdmission.Time.Stamp
import AdAdmission.Unicode.Composition
import AdAdmission.Unicode.Direction
import AdAdmission.Unicode.Joining
import AdAdmission.Unicode.Mark
import AdAdmission.Unicode.Table
import AdAdmission.Url.Address
import AdAdmission.Url.Domain
import AdAdmission.Url.DomainMapping
import AdAdmission.Url.Parse
import AdAdmission.Url.Punycode
import AdAdmission.Value
import AdAdmission.Yaml.Cell
import AdAdmission.Yaml.Document
import AdAdmission.Yaml.Layout
import AdAdmission.Yaml.Node
import AdAdmission.Yaml.Scalar.Block
import AdAdmission.Yaml.Scalar.Folding
import AdAdmission.Yaml.Scalar.Meaning
import AdAdmission.Yaml.Scalar.Plain
import AdAdmission.Yaml.Scalar.Quoted
import AdAdmission.Yaml.Token
