import CloudGate.Main
import CloudGate.Proofs.Fields
import CloudGate.Proofs.Filter
import CloudGate.Proofs.CommandLine.Call
import CloudGate.Proofs.Invocation.Screen
import CloudGate.Proofs.Invocation.Session
import CloudGate.Proofs.Rule.Resource
import CloudGate.Proofs.Rule.AddressTarget
import CloudGate.Proofs.Operation.Argument
import CloudGate.Proofs.Catalog.Duty
import CloudGate.Proofs.Catalog.Admission
import CloudGate.Proofs.Text.Percent
import CloudGate.Proofs.Text.ByteOrder
import CloudGate.Proofs.Text.Sigma
import CloudGate.Proofs.Tool.Schema
import CloudGate.Proofs.Tool.Registration
import CloudGate.Proofs.Request.Path
import CloudGate.Proofs.Request.Template
import CloudGate.Proofs.Tool.Numeral
import CloudGate.Proofs.Catalog.Dispatch
import CloudGate.Proofs.Audit.Event
import CloudGate.Proofs.Audit.Completeness
import CloudGate.Proofs.Audit.Redaction
import CloudGate.Proofs.Catalog.Texts
import CloudGate.Proofs.Operation.DomainRecord
import CloudGate.Proofs.Json.Skip
import CloudGate.Proofs.Operation.Grant
import CloudGate.Proofs.Operation.GrantText
import CloudGate.Proofs.Operation.GrantValue
import CloudGate.Proofs.Request.Grants
import CloudGate.Proofs.Operation.GrantEncoding
import CloudGate.Proofs.Invocation.Outcome
import CloudGate.Proofs.Invocation.Filtering
import CloudGate.Proofs.Invocation.Check
import CloudGate.Proofs.Gateway.Pages
import CloudGate.Proofs.Catalog.Secrecy
import CloudGate.Proofs.Invocation.Secrecy
import CloudGate.Proofs.Invocation.Spelling
import CloudGate.Proofs.Fields.Rearrangement
import CloudGate.Proofs.Request.Body
import CloudGate.Proofs.Catalog.Delivery
import CloudGate.Proofs.Catalog.DryRun
import CloudGate.Proofs.Net.Url
import CloudGate.Proofs.Net.Ipv4
import CloudGate.Proofs.Gateway.DryRun
import CloudGate.Proofs.Disk
import CloudGate.Proofs.Json.Written
import CloudGate.Proofs.Json.Numeral
import CloudGate.Proofs.Decimal.Rounding
import CloudGate.Proofs.Decimal.Scaled
import CloudGate.Proofs.Decimal.Shortest
import CloudGate.Proofs.Decimal.Reading
import CloudGate.Proofs.Json.Real
import CloudGate.Proofs.Json.ReadBack
import CloudGate.Proofs.Json.Agreement
import CloudGate.Proofs.Audit.Trail
import CloudGate.Proofs.Rule.DnsName
import CloudGate.Proofs.Rule.Word
import CloudGate.Proofs.Operation.Entry
import CloudGate.Proofs.Gate
import CloudGate.Proofs.Tool.Building
import CloudGate.Proofs.Toml.Ordered
import CloudGate.Proofs.Settings.Merging
import CloudGate.Proofs.Settings.Source
import CloudGate.Proofs.Settings.Load
import CloudGate.Proofs.Text.Shorten
import CloudGate.Proofs.Request.Identifier
import CloudGate.Proofs.Settings.Quoted
import CloudGate.Proofs.Settings.Word
import CloudGate.Proofs.Settings.Item
import CloudGate.Proofs.Settings.Token
