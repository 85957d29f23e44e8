import PackageSearch.Configuration.Load
import PackageSearch.Proofs.Cache.Calls
import PackageSearch.Proofs.Cache.Insertion
import PackageSearch.Proofs.Http.Head
import PackageSearch.Server.Connection
import PackageSearch.Server.NixWorld
import PackageSearch.Server.Step
import PackageSearch.Proofs.Server.Move
import PackageSearch.Proofs.Server.Invariant
import PackageSearch.Proofs.Server.Chronicle
import PackageSearch.Proofs.Server.Standing
import PackageSearch.Proofs.Server.Course
import PackageSearch.Proofs.Server.Search
import PackageSearch.Proofs.Server.Clear
import PackageSearch.Proofs.Server.Reset
import PackageSearch.Proofs.Server.Contents
import PackageSearch.Proofs.Server.Effects
import PackageSearch.Proofs.Server.Conduct
import PackageSearch.Proofs.Server.Completion
import PackageSearch.Proofs.Server.Failure
import PackageSearch.Proofs.Server.Freshness
import PackageSearch.Proofs.Server.Gate
import PackageSearch.Proofs.Server.Staleness
import PackageSearch.Proofs.Server.Drain
import PackageSearch.Proofs.Server.SingleFlight
import PackageSearch.Proofs.Server.Schedule
import PackageSearch.Proofs.Server.Sequel
import PackageSearch.Proofs.Server.Restart
import PackageSearch.Proofs.Server.Requests
import PackageSearch.Proofs.Server.Independence
import PackageSearch.Proofs.Installed.Answers
import PackageSearch.Proofs.Server.Patience
import PackageSearch.Proofs.Server.Detection
import PackageSearch.Proofs.Server.Refresh
import PackageSearch.Proofs.Server.Fallback
import PackageSearch.Proofs.Http.Reception
import PackageSearch.Proofs.Text.Colour
import PackageSearch.Proofs.Text.Utf8
import PackageSearch.Proofs.Text.Blank
import PackageSearch.Proofs.Text.Lines
import PackageSearch.Proofs.Installed.ProfileList
import PackageSearch.Proofs.Installed.Match
import PackageSearch.Proofs.Installed.Recognition
import PackageSearch.Proofs.Cache.Size
import PackageSearch.Proofs.Json.Controls
import PackageSearch.Proofs.Http.Message
import PackageSearch.Proofs.Http.Form
import PackageSearch.Proofs.Http.Request
import PackageSearch.Proofs.Members
import PackageSearch.Proofs.Json.Numeral
import PackageSearch.Proofs.Json.RoundTrip
import PackageSearch.Proofs.Package.Listing
import PackageSearch.Proofs.Package.Metadata
import PackageSearch.Proofs.Search.Records
import PackageSearch.Proofs.Search.Description
import PackageSearch.Proofs.Text.Excerpt
import PackageSearch.Proofs.Search.Query
import PackageSearch.Proofs.Text.Order
import PackageSearch.Proofs.Server.Debug
import PackageSearch.Proofs.Server.Sample
import PackageSearch.Proofs.Clock.Calendar
import PackageSearch.Proofs.Clock.Timestamp
import PackageSearch.Proofs.Server.Capture
import PackageSearch.Proofs.Toml.Quoted
import PackageSearch.Proofs.Toml.Numeral
import PackageSearch.Proofs.Toml.Document
import PackageSearch.Proofs.Configuration.Fields
import PackageSearch.Proofs.Configuration.Load
