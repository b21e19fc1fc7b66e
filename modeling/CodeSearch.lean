import CodeSearch.Main
import CodeSearch.Proofs.FrontEnds
import CodeSearch.Proofs.Import
import CodeSearch.Proofs.Import.Expression
import CodeSearch.Proofs.Import.Resolution
import CodeSearch.Proofs.Import.Separation
import CodeSearch.Proofs.Outcome
import CodeSearch.Proofs.Path.Folding
import CodeSearch.Proofs.Query.Calls
import CodeSearch.Proofs.Query.Content
import CodeSearch.Proofs.Query.Denoting
import CodeSearch.Proofs.Query.Dependencies
import CodeSearch.Proofs.Query.Exclusion
import CodeSearch.Proofs.Query.Imports
import CodeSearch.Proofs.Query.Ledger
import CodeSearch.Proofs.Query.Listing
import CodeSearch.Proofs.Query.Matching
import CodeSearch.Proofs.Query.MissingRoot
import CodeSearch.Proofs.Query.Packages
import CodeSearch.Proofs.Query.Recent
import CodeSearch.Proofs.Query.Related
import CodeSearch.Proofs.Query.Spelling
import CodeSearch.Proofs.Query.Candidates
import CodeSearch.Proofs.Query.Styles
import CodeSearch.Proofs.Query.Targets
import CodeSearch.Proofs.Query.Tests
import CodeSearch.Proofs.Request.Arguments
import CodeSearch.Proofs.Request.RoundTrip
import CodeSearch.Proofs.Request.Schema
import CodeSearch.Proofs.Decimal.Rounding
import CodeSearch.Proofs.Decimal.Reading
import CodeSearch.Proofs.Decimal.Shortest
import CodeSearch.Proofs.Json.Doubles
import CodeSearch.Proofs.Json.Numbers
import CodeSearch.Proofs.Json.Legible
import CodeSearch.Proofs.Json.OneLine
import CodeSearch.Proofs.Json.Skipping
import CodeSearch.Proofs.Server.Lines
import CodeSearch.Proofs.Server.RequestId
import CodeSearch.Proofs.Server.Reply
import CodeSearch.Proofs.Server.Session
import CodeSearch.Proofs.Tree.LinkFree
import CodeSearch.Proofs.Walk.Switches
import CodeSearch.Proofs.CommandLine.ProjectRoot
import CodeSearch.Proofs.Toml.Grammar
import CodeSearch.Proofs.Toml.Strings
import CodeSearch.Proofs.Toml.Documents
import CodeSearch.Proofs.Config
