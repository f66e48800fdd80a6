import SiteSearch.Schema
import SiteSearch.Error
import SiteSearch.Node
import SiteSearch.Store
import SiteSearch.Snapshot
import SiteSearch.Text.CaseTable
import SiteSearch.Text.Lowercase
import SiteSearch.Text.Basic
import SiteSearch.Matching
import SiteSearch.Weights
import SiteSearch.Ranking
import SiteSearch.Session
import SiteSearch.Stepwise
import SiteSearch.Metrics
import SiteSearch.Digest.Canonical
import SiteSearch.Digest.Hash
import SiteSearch.Text.Utf8
import SiteSearch.Json.Value
import SiteSearch.Json.Magnitude
import SiteSearch.Json.Token
import SiteSearch.Json.Reading
import SiteSearch.Json.Typed
import SiteSearch.Dictionary
import SiteSearch.Wire.Basic
import SiteSearch.Wire.Snapshot
import SiteSearch.Wire.Weights
import SiteSearch.Wire.Status
import SiteSearch.Wire.Search
import SiteSearch.Toml.Scalar
import SiteSearch.Toml.Token
import SiteSearch.Toml.Table
import SiteSearch.Toml.Document
import SiteSearch.Config.Basic
import SiteSearch.Config.Source
import SiteSearch.Wire.Config
import SiteSearch.Http.Message
import SiteSearch.Http.Percent
import SiteSearch.Http.MediaType
import SiteSearch.Http.Origin
import SiteSearch.Http.Credentials
import SiteSearch.Http.Route
import SiteSearch.Http.Service
import SiteSearch.Text.Quoted
import SiteSearch.Command.Arguments
import SiteSearch.Command.Files
import SiteSearch.Command.Listening
import SiteSearch.Command.Output
import SiteSearch.Command.Run
import SiteSearch.Main
import SiteSearch.Http.Shared
import SiteSearch.Proofs.Ranking.TableFit
import SiteSearch.Proofs.Store.Content
import SiteSearch.Proofs.Ranking.Passes
import SiteSearch.Proofs.Ranking.Ranked
import SiteSearch.Proofs.Ranking.Scores
import SiteSearch.Proofs.Session.Outcome
import SiteSearch.Proofs.Session.Refusals
import SiteSearch.Proofs.Digest.Content
import SiteSearch.Proofs.Store.Delivered
import SiteSearch.Proofs.Store.Records
import SiteSearch.Proofs.Http.Layers
import SiteSearch.Proofs.Session.Moves
import SiteSearch.Proofs.Http.Sharing
import SiteSearch.Proofs.Http.Answers
import SiteSearch.Proofs.Selection
import SiteSearch.Proofs.Http.Keyless
import SiteSearch.Proofs.Ranking.Counts
import SiteSearch.Proofs.Ranking.Narrowing
import SiteSearch.Proofs.Ranking.Links
import SiteSearch.Proofs.Text.Written
import SiteSearch.Proofs.Json.Tokens
import SiteSearch.Proofs.Json.Reading
import SiteSearch.Proofs.Http.Percent
import SiteSearch.Proofs.Json.Typed
import SiteSearch.Proofs.Json.Spread
import SiteSearch.Proofs.Json.Parts
import SiteSearch.Proofs.Json.Meaning
import SiteSearch.Proofs.Dictionary
import SiteSearch.Proofs.Wire.Stored
import SiteSearch.Proofs.Wire.Counted
import SiteSearch.Proofs.Wire.Shown
import SiteSearch.Proofs.Wire.Formats
import SiteSearch.Proofs.Http.Asking
import SiteSearch.Proofs.Command.Searching
import SiteSearch.Proofs.Ranking.Frame
import SiteSearch.Proofs.Http.Limit
import SiteSearch.Proofs.Http.Passage
import SiteSearch.Proofs.Http.Permits
import SiteSearch.Proofs.Command.Validation
import SiteSearch.Proofs.Config.Overlay
import SiteSearch.Proofs.Config.Reported
import SiteSearch.Proofs.Http.Replies
import SiteSearch.Proofs.Json.Extent
import SiteSearch.Proofs.Ranking.Bounds
import SiteSearch.Proofs.Session.Calls
import SiteSearch.Proofs.Store.Operations
import SiteSearch.Proofs.Node
import SiteSearch.Proofs.Digest.Fold
import SiteSearch.Proofs.Digest.Edits
import SiteSearch.Proofs.Http.Origins
import SiteSearch.Proofs.Http.Keyed
import SiteSearch.Proofs.Text.Lowering
import SiteSearch.Proofs.Text.Growth
import SiteSearch.Proofs.Session.Pieces
import SiteSearch.Proofs.Session.Again
import SiteSearch.Proofs.Config.Sections
