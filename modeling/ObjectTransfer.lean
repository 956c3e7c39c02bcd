import ObjectTransfer.Access.Grants
import ObjectTransfer.Access.Identity
import ObjectTransfer.Access.Permission
import ObjectTransfer.Collections.Dictionary
import ObjectTransfer.Collections.Headers
import ObjectTransfer.Collections.Table
import ObjectTransfer.Digest.Hmac
import ObjectTransfer.Digest.Sha256
import ObjectTransfer.Encoding.Base64Url
import ObjectTransfer.Encoding.Form
import ObjectTransfer.Encoding.Hex
import ObjectTransfer.Encoding.Percent
import ObjectTransfer.Encoding.Utf8
import ObjectTransfer.Exchange.Answer
import ObjectTransfer.Exchange.Batch
import ObjectTransfer.Exchange.Failure
import ObjectTransfer.Exchange.Objects
import ObjectTransfer.Exchange.Settings
import ObjectTransfer.Exchange.Transfer
import ObjectTransfer.Json.Fault
import ObjectTransfer.Json.Reader
import ObjectTransfer.Json.Value
import ObjectTransfer.Json.Writer
import ObjectTransfer.Link.Action
import ObjectTransfer.Link.BucketLinks
import ObjectTransfer.Link.Endpoints
import ObjectTransfer.Link.Hints
import ObjectTransfer.Number.Binary64
import ObjectTransfer.Number.Shortest
import ObjectTransfer.Proofs.Access.GrantHistory
import ObjectTransfer.Proofs.Access.SameGrants
import ObjectTransfer.Proofs.Access.Shadowing
import ObjectTransfer.Proofs.Control.Outcome
import ObjectTransfer.Proofs.Control.Settled
import ObjectTransfer.Proofs.Control.Stepping
import ObjectTransfer.Proofs.Encoding.Base64Url
import ObjectTransfer.Proofs.Encoding.Form
import ObjectTransfer.Proofs.Encoding.Percent
import ObjectTransfer.Proofs.Encoding.Utf8
import ObjectTransfer.Proofs.Exchange.Agreement
import ObjectTransfer.Proofs.Exchange.BatchAnswers
import ObjectTransfer.Proofs.Exchange.BatchStatus
import ObjectTransfer.Proofs.Exchange.BucketFaults
import ObjectTransfer.Proofs.Exchange.Capabilities
import ObjectTransfer.Proofs.Exchange.Completion
import ObjectTransfer.Proofs.Exchange.Confidentiality
import ObjectTransfer.Proofs.Exchange.ContentIntegrity
import ObjectTransfer.Proofs.Exchange.MemoryRequests
import ObjectTransfer.Proofs.Exchange.Messages
import ObjectTransfer.Proofs.Exchange.Observation
import ObjectTransfer.Proofs.Exchange.Presentations
import ObjectTransfer.Proofs.Exchange.ProperAnswers
import ObjectTransfer.Proofs.Exchange.Separation
import ObjectTransfer.Proofs.Exchange.ServerRuns
import ObjectTransfer.Proofs.Json.NumberRoundTrip
import ObjectTransfer.Proofs.Json.Reading
import ObjectTransfer.Proofs.Json.RoundTrip
import ObjectTransfer.Proofs.Json.TextRoundTrip
import ObjectTransfer.Proofs.Link.AddedItems
import ObjectTransfer.Proofs.Link.BucketPaths
import ObjectTransfer.Proofs.Link.CanonicalQuery
import ObjectTransfer.Proofs.Link.ConfinedEndpoints
import ObjectTransfer.Proofs.Link.DownloadQueries
import ObjectTransfer.Proofs.Link.ObjectPaths
import ObjectTransfer.Proofs.Link.QueryOrder
import ObjectTransfer.Proofs.Link.SignedQueries
import ObjectTransfer.Proofs.Link.SigningScheme
import ObjectTransfer.Proofs.Store.Addresses
import ObjectTransfer.Proofs.Store.BucketReplies
import ObjectTransfer.Proofs.Store.BucketRequests
import ObjectTransfer.Proofs.Store.ConfinedPaths
import ObjectTransfer.Proofs.Store.Directories
import ObjectTransfer.Proofs.Store.FailedUploads
import ObjectTransfer.Proofs.Store.FileEffects
import ObjectTransfer.Proofs.Store.FileRequests
import ObjectTransfer.Proofs.Store.Interchange
import ObjectTransfer.Proofs.Store.ObjectFiles
import ObjectTransfer.Proofs.Store.Reports
import ObjectTransfer.Proofs.Store.StoreRuns
import ObjectTransfer.Proofs.Store.StoredObjects
import ObjectTransfer.Proofs.Token.Acceptance
import ObjectTransfer.Proofs.Token.Claims
import ObjectTransfer.Proofs.Token.SignedHeaders
import ObjectTransfer.Proofs.Url.DividedPaths
import ObjectTransfer.Proofs.Url.DotSegments
import ObjectTransfer.Proofs.Url.EscapedPaths
import ObjectTransfer.Proofs.Url.HostTexts
import ObjectTransfer.Proofs.Url.PathText
import ObjectTransfer.Proofs.Url.Ports
import ObjectTransfer.Proofs.Url.PushedNames
import ObjectTransfer.Proofs.Url.QueryTexts
import ObjectTransfer.Proofs.Wire.TextualRoundTrip
import ObjectTransfer.Proofs.Wire.ValueRoundTrip
import ObjectTransfer.Store.Basic
import ObjectTransfer.Store.Bucket
import ObjectTransfer.Store.Content
import ObjectTransfer.Store.Failure
import ObjectTransfer.Store.FileTree
import ObjectTransfer.Store.Files
import ObjectTransfer.Store.Memory
import ObjectTransfer.Store.Registry
import ObjectTransfer.Store.Transport
import ObjectTransfer.Text.Ascii
import ObjectTransfer.Text.Blank
import ObjectTransfer.Text.Pieces
import ObjectTransfer.Text.Quoted
import ObjectTransfer.Text.Visible
import ObjectTransfer.Time.Calendar
import ObjectTransfer.Token.Authorizer
import ObjectTransfer.Token.Claims
import ObjectTransfer.Token.Failure
import ObjectTransfer.Token.Scope
import ObjectTransfer.Unicode.Composed
import ObjectTransfer.Unicode.Direction
import ObjectTransfer.Unicode.Joining
import ObjectTransfer.Unicode.Mapped
import ObjectTransfer.Unicode.Mark
import ObjectTransfer.Unicode.Span
import ObjectTransfer.Url.Address
import ObjectTransfer.Url.Basic
import ObjectTransfer.Url.Domain
import ObjectTransfer.Url.Fault
import ObjectTransfer.Url.Host
import ObjectTransfer.Url.Parse
import ObjectTransfer.Url.Path
import ObjectTransfer.Url.Punycode
import ObjectTransfer.Url.Scheme
import ObjectTransfer.Wire.OfJson
import ObjectTransfer.Wire.OfText
import ObjectTransfer.Wire.Shape
import ObjectTransfer.Wire.ToJson
