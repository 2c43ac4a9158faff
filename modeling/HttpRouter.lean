import HttpRouter.Blueprint.Basic
import HttpRouter.Proofs.Blueprint.Accounting
import HttpRouter.Proofs.Blueprint.Fallbacks
import HttpRouter.Proofs.Blueprint.Flat
import HttpRouter.Proofs.Blueprint.References
import HttpRouter.Proofs.Blueprint.Resource
import HttpRouter.Proofs.Controllers.History
import HttpRouter.Proofs.Controllers.References
import HttpRouter.Proofs.Controllers.Registering
import HttpRouter.Proofs.Expression.Confinement
import HttpRouter.Proofs.Expression.Continuation.Bracket
import HttpRouter.Proofs.Expression.Continuation.Escape
import HttpRouter.Proofs.Expression.Continuation.Flags
import HttpRouter.Proofs.Expression.Continuation.Progress
import HttpRouter.Proofs.Expression.Continuation.Token
import HttpRouter.Proofs.Expression.Embedding
import HttpRouter.Proofs.Expression.Footprint
import HttpRouter.Proofs.Expression.Layout
import HttpRouter.Proofs.Expression.Naming
import HttpRouter.Proofs.Expression.Reading
import HttpRouter.Proofs.Expression.Renumbering
import HttpRouter.Proofs.Expression.Running
import HttpRouter.Proofs.Expression.Search
import HttpRouter.Proofs.Expression.Spans
import HttpRouter.Proofs.Expression.Steps
import HttpRouter.Proofs.Expression.Takes
import HttpRouter.Proofs.Http.Building
import HttpRouter.Proofs.Http.ErrorBody
import HttpRouter.Proofs.Http.Locations
import HttpRouter.Proofs.Json.Strings
import HttpRouter.Proofs.Path.Accepting
import HttpRouter.Proofs.Path.Anchoring
import HttpRouter.Proofs.Path.Cuts
import HttpRouter.Proofs.Path.Defects
import HttpRouter.Proofs.Path.Draft
import HttpRouter.Proofs.Path.Integers
import HttpRouter.Proofs.Path.Mapping
import HttpRouter.Proofs.Path.Order
import HttpRouter.Proofs.Path.Pieces
import HttpRouter.Proofs.Path.Resource
import HttpRouter.Proofs.Path.Row
import HttpRouter.Proofs.Path.Segments
import HttpRouter.Proofs.Router.Answering
import HttpRouter.Proofs.Router.Debugging
import HttpRouter.Proofs.Router.Lookup
import HttpRouter.Proofs.Router.Mounting
import HttpRouter.Proofs.Router.NamedUser
import HttpRouter.Proofs.Router.Payloads
import HttpRouter.Proofs.Router.Record
import HttpRouter.Proofs.Router.Redirecting
import HttpRouter.Proofs.Router.Replaying
import HttpRouter.Proofs.Router.Scan
import HttpRouter.Proofs.Router.Settling
import HttpRouter.Proofs.Router.Telling
import HttpRouter.Proofs.Router.Unguarded
import HttpRouter.Proofs.Router.Unslashed
import HttpRouter.Proofs.Settings.BasePath
import HttpRouter.Proofs.Settings.Overriding
import HttpRouter.Proofs.Text.Integers
import HttpRouter.Proofs.Text.Trimming
import HttpRouter.Router.Dispatch
