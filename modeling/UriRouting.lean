import UriRouting.Unicode.Span
import UriRouting.Unicode.WhiteSpace
import UriRouting.Unicode.CaseMapping
import UriRouting.Unicode.GeneralCategory
import UriRouting.Unicode.Script
import UriRouting.Unicode.ScriptExtensions
import UriRouting.Unicode.BinaryProperty
import UriRouting.Unicode.Interval
import UriRouting.Unicode.Utf8
import UriRouting.Unicode.CharSet
import UriRouting.Unicode.Property
import UriRouting.Text
import UriRouting.Regex.Expression
import UriRouting.Regex.Matching
import UriRouting.Regex.Reading
import UriRouting.Regex.Primitive
import UriRouting.Regex.Class
import UriRouting.Regex.Reader
import UriRouting.Regex.Size
import UriRouting.Regex.Build
import UriRouting.Uri.Path
import UriRouting.Uri.Comparison
import UriRouting.Template.Piece
import UriRouting.Template.Token
import UriRouting.Template.Compiled
import UriRouting.ValueRule.IpAddress
import UriRouting.ValueRule.Mailbox
import UriRouting.ValueRule.Basic
import UriRouting.ValueRule.RuleSet
import UriRouting.Request.Method
import UriRouting.Request.Basic
import UriRouting.Request.Constraints
import UriRouting.Route.Parameters
import UriRouting.Route.Error
import UriRouting.Route.Options
import UriRouting.Route.Basic
import UriRouting.Table.Basic
import UriRouting.Table.Registry
import UriRouting.Table.Group
import UriRouting.Table.Context
import UriRouting.Table.Router
import UriRouting.Json.Reading
import UriRouting.Json.Settings
import UriRouting.Proofs.Regex.Ways
import UriRouting.Proofs.Regex.Reading
import UriRouting.Proofs.Template.Names
import UriRouting.Proofs.Template.Expression
import UriRouting.Proofs.Unicode.Folding
import UriRouting.Proofs.Template.Readings
import UriRouting.Proofs.Template.Matching
import UriRouting.Proofs.Template.Captures
import UriRouting.Proofs.Route.Reachable
import UriRouting.Proofs.Route.Matching
import UriRouting.Proofs.Template.Filling
import UriRouting.Proofs.Uri.Comparison
import UriRouting.Proofs.Route.RoundTrip
import UriRouting.Proofs.Route.History
import UriRouting.Proofs.Table.Dispatch
import UriRouting.Proofs.Table.Sealing
import UriRouting.Proofs.Template.Lead
import UriRouting.Proofs.Template.LeftOut
import UriRouting.Proofs.Route.LeftOut
import UriRouting.Proofs.Table.Script
import UriRouting.Proofs.Table.Flattening
import UriRouting.Proofs.Route.Reported
import UriRouting.Proofs.Table.Registration
import UriRouting.Proofs.Regex.Groups
import UriRouting.Proofs.Template.Source
import UriRouting.Proofs.Route.InPlace
import UriRouting.Proofs.Table.Atomicity
import UriRouting.Proofs.Regex.Matches
import UriRouting.Proofs.Regex.Leaves
import UriRouting.Proofs.Regex.Rounds
import UriRouting.Proofs.Regex.Closing
import UriRouting.Proofs.Regex.Enclosed
import UriRouting.Proofs.ValueRule.WholeValue
import UriRouting.Proofs.Regex.Language
import UriRouting.Proofs.Regex.Levels
import UriRouting.Proofs.Regex.AtEnd
import UriRouting.Proofs.Regex.RightAnchor
import UriRouting.Proofs.Regex.LeftAnchor
import UriRouting.Proofs.ValueRule.Stripping
import UriRouting.Proofs.Regex.Blind
import UriRouting.Proofs.Uri.Charwise
import UriRouting.Proofs.Template.Caseless
import UriRouting.Proofs.Route.Caseless
import UriRouting.Proofs.Template.Segment
import UriRouting.Proofs.Template.Footprint
import UriRouting.Proofs.Route.Segment
import UriRouting.Proofs.Text
import UriRouting.Proofs.Text.Case
import UriRouting.Proofs.ValueRule.Mailbox
import UriRouting.Proofs.ValueRule.MailboxExpressions
import UriRouting.Proofs.Request.Constraints
import UriRouting.Proofs.Route.Constraints
import UriRouting.Proofs.Table.Methods
import UriRouting.Proofs.Template.Scanning
import UriRouting.Proofs.Text.Bytes
import UriRouting.Proofs.Template.Markers
import UriRouting.Proofs.Template.Tokens
import UriRouting.Proofs.ValueRule.RuleSet
import UriRouting.Proofs.Template.Joining
import UriRouting.Proofs.Table.Joining
import UriRouting.Proofs.Route.Parameters
import UriRouting.Proofs.ValueRule.IpAddress
import UriRouting.Proofs.Uri.Joining
import UriRouting.Proofs.Uri.BasePath
import UriRouting.Proofs.Template.Following
import UriRouting.Proofs.Unicode.Interval
import UriRouting.Proofs.Unicode.CharSet
import UriRouting.Proofs.Unicode.Utf8
import UriRouting.Proofs.Regex.Size
