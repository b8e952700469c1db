import GadgetGuard.CommandLine
import GadgetGuard.Config.Basic
import GadgetGuard.Config.Defaults
import GadgetGuard.Config.Error
import GadgetGuard.Config.FileSystem
import GadgetGuard.Config.Format
import GadgetGuard.Config.Include
import GadgetGuard.Config.Issue
import GadgetGuard.Config.Load
import GadgetGuard.Config.Variable
import GadgetGuard.Decimal.Binary64
import GadgetGuard.Decimal.Shortest
import GadgetGuard.Document.Basic
import GadgetGuard.Document.Edit
import GadgetGuard.Document.Html
import GadgetGuard.Encoding.Base64
import GadgetGuard.Encoding.Form
import GadgetGuard.Encoding.Percent
import GadgetGuard.Fetch.Body
import GadgetGuard.Fetch.Error
import GadgetGuard.Fetch.Exchange
import GadgetGuard.Fetch.Fetcher
import GadgetGuard.Fetch.Network
import GadgetGuard.Gadget.Content
import GadgetGuard.Gadget.Policy
import GadgetGuard.Gadget.Walk
import GadgetGuard.Host.Basic
import GadgetGuard.Host.Domain
import GadgetGuard.Host.Ipv4
import GadgetGuard.Host.Ipv6
import GadgetGuard.Host.Punycode
import GadgetGuard.Http.Date
import GadgetGuard.Http.Header
import GadgetGuard.Http.Message
import GadgetGuard.Http.RequestTarget
import GadgetGuard.Http.SecurityHeaders
import GadgetGuard.Http.Wire
import GadgetGuard.Json.Basic
import GadgetGuard.Json.Printer
import GadgetGuard.Json.Reader
import GadgetGuard.Json5.Number
import GadgetGuard.Json5.Reader
import GadgetGuard.Json5.Text
import GadgetGuard.Json5.Token
import GadgetGuard.Link.Parameter
import GadgetGuard.Link.Router
import GadgetGuard.Log.Event
import GadgetGuard.Log.Filter
import GadgetGuard.Log.Level
import GadgetGuard.Log.Line
import GadgetGuard.Log.Setup
import GadgetGuard.Main
import GadgetGuard.Program
import GadgetGuard.Proxy.Directive
import GadgetGuard.Proxy.Handler
import GadgetGuard.Proxy.Image
import GadgetGuard.Proxy.LockedDomain
import GadgetGuard.Proxy.ResponseGuard
import GadgetGuard.Proxy.Target
import GadgetGuard.Server.Site
import GadgetGuard.Server.Startup
import GadgetGuard.Style.Comment
import GadgetGuard.Style.Hook
import GadgetGuard.Style.Import
import GadgetGuard.Style.Keyword
import GadgetGuard.Style.Reference
import GadgetGuard.Style.Sanitizer
import GadgetGuard.Text.Ascii
import GadgetGuard.Text.Blank
import GadgetGuard.Text.BlockComment
import GadgetGuard.Text.Cut
import GadgetGuard.Text.Number
import GadgetGuard.Text.Quoted
import GadgetGuard.Text.Utf8
import GadgetGuard.Unicode.Composition
import GadgetGuard.Unicode.DomainMapping
import GadgetGuard.Unicode.Letter
import GadgetGuard.Unicode.Script
import GadgetGuard.Unicode.Table
import GadgetGuard.Url.Basic
import GadgetGuard.Url.Parser
import GadgetGuard.Url.UriReference
import GadgetGuard.Version
import GadgetGuard.Proofs.Document.Consistency
import GadgetGuard.Proofs.Document.Rose
import GadgetGuard.Proofs.Document.Shape
import GadgetGuard.Proofs.Document.Acyclic
import GadgetGuard.Proofs.Document.Reading
import GadgetGuard.Proofs.Document.Ancestry
import GadgetGuard.Proofs.Document.Copy
import GadgetGuard.Proofs.Gadget.Filter
import GadgetGuard.Proofs.Gadget.Attribute
import GadgetGuard.Proofs.Gadget.Step
import GadgetGuard.Proofs.Gadget.Walk
import GadgetGuard.Proofs.Gadget.Reached
import GadgetGuard.Proofs.Gadget.Content
import GadgetGuard.Proofs.Proxy.Calls
import GadgetGuard.Proofs.Document.Tag
import GadgetGuard.Proofs.Link.Proxied
import GadgetGuard.Proofs.Style.Plain
import GadgetGuard.Proofs.Style.Keyword
import GadgetGuard.Proofs.Style.Stretch
import GadgetGuard.Proofs.Style.Hook
import GadgetGuard.Proofs.Style.Import
import GadgetGuard.Proofs.Gadget.Markup
import GadgetGuard.Proofs.Url.Scheme
import GadgetGuard.Proofs.Link.WellFormed
import GadgetGuard.Proofs.Text.Utf8
import GadgetGuard.Proofs.Encoding.Form
import GadgetGuard.Proofs.Text.Number
import GadgetGuard.Proofs.Link.Decoded
import GadgetGuard.Proofs.Gadget.Stable
import GadgetGuard.Proofs.Http.Header
import GadgetGuard.Proofs.Proxy.Disclosed
import GadgetGuard.Proofs.Server.Hardening
import GadgetGuard.Proofs.Proxy.MediaType
import GadgetGuard.Proofs.Proxy.Forwarded
import GadgetGuard.Proofs.Proxy.Reserved
import GadgetGuard.Proofs.Fetch.Connected
import GadgetGuard.Proofs.Document.Session
import GadgetGuard.Proofs.Json.Defaults
import GadgetGuard.Proofs.Config.Lawful
import GadgetGuard.Proofs.Config.Completed
import GadgetGuard.Proofs.Style.Comment
import GadgetGuard.Proofs.Style.Run
import GadgetGuard.Proofs.Document.Name
import GadgetGuard.Proofs.Gadget.SafeAttribute
import GadgetGuard.Proofs.Gadget.Thinned
import GadgetGuard.Proofs.Gadget.Shown
import GadgetGuard.Proofs.Gadget.Entries
import GadgetGuard.Proofs.Gadget.Routed
import GadgetGuard.Proofs.Gadget.Portion
import GadgetGuard.Proofs.Gadget.Staying
import GadgetGuard.Proofs.Document.Collected
import GadgetGuard.Proofs.Gadget.Cycle
import GadgetGuard.Proofs.Proxy.Passed
import GadgetGuard.Proofs.Proxy.Locked
import GadgetGuard.Proofs.Proxy.Fallback
import GadgetGuard.Proofs.Host.Spelling
import GadgetGuard.Proofs.Url.Written
import GadgetGuard.Proofs.Proxy.Named
import GadgetGuard.Proofs.Config.Variable
import GadgetGuard.Proofs.Json.Overlay
import GadgetGuard.Proofs.Json.Ordered
import GadgetGuard.Proofs.Config.Compared
import GadgetGuard.Proofs.Config.Followed
import GadgetGuard.Proofs.Config.Alike
import GadgetGuard.Proofs.Config.Inclusion
import GadgetGuard.Proofs.Config.Reading
import GadgetGuard.Proofs.Config.Footprint
import GadgetGuard.Proofs.Config.Circular
import GadgetGuard.Proofs.Config.Layer
import GadgetGuard.Proofs.Config.InPlace
import GadgetGuard.Proofs.Config.Sibling
import GadgetGuard.Proofs.Config.Ending
import GadgetGuard.Proofs.Document.Twin
import GadgetGuard.Proofs.Document.Stepwise
import GadgetGuard.Proofs.Document.Atomic
import GadgetGuard.Proofs.Fetch.Capped
import GadgetGuard.Proofs.Http.Calendar
import GadgetGuard.Proofs.Http.Date
import GadgetGuard.Proofs.Http.Lifetime
import GadgetGuard.Proofs.Document.AttributeMap
