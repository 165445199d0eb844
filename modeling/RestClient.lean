import RestClient.Body
import RestClient.Client
import RestClient.ContentType
import RestClient.Data.Datum
import RestClient.Data.Mismatch
import RestClient.Data.Shape
import RestClient.Error
import RestClient.Exchange
import RestClient.Http.Header
import RestClient.Http.Method
import RestClient.Json.Basic
import RestClient.Json.Error
import RestClient.Json.Numeral
import RestClient.Json.Parse
import RestClient.Json.Read
import RestClient.Json.Scan
import RestClient.Json.Tree
import RestClient.Json.Write
import RestClient.Number.Binary64
import RestClient.Number.Decimal
import RestClient.Number.Layout
import RestClient.Number.Shortest
import RestClient.Operation
import RestClient.Options
import RestClient.Params
import RestClient.Proofs.Address
import RestClient.Proofs.AsGiven
import RestClient.Proofs.Bodies
import RestClient.Proofs.ByteOrder
import RestClient.Proofs.Chain
import RestClient.Proofs.Collecting
import RestClient.Proofs.Construction
import RestClient.Proofs.Coverage
import RestClient.Proofs.Decoding
import RestClient.Proofs.Documents
import RestClient.Proofs.Echo
import RestClient.Proofs.ElementText
import RestClient.Proofs.Flattening
import RestClient.Proofs.FloatNumeral
import RestClient.Proofs.FloatText
import RestClient.Proofs.Grammar
import RestClient.Proofs.Grouping
import RestClient.Proofs.HeaderLines
import RestClient.Proofs.HeaderSafety
import RestClient.Proofs.InStep
import RestClient.Proofs.Joining
import RestClient.Proofs.Layers
import RestClient.Proofs.Lockstep
import RestClient.Proofs.MapKeys
import RestClient.Proofs.Merging
import RestClient.Proofs.NamedFields
import RestClient.Proofs.Overriding
import RestClient.Proofs.PetDocument
import RestClient.Proofs.Preparation
import RestClient.Proofs.Query
import RestClient.Proofs.Rereading
import RestClient.Proofs.Rounding
import RestClient.Proofs.Route
import RestClient.Proofs.Session
import RestClient.Proofs.Settling
import RestClient.Proofs.ShortestDigits
import RestClient.Proofs.Skipping
import RestClient.Proofs.Substitution
import RestClient.Proofs.TextBodies
import RestClient.Proofs.Tracing
import RestClient.Proofs.TwoReaders
import RestClient.Proofs.TwoWriters
import RestClient.Proofs.Unwritten
import RestClient.Proofs.WebPath
import RestClient.Request
import RestClient.Response
import RestClient.Sample.Schema
import RestClient.Sample.Types
import RestClient.Send
import RestClient.Template
import RestClient.Text.Composition
import RestClient.Text.Direction
import RestClient.Text.Mark
import RestClient.Text.Quoted
import RestClient.Text.Split
import RestClient.Text.Visible
import RestClient.Transport
import RestClient.Url.Basic
import RestClient.Url.Domain
import RestClient.Url.DomainTable
import RestClient.Url.Form
import RestClient.Url.Host
import RestClient.Url.Join
import RestClient.Url.Parse
import RestClient.Url.Percent
import RestClient.Url.Punycode
import RestClient.Xml.Error
import RestClient.Xml.Markup
import RestClient.Xml.Read
import RestClient.Xml.Stream
import RestClient.Xml.Write
import RestClient.Yaml.Character
import RestClient.Yaml.Cursor
import RestClient.Yaml.Document
import RestClient.Yaml.Error
import RestClient.Yaml.Layout
import RestClient.Yaml.Node
import RestClient.Yaml.Plain
import RestClient.Yaml.Read
import RestClient.Yaml.Scalar
import RestClient.Yaml.Scan
import RestClient.Yaml.Token
import RestClient.Yaml.Write
