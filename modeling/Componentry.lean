import Componentry.Text.Blank
import Componentry.Text.Line
import Componentry.Text.Casing
import Componentry.Text.Word
import Componentry.Text.Quoted
import Componentry.Text.Utf8
import Componentry.Numeral.Integer
import Componentry.Numeral.Shortest
import Componentry.Json.Literal
import Componentry.Json.Reader
import Componentry.Json.Printer
import Componentry.Markup.Document
import Componentry.Template.Fragment
import Componentry.State.Inference
import Componentry.Theme
import Componentry.Settings
import Componentry.Unit.Decomposition
import Componentry.Template.Emit
import Componentry.Component.Request
import Componentry.CommandLine.Chain
import Componentry.CommandLine.Segment
import Componentry.Session.Shell
import Componentry.Log.Record
import Componentry.Main
import Componentry.Proofs.Component.Control
import Componentry.Proofs.Session.Shell
import Componentry.Proofs.Component.Naming
import Componentry.Proofs.Component.Stylesheet
import Componentry.Proofs.Component.Use
import Componentry.Proofs.Template.Readback
import Componentry.Proofs.CommandLine.Word
import Componentry.Proofs.CommandLine.Script
import Componentry.Proofs.Json.Literal
import Componentry.Proofs.Numeral.Double
import Componentry.Proofs.Numeral.Shortest
import Componentry.Proofs.Numeral.Written
import Componentry.Proofs.Json.Number
import Componentry.Proofs.State.Initial
import Componentry.Proofs.Component.InitialState
import Componentry.Proofs.Session.History
import Componentry.Proofs.Session.Overwrite
import Componentry.Proofs.State.Key
import Componentry.Proofs.Markup.Document
import Componentry.Proofs.Session.Theme
import Componentry.Proofs.Session.Interaction
import Componentry.Proofs.Template.Attribute
import Componentry.Proofs.Markup.TagName
import Componentry.Proofs.Component.Tags
import Componentry.Proofs.Template.Collision
import Componentry.Proofs.Style.Composition
import Componentry.Proofs.Style.Written
import Componentry.Proofs.Component.Stateful
import Componentry.Proofs.Component.Slot
import Componentry.Proofs.Component.Script
import Componentry.Proofs.Component.RootName
import Componentry.Proofs.CommandLine.Quoting
import Componentry.Proofs.CommandLine.Arrangement
import Componentry.Proofs.Configuration.Access
import Componentry.Proofs.Session.ThemeNotation
import Componentry.Proofs.Session.ThemeSection
import Componentry.Proofs.Template.Worklist
import Componentry.Proofs.Naming.Search
import Componentry.Proofs.Naming.Stability
