import HtmlDiagnostics.Diagnostic.Layout
import HtmlDiagnostics.Encoding.Utf8.Lemmas
import HtmlDiagnostics.Main
import HtmlDiagnostics.Parse
import HtmlDiagnostics.Template.Lemmas
import HtmlDiagnostics.Proofs.Rendering
import HtmlDiagnostics.Proofs.Building
import HtmlDiagnostics.Proofs.Delivery
import HtmlDiagnostics.Proofs.Reception
import HtmlDiagnostics.Proofs.Severity
import HtmlDiagnostics.Proofs.Safety
import HtmlDiagnostics.Proofs.Locality
import HtmlDiagnostics.Proofs.Json.Grammar
import HtmlDiagnostics.Proofs.Json.Reader
import HtmlDiagnostics.Proofs.Json.Rendering
import HtmlDiagnostics.Proofs.Message
import HtmlDiagnostics.Proofs.Template.Places
import HtmlDiagnostics.Proofs.Template.Splitting
import HtmlDiagnostics.Proofs.Markdown.CodeSpan
import HtmlDiagnostics.Proofs.Markdown.RuleText
import HtmlDiagnostics.Proofs.Text.Numeral
import HtmlDiagnostics.Proofs.Text.Search
import HtmlDiagnostics.Proofs.FileTree
import HtmlDiagnostics.Proofs.RuleList.Zone
import HtmlDiagnostics.Proofs.RuleList.Refresh
import HtmlDiagnostics.Proofs.Rule.Name
import HtmlDiagnostics.Proofs.RuleList.Anchor
import HtmlDiagnostics.Proofs.Naming
import HtmlDiagnostics.Proofs.Listing
import HtmlDiagnostics.Proofs.OneLine
import HtmlDiagnostics.Proofs.Encoding.Ascii
import HtmlDiagnostics.Proofs.Encoding.Newline
import HtmlDiagnostics.Proofs.RuleList.Surroundings
import HtmlDiagnostics.Proofs.Rule.Spelling
import HtmlDiagnostics.Proofs.RuleList.FirstZone
import HtmlDiagnostics.Proofs.Template.Tokens
import HtmlDiagnostics.Proofs.Template.Meaning
import HtmlDiagnostics.Proofs.Session
import HtmlDiagnostics.Proofs.Moving
import HtmlDiagnostics.Proofs.Shortening
import HtmlDiagnostics.Proofs.Text.DigitRun
import HtmlDiagnostics.Proofs.Template.Shift
import HtmlDiagnostics.Proofs.OrderedMap
import HtmlDiagnostics.Proofs.Text.Order
import HtmlDiagnostics.Proofs.Checking
import HtmlDiagnostics.Proofs.RuleList.Item
import HtmlDiagnostics.Proofs.RuleList.Reading
import HtmlDiagnostics.Proofs.Position
