import HtmlDiagnostics.OrderedMap
import HtmlDiagnostics.Rule.Setting

/-! # The known parse errors

Every parse error that a conforming HTML parser reports, by its key: a short reason, an
explanation, and whether the HTML standard has an anchor for it. Both texts are templates: the
placeholder `%c` stands for the source character at the place of the error, `%c-1` for the one
before it, and `%x` for the code point there in hexadecimal.

* **`Rule`** — the templates of one parse error and whether it is documented.
* **`knownRules`** — the sixty rules in order.
* **`Rule.unknown`** — what stands in for a rule that is not known.
* **`severityOf key settings`** — the severity of a rule under the settings of a caller. -/

namespace HtmlDiagnostics

/-- What there is to say about one parse error. -/
structure Rule where
  /-- The template of the short reason. -/
  reason : Text
  /-- The template of the longer explanation. -/
  explanation : Text
  /-- Whether the HTML standard has an anchor for the error. -/
  hasAnchor : Bool
  deriving DecidableEq

/-- The stand-in for a rule that is not known: nothing to say, and a link all the same. -/
def Rule.unknown : Rule := ⟨[], [], true⟩

/-- The entry of a rule that the HTML standard has an anchor for. The characters of the three
literals are found when the entry is read in, so that no proof has to decode a string. -/
def documented (key reason explanation : String) {k r e : List Char}
    (_ : key = String.ofList k := by rfl) (_ : reason = String.ofList r := by rfl)
    (_ : explanation = String.ofList e := by rfl) : Text × Rule :=
  (k.map CodePoint.ofChar, ⟨r.map CodePoint.ofChar, e.map CodePoint.ofChar, true⟩)

/-- The entry of a rule that the HTML standard has no anchor for yet. -/
def undocumented (key reason explanation : String) {k r e : List Char}
    (_ : key = String.ofList k := by rfl) (_ : reason = String.ofList r := by rfl)
    (_ : explanation = String.ofList e := by rfl) : Text × Rule :=
  (k.map CodePoint.ofChar, ⟨r.map CodePoint.ofChar, e.map CodePoint.ofChar, false⟩)

/-- The known rules in order, by key. -/
def knownRuleEntries : List (Text × Rule) :=
  [undocumented "abandonedHeadElementChild"
      "Unexpected metadata element after head"
      "Unexpected element after head. Expected the element before `</head>`",
   documented "abruptClosingOfEmptyComment"
      "Unexpected abruptly closed empty comment"
      "Unexpected `>` or `->`. Expected `-->` to close comments",
   documented "abruptDoctypePublicIdentifier"
      "Unexpected abruptly closed public identifier"
      "Unexpected `>`. Expected a closing `\"` or `'` after the public identifier",
   documented "abruptDoctypeSystemIdentifier"
      "Unexpected abruptly closed system identifier"
      "Unexpected `>`. Expected a closing `\"` or `'` after the identifier identifier",
   documented "absenceOfDigitsInNumericCharacterReference"
      "Unexpected non-digit at start of numeric character reference"
      "Unexpected `%c`. Expected `[0-9]` for decimal references or `[0-9a-fA-F]` for hexadecimal references",
   documented "cdataInHtmlContent"
      "Unexpected CDATA section in HTML"
      "Unexpected `<![CDATA[` in HTML. Remove it, use a comment, or encode special characters instead",
   documented "characterReferenceOutsideUnicodeRange"
      "Unexpected too big numeric character reference"
      "Unexpectedly high character reference. Expected character references to be at most hexadecimal 10ffff (or decimal 1114111)",
   undocumented "closingOfElementWithOpenChildElements"
      "Unexpected closing tag with open child elements"
      "Unexpectedly closing tag. Expected other tags to be closed first",
   documented "controlCharacterInInputStream"
      "Unexpected control character"
      "Unexpected control character `%x`. Expected a non-control code point, 0x00, or ASCII whitespace",
   documented "controlCharacterReference"
      "Unexpected control character reference"
      "Unexpectedly control character in reference. Expected a non-control code point, 0x00, or ASCII whitespace",
   undocumented "disallowedContentInNoscriptInHead"
      "Disallowed content inside `<noscript>` in `<head>`"
      "Unexpected text character `%c`. Only use text in `<noscript>`s in `<body>`",
   documented "duplicateAttribute"
      "Unexpected duplicate attribute"
      "Unexpectedly double attribute. Expected attributes to occur only once",
   documented "endTagWithAttributes"
      "Unexpected attribute on closing tag"
      "Unexpected attribute. Expected `>` instead",
   documented "endTagWithTrailingSolidus"
      "Unexpected slash at end of closing tag"
      "Unexpected `%c-1`. Expected `>` instead",
   undocumented "endTagWithoutMatchingOpenElement"
      "Unexpected unopened end tag"
      "Unexpected end tag. Expected no end tag or another end tag",
   documented "eofBeforeTagName"
      "Unexpected end of file"
      "Unexpected end of file. Expected tag name instead",
   documented "eofInCdata"
      "Unexpected end of file in CDATA"
      "Unexpected end of file. Expected `]]>` to close the CDATA",
   documented "eofInComment"
      "Unexpected end of file in comment"
      "Unexpected end of file. Expected `-->` to close the comment",
   documented "eofInDoctype"
      "Unexpected end of file in doctype"
      "Unexpected end of file. Expected a valid doctype (such as `<!doctype html>`)",
   undocumented "eofInElementThatCanContainOnlyText"
      "Unexpected end of file in element that can only contain text"
      "Unexpected end of file. Expected text or a closing tag",
   documented "eofInScriptHtmlCommentLikeText"
      "Unexpected end of file in comment inside script"
      "Unexpected end of file. Expected `-->` to close the comment",
   documented "eofInTag"
      "Unexpected end of file in tag"
      "Unexpected end of file. Expected `>` to close the tag",
   documented "incorrectlyClosedComment"
      "Incorrectly closed comment"
      "Unexpected `%c-1`. Expected `-->` to close the comment",
   documented "incorrectlyOpenedComment"
      "Incorrectly opened comment"
      "Unexpected `%c`. Expected `<!--` to open the comment",
   documented "invalidCharacterSequenceAfterDoctypeName"
      "Invalid sequence after doctype name"
      "Unexpected sequence at `%c`. Expected `public` or `system`",
   documented "invalidFirstCharacterOfTagName"
      "Invalid first character in tag name"
      "Unexpected `%c`. Expected an ASCII letter instead",
   undocumented "misplacedDoctype"
      "Misplaced doctype"
      "Unexpected doctype. Expected doctype before head",
   undocumented "misplacedStartTagForHeadElement"
      "Misplaced `<head>` start tag"
      "Unexpected start tag `<head>`. Expected `<head>` directly after doctype",
   documented "missingAttributeValue"
      "Missing attribute value"
      "Unexpected `%c-1`. Expected an attribute value or no `%c-1` instead",
   undocumented "missingDoctype"
      "Missing doctype before other content"
      "Expected a `<!doctype html>` before anything else",
   documented "missingDoctypeName"
      "Missing doctype name"
      "Unexpected doctype end at `%c`. Expected `html` instead",
   documented "missingDoctypePublicIdentifier"
      "Missing public identifier in doctype"
      "Unexpected `%c`. Expected identifier for `public` instead",
   documented "missingDoctypeSystemIdentifier"
      "Missing system identifier in doctype"
      "Unexpected `%c`. Expected identifier for `system` instead (suggested: `\"about:legacy-compat\"`)",
   documented "missingEndTagName"
      "Missing name in end tag"
      "Unexpected `%c`. Expected an ASCII letter instead",
   documented "missingQuoteBeforeDoctypePublicIdentifier"
      "Missing quote before public identifier in doctype"
      "Unexpected `%c`. Expected `\"` or `'` instead",
   documented "missingQuoteBeforeDoctypeSystemIdentifier"
      "Missing quote before system identifier in doctype"
      "Unexpected `%c`. Expected `\"` or `'` instead",
   documented "missingSemicolonAfterCharacterReference"
      "Missing semicolon after character reference"
      "Unexpected `%c`. Expected `;` instead",
   documented "missingWhitespaceAfterDoctypePublicKeyword"
      "Missing whitespace after public identifier in doctype"
      "Unexpected `%c`. Expected ASCII whitespace instead",
   documented "missingWhitespaceAfterDoctypeSystemKeyword"
      "Missing whitespace after system identifier in doctype"
      "Unexpected `%c`. Expected ASCII whitespace instead",
   documented "missingWhitespaceBeforeDoctypeName"
      "Missing whitespace before doctype name"
      "Unexpected `%c`. Expected ASCII whitespace instead",
   documented "missingWhitespaceBetweenAttributes"
      "Missing whitespace between attributes"
      "Unexpected `%c`. Expected ASCII whitespace instead",
   documented "missingWhitespaceBetweenDoctypePublicAndSystemIdentifiers"
      "Missing whitespace between public and system identifiers in doctype"
      "Unexpected `%c`. Expected ASCII whitespace instead",
   documented "nestedComment"
      "Unexpected nested comment"
      "Unexpected `<!--`. Expected `-->`",
   undocumented "nestedNoscriptInHead"
      "Unexpected nested `<noscript>` in `<head>`"
      "Unexpected `<noscript>`. Expected a closing tag or a meta element",
   undocumented "nonConformingDoctype"
      "Unexpected non-conforming doctype declaration"
      "Expected `<!doctype html>` or `<!doctype html system \"about:legacy-compat\">`",
   documented "nonVoidHtmlElementStartTagWithTrailingSolidus"
      "Unexpected trailing slash on start tag of non-void element"
      "Unexpected `/`. Expected `>` instead",
   documented "noncharacterCharacterReference"
      "Unexpected noncharacter code point referenced by character reference"
      "Unexpected code point. Do not use noncharacters in HTML",
   documented "noncharacterInInputStream"
      "Unexpected noncharacter character"
      "Unexpected code point `%x`. Do not use noncharacters in HTML",
   documented "nullCharacterReference"
      "Unexpected NULL character referenced by character reference"
      "Unexpected code point. Do not use NULL characters in HTML",
   undocumented "openElementsLeftAfterEof"
      "Unexpected end of file"
      "Unexpected end of file. Expected closing tag instead",
   documented "surrogateCharacterReference"
      "Unexpected surrogate character referenced by character reference"
      "Unexpected code point. Do not use lone surrogate characters in HTML",
   documented "surrogateInInputStream"
      "Unexpected surrogate character"
      "Unexpected code point `%x`. Do not use lone surrogate characters in HTML",
   documented "unexpectedCharacterAfterDoctypeSystemIdentifier"
      "Invalid character after system identifier in doctype"
      "Unexpected character at `%c`. Expected `>`",
   documented "unexpectedCharacterInAttributeName"
      "Unexpected character in attribute name"
      "Unexpected `%c`. Expected whitespace, `/`, `>`, `=`, or probably an ASCII letter",
   documented "unexpectedCharacterInUnquotedAttributeValue"
      "Unexpected character in unquoted attribute value"
      "Unexpected `%c`. Quote the attribute value to include it",
   documented "unexpectedEqualsSignBeforeAttributeName"
      "Unexpected equals sign before attribute name"
      "Unexpected `%c`. Add an attribute name before it",
   documented "unexpectedNullCharacter"
      "Unexpected NULL character"
      "Unexpected code point `%x`. Do not use NULL characters in HTML",
   documented "unexpectedQuestionMarkInsteadOfTagName"
      "Unexpected question mark instead of tag name"
      "Unexpected `%c`. Expected an ASCII letter instead",
   documented "unexpectedSolidusInTag"
      "Unexpected slash in tag"
      "Unexpected `%c-1`. Expected it followed by `>` or in a quoted attribute value",
   documented "unknownNamedCharacterReference"
      "Unexpected unknown named character reference"
      "Unexpected character reference. Expected known named character references"]

/-- No two rules share a key. -/
theorem nodup_knownRuleEntries : (knownRuleEntries.map Prod.fst).Nodup := by decide +kernel

/-- The known rules by key. -/
def knownRules : OrderedMap Rule := ⟨knownRuleEntries, nodup_knownRuleEntries⟩

/-- Whether a key belongs to a known rule. -/
def isKnown (key : Text) : Bool := (knownRules.get? key).isSome

/-- The severity of a rule: what its setting stands for, and a warning where there is none. -/
def severityOf (key : Text) (settings : OrderedMap Setting) : Severity :=
  ((settings.get? key).getD .null).severity

end HtmlDiagnostics
