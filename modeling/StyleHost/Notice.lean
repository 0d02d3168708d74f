import StyleHost.Error
import StyleHost.Policy
import StyleHost.LanguageTag.Basic
import StyleHost.Sort.Spec
import StyleHost.Text.Quoted

/-!
# Notices

What the host writes to its log. Sorting and loading never fail; what went wrong on the way is
told here and nowhere else. A notice says what happened, `text` is its wording and `level` its
weight.
-/

namespace StyleHost

/-- The weight of a notice. -/
inductive Level where
  | error
  | warn
  | info
  | debug
deriving DecidableEq

/-- The name of a level in a log. -/
def Level.name : Level → String
  | .error => "ERROR"
  | .warn => "WARN"
  | .info => "INFO"
  | .debug => "DEBUG"

/-- What an external document is loaded as. -/
inductive LoadKind where
  /-- A part of the stylesheet. -/
  | stylesheet
  /-- A source document. -/
  | document
deriving DecidableEq

/-- The name of a kind of load in messages. -/
def LoadKind.name : LoadKind → String
  | .stylesheet => "Stylesheet"
  | .document => "Document"

/-- Why no collator could be built for a language. -/
inductive CollationError where
  | invalidTag (tag : String) (cause : TagError)
  /-- The tag is in order, but no collation data exists for it. -/
  | missingData
deriving DecidableEq

/-- The wording of a collation error. -/
def CollationError.message : CollationError → String
  | .invalidTag tag cause => "invalid language tag '" ++ tag ++ "': " ++ cause.message
  | .missingData => "ICU4X data error: Missing data for locale (key: collator/meta@1)"

/-- An occurrence that the log tells of. -/
inductive Notice where
  | keyFailed (position : Nat) (cause : EngineError)
  | tooManyKeys (count : Nat)
  | sortAbandoned (items : Nat)
  | sorted (items evaluated levels : Nat)
  | buildingCollator (tag : LanguageTag) (caseOrder : CaseOrder)
  | collationUnavailable (locale : Option String) (cause : CollationError)
  | refused (uri : String) (capability : Capability)
  | notLoaded (uri : String)
  | loading (uri : String)
  | fetched (size : Nat) (uri : String)
  | fetchFailed (uri : String) (cause : FetchError)
  | servicePanicked
  | resolving (kind : LoadKind) (uri : String)
  | notParsed (uri : String) (cause : EngineError)
  | insertingMeta (content : String)
  | transforming (sourceSize stylesheetSize : Nat) (baseUri : String)
  | transformingWith (parameters : Nat)
  | applying (stylesheet document : String)
  | stylesheetFetched (uri : String) (size : Nat)
deriving DecidableEq

namespace Notice

/-- The weight of a notice. -/
def level : Notice → Level
  | notLoaded _ | fetchFailed _ _ | servicePanicked => .error
  | collationUnavailable _ _ | refused _ _ | notParsed _ _ => .warn
  | loading _ | resolving _ _ | transforming _ _ _ | applying _ _ => .info
  | keyFailed _ _ | tooManyKeys _ | sortAbandoned _ | sorted _ _ _ | buildingCollator _ _ |
    fetched _ _ | insertingMeta _ | transformingWith _ | stylesheetFetched _ _ => .debug

/-- The wording of a notice. -/
def text : Notice → String
  | keyFailed position cause =>
    "Sort key evaluation failed at position " ++ toString position ++ ": " ++ cause.message
  | tooManyKeys count =>
    "Ignoring sort with " ++ toString count ++ " keys (limit is " ++
      toString (SortSpec.maxKeys - 1) ++ ")"
  | sortAbandoned items =>
    "Sort abandoned, keeping " ++ toString items ++ " items in input order"
  | sorted items evaluated levels =>
    "Sorted " ++ toString items ++ " items, evaluated " ++ toString evaluated ++ " of " ++
      toString levels ++ " key levels"
  | buildingCollator tag caseOrder =>
    "Building collator for locale '" ++ tag.toString ++ "' (" ++ caseOrder.name ++ ")"
  | collationUnavailable locale cause =>
    "Collation unavailable for locale " ++ Text.quoteOption locale ++ ": " ++ cause.message ++
      ". Treating strings as equal."
  | refused uri capability =>
    "Refusing to load '" ++ uri ++ "': " ++ capability.name ++
      " is forbidden by the security policy"
  | notLoaded uri => "Cannot load '" ++ uri ++ "': " ++ FetchError.bridgeClosed.message
  | loading uri => "Loading external document from URL " ++ uri ++ "..."
  | fetched size uri => "Fetched " ++ toString size ++ " bytes from " ++ uri
  | fetchFailed uri cause =>
    "Failed to fetch an external document included via <xsl:import>, <xsl:include> or " ++
      "document().\nURL: " ++ uri ++ "\nCause: " ++ cause.message ++
      "\nThis is often due to the same-origin (CORS) policy: fetching is more restrictive than " ++
      "a native XSLT engine's resource access."
  | servicePanicked => "Fetch service thread panicked"
  | resolving kind uri => "Resolving " ++ kind.name ++ " '" ++ uri ++ "'"
  | notParsed uri cause =>
    "Fetched '" ++ uri ++ "' but it could not be parsed: " ++ cause.message
  | insertingMeta content =>
    "Inserting <meta http-equiv=\"Content-Type\" content=\"" ++ content ++ "\">"
  | transforming sourceSize stylesheetSize baseUri =>
    "Transforming " ++ toString sourceSize ++ " bytes with a " ++ toString stylesheetSize ++
      " byte stylesheet (base URI '" ++ baseUri ++ "')"
  | transformingWith parameters =>
    "Transforming with " ++ toString parameters ++ " parameters"
  | applying stylesheet document => "Applying stylesheet " ++ stylesheet ++ " to " ++ document
  | stylesheetFetched uri size => "Stylesheet " ++ uri ++ " is " ++ toString size ++ " bytes"

end Notice

end StyleHost
