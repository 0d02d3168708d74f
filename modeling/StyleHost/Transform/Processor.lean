import StyleHost.Transform.Host
import StyleHost.XPath.Literal
import StyleHost.Xml.Document

/-!
# Processors

A processor remembers a stylesheet and parameters, and transforms any number of sources with them.
Only well-formed stylesheets and sources come to the engine. Parameters keep the order in which
their names were first set; they are texts, which the engine receives as literals. A namespace given
with the name of a parameter is not looked at.

* `Processor.importStylesheet`, `Processor.setParameter`, … : what changes a processor.
* `Processor.request` : the request that a source makes.
* `Processor.transform` : a run with that request.
-/

namespace StyleHost

/-- A stylesheet and where it comes from. -/
structure ImportedStylesheet where
  bytes : Bytes
  baseUri : String
deriving DecidableEq

/-- A stylesheet and parameters. -/
structure Processor where
  stylesheet : Option ImportedStylesheet := none
  /-- The names of the parameters with their values. -/
  parameters : List (String × String) := []
deriving DecidableEq

namespace Processor

/-- Whether there is a stylesheet. -/
def hasStylesheet (p : Processor) : Bool := p.stylesheet.isSome

/-- Where a stylesheet comes from if nothing else is said: from nowhere, so that its own references
lead nowhere. -/
def defaultBase : String := "about:blank"

/-- The processor with another stylesheet. -/
def importStylesheet (p : Processor) (bytes : Bytes) (baseUri : String) :
    Except TransformError Processor :=
  match Document.check bytes with
  | .ok () => .ok { p with stylesheet := some ⟨bytes, baseUri⟩ }
  | .error fault => .error (.stylesheetParse fault.message)

/-- Parameters with one set: its value is replaced, or it is added at the end. -/
def setIn (name value : String) : List (String × String) → List (String × String)
  | [] => [(name, value)]
  | (n, v) :: rest => if n = name then (n, value) :: rest else (n, v) :: setIn name value rest

/-- The processor with a parameter set. -/
def setParameter (p : Processor) (_ns : Option String) (name value : String) : Processor :=
  { p with parameters := setIn name value p.parameters }

/-- The value of a parameter. -/
def getParameter (p : Processor) (_ns : Option String) (name : String) : Option String :=
  p.parameters.lookup name

/-- The processor without a parameter. -/
def removeParameter (p : Processor) (_ns : Option String) (name : String) : Processor :=
  { p with parameters := p.parameters.filter (·.1 != name) }

/-- The processor without parameters. -/
def clearParameters (p : Processor) : Processor := { p with parameters := [] }

/-- The processor without stylesheet and parameters. -/
def reset (_ : Processor) : Processor := {}

/-- The parameters as the engine receives them. -/
def engineParams (p : Processor) : List (String × String) :=
  p.parameters.map fun (name, value) => (name, XPath.literal value)

/-- The request that a source makes. -/
def request (p : Processor) (options : EngineOptions) (source : Bytes) :
    Except TransformError Request :=
  match p.stylesheet with
  | none => .error .stylesheetNotImported
  | some stylesheet =>
    match Document.check source with
    | .error fault => .error (.sourceParse fault.message)
    | .ok () =>
      .ok ⟨source, stylesheet.bytes, stylesheet.baseUri, p.engineParams, options⟩

variable {S X I D T : Type} [ResultTree T]

/-- A run with the stylesheet and the parameters. -/
def transform (p : Processor) (h : Host S X I D T) (mode : Mode) (source : Bytes)
    (lock : EngineLock S) :
    HostM (Exchange X I D T) (Except Panic (Except TransformError Output) × EngineLock S) := do
  match p.request h.config.engineOptions source with
  | .error cause => return (.ok (.error cause), lock)
  | .ok request =>
    if mode = .blocking then HostM.note (.transformingWith request.params.length)
    h.transform mode request lock

/-- The text that a run gives. -/
def textOf (result : Except TransformError Output) : Except TransformError String := do
  (← result).text

end Processor

end StyleHost
