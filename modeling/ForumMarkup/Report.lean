import ForumMarkup.Expression.Signature
import ForumMarkup.Text.Case
/-
**Reports of failures.**

Programs that use the library see a failure as a report.  Reports form classes, each of which but
the most general one refines another; every report has a message, and the classes add what they
report about.

Main definitions:

* `ForumMarkup.ReportClass`, `ForumMarkup.ReportClass.parent?`, `ForumMarkup.ReportClass.lineage` —
  the classes;
* `ForumMarkup.Report` — a report;
* `ForumMarkup.constructMessage`, `ForumMarkup.optionsMessage` — the messages that two classes have
  when they are given none;
* `ForumMarkup.Report.build` — the report that arguments describe.
-/

set_option autoImplicit false

namespace ForumMarkup

/-! ### Classes -/

/-- The classes of reports. -/
inductive ReportClass
  | general
  /-- A parameter has an invalid value. -/
  | parameter
  /-- Options are of the wrong type. -/
  | optionsType
  /-- A document cannot be read. -/
  | parsing
  /-- A document cannot be transcoded. -/
  | rendering
  /-- A construct cannot be expressed. -/
  | construct
  /-- Output cannot be written. -/
  | output
deriving DecidableEq, Repr

namespace ReportClass

/-- The class that a class refines. -/
def parent? : ReportClass → Option ReportClass
  | .general => none
  | .parameter => some .general
  | .optionsType => some .parameter
  | .parsing => some .general
  | .rendering => some .general
  | .construct => some .rendering
  | .output => some .rendering

/-- A class and the classes that it refines, up to the most general one. -/
def lineage (c : ReportClass) : List ReportClass :=
  match c.parent? with
  | none => [c]
  | some p =>
    match p.parent? with
    | none => [c, p]
    | some g => [c, p, g]

end ReportClass

/-! ### Reports -/

/-- What the classes report about. -/
inductive Detail
  | general
  | parameter (name value : Value)
  | optionsType (converter : Value) (expected received : String)
  | parsing (stage : Value)
  | rendering (stage : Value)
  | construct (construct constructClass : Value)
  | output (path : Value)

/-- A report: its message, what it is about, and the type of the failure behind it. -/
structure Report where
  message : Value
  detail : Detail
  cause? : Option String := none

/-- The class of a report. -/
def Detail.class : Detail → ReportClass
  | .general => .general
  | .parameter _ _ => .parameter
  | .optionsType _ _ _ => .optionsType
  | .parsing _ => .parsing
  | .rendering _ => .rendering
  | .construct _ _ => .construct
  | .output _ => .output

/-- The stage of an operation that failed because of its output. -/
def outputStage : String := "output"

/-! ### Messages -/

/-- The message about a construct, when none is given. -/
def constructMessage (construct : Value) (constructClass : String) : String :=
  Text.upper constructClass ++ " `" ++ construct.shown ++
    "' is not supported by the BBCode exporter"

/-- The message about options of the wrong type, when none is given. -/
def optionsMessage (converter : Value) (expected received : String) : String :=
  converter.shown ++ " expected options of type '" ++ expected ++ "' but received '" ++ received ++
    "'. Please provide the correct options type for the renderer."

/-! ### Building reports -/

/-- The reasons why a report cannot be built. -/
inductive ReportFault
  /-- The arguments do not fit the class. -/
  | arguments
  /-- The class of a construct is no text and cannot be put into a message. -/
  | classNotText
  /-- An integer that a message would show has too many digits. -/
  | longInteger
deriving DecidableEq, Repr

/-- The arguments of a class. -/
def ReportClass.signature : ReportClass → Signature Value
  | .general => { leading := [⟨"message", none⟩, ⟨"cause", some .null⟩] }
  | .parameter =>
    { leading := [⟨"message", none⟩, ⟨"parameter_name", some .null⟩,
        ⟨"parameter_value", some .null⟩, ⟨"cause", some .null⟩] }
  | .optionsType =>
    { leading := [⟨"converter_name", none⟩, ⟨"expected_type", none⟩, ⟨"received_type", none⟩,
        ⟨"message", some .null⟩] }
  | .parsing =>
    { leading := [⟨"message", none⟩, ⟨"parsing_stage", some .null⟩,
        ⟨"cause", some .null⟩] }
  | .rendering =>
    { leading := [⟨"message", none⟩, ⟨"rendering_stage", some .null⟩,
        ⟨"cause", some .null⟩] }
  | .construct =>
    { leading := [⟨"construct", none⟩, ⟨"construct_type", some (.text "node")⟩,
        ⟨"message", some .null⟩] }
  | .output =>
    { leading := [⟨"message", none⟩, ⟨"output_path", some .null⟩,
        ⟨"cause", some .null⟩] }

/-- The type of a failure that is given as a value. -/
def causeOf : Value → Option String
  | .null => none
  | v => some v.typeName

namespace Report

/-- The report on a construct. -/
def ofConstruct (construct constructClass message : Value) : Except ReportFault Report :=
  match message, constructClass with
  | .null, .text name =>
    if construct.isShowable then
      .ok { message := .text (constructMessage construct name)
            detail := .construct construct constructClass }
    else .error .longInteger
  | .null, _ => .error .classNotText
  | message, _ => .ok { message := message, detail := .construct construct constructClass }

/-- The report on options of the wrong type. -/
def ofOptionsType (converter expected received message : Value) : Except ReportFault Report :=
  let detail := Detail.optionsType converter expected.shown received.shown
  match message with
  | .null =>
    if converter.isShowable then
      .ok { message := .text (optionsMessage converter expected.shown received.shown)
            detail := detail }
    else .error .longInteger
  | message => .ok { message := message, detail := detail }

/-- The report of a class that arguments describe. -/
def build (c : ReportClass) (placed : List Value) (named : List (String × Value)) :
    Except ReportFault Report :=
  match c.signature.bind? placed named with
  | none => .error .arguments
  | some b =>
    match c, b.values with
    | .general, [message, cause] =>
      .ok { message := message, detail := .general, cause? := causeOf cause }
    | .parameter, [message, name, value, cause] =>
      .ok { message := message, detail := .parameter name value, cause? := causeOf cause }
    | .optionsType, [converter, expected, received, message] =>
      ofOptionsType converter expected received message
    | .parsing, [message, stage, cause] =>
      .ok { message := message, detail := .parsing stage, cause? := causeOf cause }
    | .rendering, [message, stage, cause] =>
      .ok { message := message, detail := .rendering stage, cause? := causeOf cause }
    | .construct, [construct, constructClass, message] =>
      ofConstruct construct constructClass message
    | .output, [message, path, cause] =>
      .ok { message := message, detail := .output path, cause? := causeOf cause }
    | _, _ => .error .arguments

end Report

end ForumMarkup
