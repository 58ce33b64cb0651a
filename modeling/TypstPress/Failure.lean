import TypstPress.Log
import TypstPress.Metadata
import TypstPress.Text.Quoted

/-!
# Failures

Every failure is either the library's own, which callers tell apart by what went wrong, or a fault:
an error of the platform, of the data or of a caller's own code, known by the name of its class and
its text. The library's failures form a small hierarchy, listed by `Failure.ancestry`; those that
wrap another failure carry it as their cause.
-/

namespace TypstPress

/-- An error from outside the library: the name of its class and its text. -/
structure Fault where
  name : String
  text : String
deriving DecidableEq, Repr, Inhabited

namespace Fault

/-- The message of a fault. A failed look-up shows the key it looked for between quotes. -/
def message (fault : Fault) : String :=
  if fault.name == "KeyError" then Text.quoted fault.text else fault.text

/-- The fault as other messages mention it: the class name with the quoted text. -/
def mention (fault : Fault) : String := fault.name ++ "(" ++ Text.quoted fault.text ++ ")"

/-- A value that is not acceptable. -/
def wrongValue (text : String) : Fault := ⟨"ValueError", text⟩

/-- A value of the wrong type. -/
def wrongType (text : String) : Fault := ⟨"TypeError", text⟩

/-- A part that an object does not have. -/
def missingPart (text : String) : Fault := ⟨"AttributeError", text⟩

/-- An attempt to change what cannot change. -/
def unchangeable (text : String) : Fault := ⟨"FrozenInstanceError", text⟩

end Fault

/-- What went wrong. -/
inductive Failure where
  /-- A failure of the library without further detail. -/
  | general (message : String) (cause : Option Failure)
  /-- A parameter or an input that is not valid. -/
  | validation (message : String) (parameter : Option String) (value : Value)
      (cause : Option Failure)
  /-- Options of the wrong kind for a component. -/
  | invalidOptions (component expected received message : String) (cause : Option Failure)
  /-- A document that cannot be read. -/
  | parsing (message : String) (stage : Option String) (cause : Option Failure)
  /-- A transform that failed. -/
  | transform (message : String) (name : Option String) (cause : Option Failure)
  /-- A document that cannot be rendered. -/
  | rendering (message : String) (stage : Option String) (cause : Option Failure)
  /-- A tree that breaks a structural precondition. -/
  | malformedTree (message : String) (nodeType stage : Option String)
  /-- Packages that are missing or too old. -/
  | dependency (component : String) (missing : List (String × String)) (message : String)
      (cause : Option Failure)
  /-- An error from outside the library. -/
  | fault (fault : Fault)
deriving Inhabited

namespace Failure

/-- The name of the failure's class. -/
def name : Failure → String
  | .general .. => "Md2TypstError"
  | .validation .. => "ValidationError"
  | .invalidOptions .. => "InvalidOptionsError"
  | .parsing .. => "ParsingError"
  | .transform .. => "TransformError"
  | .rendering .. => "RenderingError"
  | .malformedTree .. => "MalformedTreeError"
  | .dependency .. => "DependencyError"
  | .fault f => f.name

/-- The text of the failure. -/
def message : Failure → String
  | .general message _ => message
  | .validation message _ _ _ => message
  | .invalidOptions _ _ _ message _ => message
  | .parsing message _ _ => message
  | .transform message _ _ => message
  | .rendering message _ _ => message
  | .malformedTree message _ _ => message
  | .dependency _ _ message _ => message
  | .fault f => f.message

/-- The failure that this one wraps. -/
def cause? : Failure → Option Failure
  | .general _ cause => cause
  | .validation _ _ _ cause => cause
  | .invalidOptions _ _ _ _ cause => cause
  | .parsing _ _ cause => cause
  | .transform _ _ cause => cause
  | .rendering _ _ cause => cause
  | .malformedTree .. => none
  | .dependency _ _ _ cause => cause
  | .fault _ => none

/-- Whether the failure is one of the library's own. -/
def isLibrary : Failure → Bool
  | .fault _ => false
  | _ => true

/-- The failure as other messages mention it: the class name with the quoted text. -/
def mention : Failure → String
  | .fault f => f.mention
  | f => f.name ++ "(" ++ Text.quoted f.message ++ ")"

/-- The classes that the failure belongs to, the narrowest first. -/
def ancestry : Failure → List String
  | .general .. => ["Md2TypstError"] ++ root
  | .validation .. => ["ValidationError", "Md2TypstError"] ++ root
  | .invalidOptions .. => ["InvalidOptionsError", "ValidationError", "Md2TypstError"] ++ root
  | .parsing .. => ["ParsingError", "Md2TypstError"] ++ root
  | .transform .. => ["TransformError", "Md2TypstError"] ++ root
  | .rendering .. => ["RenderingError", "Md2TypstError"] ++ root
  | .malformedTree .. =>
    ["MalformedTreeError", "RenderingError", "Md2TypstError", "TypeError"] ++ root
  | .dependency .. => ["DependencyError", "Md2TypstError"] ++ root
  | .fault f => f.name :: root
where
  /-- The classes of all failures. -/
  root : List String := ["Exception", "BaseException", "object"]

/-- A text that may be missing, as a value. -/
def optionalText : Option String → Value
  | some s => .text s
  | none => .null

/-- A failure as a value: the name of its class and its text. -/
def causeValue : Option Failure → Value
  | some f => .list [.text f.name, .text f.message]
  | none => .null

/-- Everything that the failure tells about itself, by name. -/
def fields : Failure → List (String × Value)
  | .general message cause => shared message cause
  | .validation message parameter value cause =>
    shared message cause ++ [("parameter_name", optionalText parameter), ("parameter_value", value)]
  | .invalidOptions component expected received message cause =>
    shared message cause ++
      [("parameter_name", .text "options"), ("parameter_value", .text received),
       ("converter_name", .text component), ("expected_type", .text expected),
       ("received_type", .text received)]
  | .parsing message stage cause =>
    shared message cause ++ [("parsing_stage", optionalText stage)]
  | .transform message name cause =>
    shared message cause ++ [("transform_name", optionalText name)]
  | .rendering message stage cause =>
    shared message cause ++ [("rendering_stage", optionalText stage)]
  | .malformedTree message nodeType stage =>
    shared message none ++
      [("rendering_stage", optionalText stage), ("node_type", optionalText nodeType)]
  | .dependency component missing message cause =>
    shared message cause ++
      [("original_import_error", causeValue cause), ("converter_name", .text component),
       ("missing_packages", .list (missing.map fun p => .list [.text p.1, .text p.2]))]
  | .fault _ => []
where
  /-- What all failures of the library tell. -/
  shared (message : String) (cause : Option Failure) : List (String × Value) :=
    [("message", .text message), ("original_error", causeValue cause)]

/-- The message for options of the wrong kind. -/
def wrongOptions (component expected received : String) : Failure :=
  .invalidOptions component expected received
    (component ++ " expected options of type '" ++ expected ++ "' but received '" ++ received ++
      "'.") none

/-- The failure for a renderer that has no text output. -/
def noTextOutput (renderer : String) : Failure :=
  .fault ⟨"NotImplementedError", renderer ++ " does not support rendering to a string."⟩

/-- The message that lists missing packages and how to install them. -/
def missingPackagesMessage (component : String) (missing : List (String × String)) : String :=
  let listed := missing.map fun p => "'" ++ p.1 ++ p.2 ++ "'"
  let installed := missing.map fun p =>
    if p.2.isEmpty then p.1 else "\"" ++ p.1 ++ p.2 ++ "\""
  component ++ " requires the following packages: " ++ ", ".intercalate listed ++
    "\nInstall with: pip install --upgrade " ++ " ".intercalate installed

/-- The failure for missing packages. -/
def missingPackages (component : String) (missing : List (String × String))
    (cause : Option Failure) : Failure :=
  .dependency component missing (missingPackagesMessage component missing) cause

end Failure

end TypstPress
