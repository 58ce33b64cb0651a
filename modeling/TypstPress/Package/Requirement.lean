import TypstPress.Package.Specifier

/-!
# Packages that a component needs

Before a component runs, the packages it needs are looked up: each must be importable, and if a
version is required, the installed one has to meet it. All that is missing is reported together.
-/

namespace TypstPress

/-- A package that a component needs. -/
structure Requirement where
  /-- The name to install it by. -/
  package : String
  /-- The name to import it by. -/
  importName : String
  /-- The required version; empty for any. -/
  version : String

namespace Requirement

/-- What is installed. -/
structure Environment where
  versions : List (String × String)
  importable : List String

/-- Whether an installed version meets a requirement, with the version. A version that is missing
or empty meets none. -/
def checkVersion (installed : Option String) (required : String) :
    Except Fault (Bool × Option String) :=
  match installed.filter (· != "") with
  | none => .ok (false, none)
  | some text => do
    let clauses ← Specifier.parseAll required
    let version ← Version.parse text
    .ok (clauses.all (·.admits version), some text)

/-- The failure to import a module. -/
def importFailure (name : String) : Failure :=
  .fault ⟨"ModuleNotFoundError", "No module named '" ++ name ++ "'"⟩

/-- What is missing for a requirement: the package with the version, and the failure to import
it. -/
def missing? (env : Environment) (r : Requirement) :
    Except Fault (Option ((String × String) × Option Failure)) :=
  if !env.importable.contains r.importName then
    .ok (some ((r.package, r.version), some (importFailure r.importName)))
  else if r.version.isEmpty then .ok none
  else do
    let (meets, found) ← checkVersion (env.versions.lookup r.package) r.version
    if meets then .ok none
    else
      let report := r.version ++ " (found " ++ found.getD "unknown" ++ ")"
      .ok (some ((r.package, report), none))

/-- Checks all requirements of a component. -/
def checkAll (component : String) (env : Environment) (requirements : List Requirement) :
    Except Failure Unit :=
  match requirements.mapM (missing? env) with
  | .error fault => .error (.fault fault)
  | .ok found =>
    let missing := found.filterMap id
    if missing.isEmpty then .ok ()
    else
      .error (Failure.missingPackages component (missing.map (·.1))
        (missing.findSome? (·.2)))

end Requirement

end TypstPress
