/-
  JobWatch.Settings
  ─────────────────
  **SETTINGS FROM THE ENVIRONMENT.**

  Three variables name the service, the project and the timeout. An empty
  project is no project; an empty service address or timeout is taken as it
  is, and a timeout that is not a number is refused.
-/
import JobWatch.Number.Binary64
import JobWatch.Text.Utf8

namespace JobWatch

/-- The variables of an environment. -/
abbrev Environment := List (Text × Text)

/-- Why a variable cannot be set. -/
inductive VariableError where
  /-- Its name or value holds a surrogate that stands for no octet. -/
  | unencodable
  /-- Its name or value holds a zero octet. -/
  | zeroOctet
  deriving DecidableEq, Repr

namespace Environment

/-- Why a variable cannot be set, if it cannot. -/
def faultOf? (name value : Text) : Option VariableError :=
  match Utf8.encodeEscaped? name, Utf8.encodeEscaped? value with
  | some name, some value =>
    if name.contains 0 || value.contains 0 then some .zeroOctet else none
  | _, _ => some .unencodable

/-- Why the first variable that cannot be set cannot be set. -/
def fault? (env : Environment) : Option VariableError :=
  env.findSome? fun v => faultOf? v.1 v.2

end Environment

/-- What a monitor needs to know. -/
structure Settings where
  /-- The address of the service. -/
  baseUrl : Text
  /-- The project that owns the jobs. -/
  project : Option Text
  /-- How many seconds a request may take. -/
  timeout : Binary64

namespace Settings

/-- The address of the service when none is named. -/
def defaultUrl : Text := "https://dataflow.googleapis.com"

/-- The timeout when none is named. -/
def defaultTimeout : Binary64 := Binary64.ofRatio false 30 1

/-- The settings in an environment; none if its timeout is not a number. -/
def ofEnvironment? (env : Environment) : Option Settings :=
  let project := env.lookup (Text.ofString "DATAFLOW_PROJECT")
  let timeout := match env.lookup (Text.ofString "DATAFLOW_TIMEOUT") with
    | none => some defaultTimeout
    | some t => Binary64.read? t
  timeout.map fun timeout =>
    { baseUrl := (env.lookup (Text.ofString "DATAFLOW_API_URL")).getD defaultUrl
      project := project.bind fun p => if p.isEmpty then none else some p
      timeout }

end Settings

end JobWatch
