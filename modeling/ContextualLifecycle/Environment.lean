import ContextualLifecycle.Config
import ContextualLifecycle.Text.Upper

namespace ContextualLifecycle

abbrev Environment := List (String × String)

namespace Environment

def containerPrefix : String := "FERROUS_CDI"

def variableName (variablePrefix : Option String) (setting : String) : String :=
  match variablePrefix with
  | some p => Text.upper p ++ "_" ++ Text.upper setting
  | none => Text.upper setting

/-- A variable as a line of the environment: its name, an equals sign and its value. -/
def line (name value : String) : List Char := name.toList ++ '=' :: value.toList

/-- What follows a name and an equals sign on the first line that starts with them. Names on lines
have no equals sign, so a name that has one reaches into the value of a variable. -/
def value? (env : Environment) (name : String) : Option String :=
  env.findSome? fun (key, value) =>
    ((line name "").isPrefixOf? (line key value)).map String.ofList

def source (env : Environment) (variablePrefix : Option String) : Config.Source :=
  fun setting => env.value? (variableName variablePrefix setting)

def config (env : Environment) : Except LifecycleError Config :=
  Config.ofSource (env.source (some containerPrefix))

end Environment

end ContextualLifecycle
