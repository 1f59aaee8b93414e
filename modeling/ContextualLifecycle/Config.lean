import ContextualLifecycle.Duration
import ContextualLifecycle.Error
import ContextualLifecycle.Json.Printer
import ContextualLifecycle.Json.Reader
import ContextualLifecycle.Text.Blank
import ContextualLifecycle.Text.Numeral
import ContextualLifecycle.Text.Quoted

namespace ContextualLifecycle

/-- What happens to the context of a scope that is started again without having been ended. -/
inductive RestartPolicy where
  /-- The context is dropped, and its instances are not destroyed. -/
  | abandon
  /-- The context is destroyed. -/
  | destroyPrevious
deriving DecidableEq, Repr, Inhabited

namespace RestartPolicy

def name : RestartPolicy → String
  | abandon => "abandon"
  | destroyPrevious => "destroy_previous"

def ofName? (text : String) : Option RestartPolicy :=
  if text = "abandon" then some abandon
  else if text = "destroy_previous" then some destroyPrevious
  else none

/-- A setting as it is compared with the names: without outer blanks, in lower case as far as
letters are ASCII, and with underscores for hyphens. -/
def normalize (text : String) : String :=
  String.ofList ((Text.trim text.toList).map fun c => if c = '-' then '_' else c.toLower)

def ofText (text : String) : Except LifecycleError RestartPolicy :=
  match ofName? (normalize text) with
  | some policy => .ok policy
  | none => .error (.config ("unknown restart policy " ++ Text.quote (normalize text)))

@[simp]
theorem ofName?_name (policy : RestartPolicy) : ofName? policy.name = some policy := by
  cases policy <;> decide

end RestartPolicy

structure Config where
  /-- Destroy attempts allowed for each dependent that is present when a teardown starts. -/
  teardownFactor : UInt64 := 3
  restartPolicy : RestartPolicy := .abandon
  /-- Idle time after which a long-running conversation may be destroyed. -/
  conversationTimeoutMs : UInt64 := 1800000
deriving DecidableEq, Repr, Inhabited

namespace Config

abbrev Source := String → Option String

/-- The settings if they are sound: a teardown needs at least one attempt for each dependent. -/
def validate (config : Config) : Except LifecycleError Config :=
  if config.teardownFactor = 0 then .error (.config "teardown_factor must be at least 1")
  else .ok config

def conversationTimeout (config : Config) : Duration :=
  .ofMillis config.conversationTimeoutMs.toNat

/-- The word under a name, or the default where the source has no such name. -/
def wordSetting (source : Source) (name : String) (default : UInt64) :
    Except LifecycleError UInt64 :=
  match source name with
  | none => .ok default
  | some text =>
    match Text.word? (Text.trim text.toList) with
    | some value => .ok value
    | none =>
      .error (.config (name ++ " must be a non-negative integer, got " ++ Text.quote text))

def policySetting (source : Source) (default : RestartPolicy) :
    Except LifecycleError RestartPolicy :=
  match source "restart_policy" with
  | none => .ok default
  | some text => RestartPolicy.ofText text

/-- Reads the settings of a source, one after the other; the first fault is reported. -/
def ofSource (source : Source) : Except LifecycleError Config := do
  let defaults : Config := {}
  let teardownFactor ← wordSetting source "teardown_factor" defaults.teardownFactor
  let restartPolicy ← policySetting source defaults.restartPolicy
  let conversationTimeoutMs ←
    wordSetting source "conversation_timeout_ms" defaults.conversationTimeoutMs
  validate { teardownFactor, restartPolicy, conversationTimeoutMs }

def toJson (config : Config) : Json :=
  .object [("teardown_factor", .ofNat config.teardownFactor.toNat),
    ("restart_policy", .string config.restartPolicy.name),
    ("conversation_timeout_ms", .ofNat config.conversationTimeoutMs.toNat)]

/-- The settings of a JSON record, which may leave fields out; they need not be sound. -/
def ofTree? (tree : Json.Tree) (room : Nat) : Option Config := do
  let fields ← Json.Fields.ofTree?
    ["teardown_factor", "restart_policy", "conversation_timeout_ms"] tree room
  let defaults : Config := {}
  let teardownFactor ←
    fields.defaulted? "teardown_factor" defaults.teardownFactor Json.Tree.word?
  let restartPolicy ← fields.defaulted? "restart_policy" defaults.restartPolicy
    fun tree => tree.variant? RestartPolicy.ofName? fields.room
  let conversationTimeoutMs ←
    fields.defaulted? "conversation_timeout_ms" defaults.conversationTimeoutMs Json.Tree.word?
  return { teardownFactor, restartPolicy, conversationTimeoutMs }

/-- Reads sound settings from JSON text. -/
def ofJson (text : String) : Except LifecycleError Config :=
  match (Json.Tree.ofText? text.toList).bind (ofTree? · Json.maxNesting) with
  | some config => config.validate
  | none => .error .serialization

end Config

end ContextualLifecycle
