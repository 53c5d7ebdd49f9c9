import FlowRuntime.Failure
import FlowRuntime.Retry

/-!
The settings of a process that runs one flow, read from named values such as an
environment holds. Case in names does not matter. Values are read in the order
given, and the first that is repeated or malformed is reported; only then is it
asked what is missing, in the order in which settings are declared here.
-/
namespace FlowRuntime

structure Settings where
  rustLog : String
  flowSpecPath : String
  namespaceName : String
  application : String
  flow : String
  storageDataPath : String
  metricsPort : Nat
  retryDelayMs : Nat
  retryMaxAttempts : Nat
  fanOutTimeoutSecs : Option Nat
  deriving DecidableEq

namespace Settings

def programId (s : Settings) : ProgramId := .flow s.namespaceName s.application s.flow

def retryPolicy (s : Settings) : RetryPolicy := .fixedDelay s.retryDelayMs s.retryMaxAttempts

/-- The longest a fan-out waits for one instance, in milliseconds. -/
def fanOutTimeout (s : Settings) : Option Nat := s.fanOutTimeoutSecs.map (· * 1000)

def decimal? (c : Char) : Option Nat :=
  if 48 ≤ c.toNat ∧ c.toNat ≤ 57 then some (c.toNat - 48) else none

def readDigits (name value : String) (bound : Nat) : List Char → Nat → Except SettingFault Nat
  | [], n => .ok n
  | c :: rest, n =>
    match decimal? c with
    | none => .error (.notANumber name value)
    | some d =>
      if 10 * n + d < bound then readDigits name value bound rest (10 * n + d)
      else .error (.numberTooLarge name value)

def readNumber (name value : String) (bound : Nat) : Except SettingFault Nat :=
  match value.toList with
  | [] => .error (.emptyNumber name value)
  | ['+'] => .error (.notANumber name value)
  | '+' :: digits => readDigits name value bound digits 0
  | digits => readDigits name value bound digits 0

inductive Kind where
  | text
  | number (bound : Nat)

def kinds : List (String × Kind) :=
  [("rust_log", .text), ("flow_spec_path", .text), ("namespace", .text), ("application", .text),
    ("flow", .text), ("storage_data_path", .text), ("metrics_port", .number 65536),
    ("run_record_retry_delay_ms", .number 18446744073709551616),
    ("run_record_retry_max_attempts", .number 4294967296),
    ("fanout_timeout_seconds", .number 18446744073709551616)]

structure Given where
  texts : SortedMap String String
  numbers : SortedMap String Nat

/-- A name without regard to case. Only letters in ASCII matter here: no setting has a `k`, which is
the only one of them that is also the lower case of another character. -/
def caseless (name : String) : String := String.ofList (name.toList.map Char.toLower)

def collect (given : Given) : List (String × String) → Except SettingFault Given
  | [] => .ok given
  | (asGiven, value) :: rest =>
    let name := caseless asGiven
    match kinds.lookup name with
    | none => collect given rest
    | some .text =>
      if given.texts.contains name then .error (.repeated name)
      else collect { given with texts := given.texts.insert name value } rest
    | some (.number bound) =>
      if given.numbers.contains name then .error (.repeated name)
      else match readNumber asGiven value bound with
        | .error e => .error e
        | .ok n => collect { given with numbers := given.numbers.insert name n } rest

def Given.text (g : Given) (name : String) : Except SettingFault String :=
  match g.texts.get? name with
  | some v => .ok v
  | none => .error (.missing name)

def ofGiven (g : Given) : Except SettingFault Settings := do
  let rustLog ← g.text "rust_log"
  let flowSpecPath ← g.text "flow_spec_path"
  let application ← g.text "application"
  let flow ← g.text "flow"
  return {
    rustLog, flowSpecPath, application, flow
    namespaceName := (g.texts.get? "namespace").getD defaultNamespace
    storageDataPath := (g.texts.get? "storage_data_path").getD "/usr/local/hadron-flow/data"
    metricsPort := (g.numbers.get? "metrics_port").getD 7002
    retryDelayMs := (g.numbers.get? "run_record_retry_delay_ms").getD 1000
    retryMaxAttempts := (g.numbers.get? "run_record_retry_max_attempts").getD 5
    fanOutTimeoutSecs := g.numbers.get? "fanout_timeout_seconds" }

def read (vars : List (String × String)) : Except Failure Settings :=
  match (collect ⟨.empty, .empty⟩ vars).bind ofGiven with
  | .ok s => .ok s
  | .error fault => .error (.within .readingSettings (.badSettings fault))

end Settings
end FlowRuntime
