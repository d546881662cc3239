import CredentialRotation.Settings.Environment
import CredentialRotation.Time.Span

/-!
# Settings — Controller

How events are handled: the delays after failures, how many resources at once and of which
namespace, and what is logged.

**Main statements.**  Whatever the environment, a delay after a failed event is at least a second
(`one_le_backoffFirst`) and the longest is no shorter than the first (`backoffFirst_le_backoffCap`).
-/

namespace CredentialRotation

/-- How events are handled. -/
structure ControllerSettings where
  /-- The seconds after which a failed write is tried again. -/
  storeRetry : Nat
  /-- The first of the delays after failed events, in seconds. -/
  backoffFirst : Nat
  /-- The longest of them. -/
  backoffCap : Nat
  /-- How many resources are handled at once. -/
  concurrency : Nat
  /-- The seconds after which a watch that ended is started again. -/
  watchRestart : Nat
  /-- The one namespace that is watched. -/
  watchScope : Option String
  logLevel : String
  /-- `text`, or else JSON. -/
  logFormat : String
  deriving DecidableEq, Repr

namespace ControllerSettings

/-- The settings where nothing is given. -/
def standard : ControllerSettings := ⟨30, 1, 30, 10, 5, none, "INFO", "json"⟩

/-- The settings that an environment gives. -/
def ofEnvironment (env : Environment) : ControllerSettings :=
  let first := max (env.word "ERROR_BACKOFF_MIN_SECS" standard.backoffFirst) 1
  { storeRetry := env.word "STORE_FAILURE_REQUEUE_SECS" standard.storeRetry
    backoffFirst := first
    backoffCap := max (env.word "ERROR_BACKOFF_MAX_SECS" standard.backoffCap) first
    concurrency := max (env.word "MAX_CONCURRENT_RECONCILIATIONS" standard.concurrency) 1
    watchRestart := env.word "WATCH_RESTART_DELAY_SECS" standard.watchRestart
    watchScope := env.solid? "WATCH_NAMESPACE"
    logLevel := env.text "LOG_LEVEL" standard.logLevel
    logFormat := env.text "LOG_FORMAT" standard.logFormat }

/-- The delay after a failed write, in nanoseconds. -/
def storeRetrySpan (s : ControllerSettings) : Nat := Span.ofSeconds s.storeRetry

/-- The delay before a watch is started again, in nanoseconds. -/
def watchRestartSpan (s : ControllerSettings) : Nat := Span.ofSeconds s.watchRestart

theorem one_le_backoffFirst (env : Environment) : 1 ≤ (ofEnvironment env).backoffFirst :=
  Nat.le_max_right _ _

theorem backoffFirst_le_backoffCap (env : Environment) :
    (ofEnvironment env).backoffFirst ≤ (ofEnvironment env).backoffCap :=
  Nat.le_max_right _ _

end ControllerSettings

end CredentialRotation
