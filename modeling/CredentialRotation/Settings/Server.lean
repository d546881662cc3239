import CredentialRotation.Settings.Environment
import CredentialRotation.Time.Span

/-!
# Settings — Server

The server for metrics and probes.
-/

namespace CredentialRotation

/-- How the server is run. -/
structure ServerSettings where
  port : Nat
  /-- The seconds that the start may take. -/
  startupTimeout : Nat
  /-- The milliseconds between two looks at whether it has started. -/
  pollInterval : Nat
  deriving DecidableEq, Repr

namespace ServerSettings

/-- The settings where nothing is given. -/
def standard : ServerSettings := ⟨5000, 10, 50⟩

/-- The settings that an environment gives. -/
def ofEnvironment (env : Environment) : ServerSettings :=
  { port := env.number "METRICS_PORT" Word.limit16 standard.port
    startupTimeout := env.word "SERVER_STARTUP_TIMEOUT_SECS" standard.startupTimeout
    pollInterval := env.word "SERVER_POLL_INTERVAL_MS" standard.pollInterval }

/-- The time that the start may take, in nanoseconds. -/
def startupTimeoutSpan (s : ServerSettings) : Nat := Span.ofSeconds s.startupTimeout

/-- The time between two looks, in nanoseconds. -/
def pollIntervalSpan (s : ServerSettings) : Nat := s.pollInterval * 1000000

end ServerSettings

end CredentialRotation
