import CredentialRotation.Due
import CredentialRotation.FollowUp
import CredentialRotation.Interval.Reading
import CredentialRotation.Metrics.Sample
import CredentialRotation.Policy
import CredentialRotation.Record.Sink
import CredentialRotation.Store.Basic

/-!
# Cycle

One rotation cycle for one policy.  The interval is read, and if the secret is due, or the cycle is
forced, a password is drawn and written to the store; the record of how that ended goes to the sink
before anything follows.  Waiting leaves no record.
-/

namespace CredentialRotation

/-- What a cycle works with and leaves changed. -/
structure World (σ π : Type) where
  entropy : Entropy
  store : σ
  sink : π
  /-- What has been counted so far, the latest last. -/
  samples : List Sample

/-- Count one more sample. -/
def World.count {σ π : Type} (w : World σ π) (s : Sample) : World σ π :=
  { w with samples := w.samples ++ [s] }

namespace Cycle

/-- How a cycle ends: the record after it, and what follows. -/
structure Outcome where
  record : Record
  next : FollowUp
  deriving DecidableEq, Repr

/-- Why a cycle has no outcome. -/
inductive Stop where
  /-- Reading the interval got stuck. -/
  | stuck
  /-- The record was not kept.  The secret may have been written all the same. -/
  | unrecorded (reason : Failure)
  deriving DecidableEq, Repr

/-- What is logged of a cycle without an outcome; nothing is once reading got stuck. -/
def Stop.message : Stop → String
  | stuck => ""
  | unrecorded reason => "failed to persist rotation state: " ++ reason.chain

variable {σ π : Type}

/-- Keep the record and go on to what follows. -/
def conclude [RecordSink π] (record : Record) (next : FollowUp) (w : World σ π) :
    Except Stop Outcome × World σ π :=
  match RecordSink.put w.sink record with
  | (.ok _, sink) => (.ok ⟨record, next⟩, { w with sink := sink })
  | (.error reason, sink) => (.error (.unrecorded reason), { w with sink := sink })

/-- The message of a cycle whose interval cannot be read. -/
def intervalMessage (interval : String) (reason : Interval.Refusal) : String :=
  "Invalid rotation interval '" ++ interval ++ "': " ++ reason.message

/-- The message of a cycle that drew no password. -/
def drawMessage (reason : Password.Failure) : String :=
  "Password generation failed: " ++ reason.message

/-- The message of a cycle that did not write the password. -/
def writeMessage (path : String) (reason : StoreError) : String :=
  "Writing to " ++ path ++ " failed: " ++ reason.message

/-- The message of a cycle that rotated the secret. -/
def rotatedMessage (path : String) : String := "Secret rotated and written to " ++ path

/-- Write a password to the store. -/
def write [SecretStore σ] [RecordSink π] (policy : Policy) (interval storeRetry : Nat)
    (record : Record) (now : Instant) (secret : Secret) (w : World σ π) :
    Except Stop Outcome × World σ π :=
  let (result, store) := SecretStore.write w.store policy.storePath secret
  let w := { w with store := store }.count (.storeWriteTime (SecretStore.kind store))
  match result with
  | .error reason =>
    conclude (record.failed .storeError (writeMessage policy.storePath reason)) (.after storeRetry)
      (w.count (.rotationFailure .storeError))
  | .ok _ =>
    conclude (.rotated now (rotatedMessage policy.storePath)) (.after interval) (w.count .rotation)

/-- Draw a password and write it to the store. -/
def attempt [SecretStore σ] [RecordSink π] (policy : Policy) (interval storeRetry : Nat)
    (record : Record) (now : Instant) (w : World σ π) : Except Stop Outcome × World σ π :=
  let (result, entropy) :=
    Password.draw (.standard policy.includeSymbols) policy.effectiveLength w.entropy
  let w := { w with entropy := entropy }
  match result with
  | .error reason =>
    conclude (record.failed .generationError (drawMessage reason)) (.after 0)
      (w.count (.rotationFailure .generationError))
  | .ok secret => write policy interval storeRetry record now secret w

/-- Run a cycle at `now`, starting from a record.  A forced cycle does not wait for the interval to
be over.  After a store failure the next cycle follows after `storeRetry`. -/
def run [SecretStore σ] [RecordSink π] (policy : Policy) (record : Record) (now : Instant)
    (forced : Bool) (storeRetry : Nat) (w : World σ π) : Except Stop Outcome × World σ π :=
  match Interval.read policy.interval with
  | .stuck => (.error .stuck, w)
  | .refused reason =>
    conclude (record.failed .configError (intervalMessage policy.interval reason)) .onChange
      (w.count (.rotationFailure .configError))
  | .span interval =>
    match Due.decide interval record.rotatedAt now, forced with
    | .waitFor wait, false => (.ok ⟨record, .after wait⟩, w)
    | _, _ => attempt policy interval storeRetry record now w

end Cycle

end CredentialRotation
