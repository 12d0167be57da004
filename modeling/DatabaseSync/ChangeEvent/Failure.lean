import Mathlib.Data.Nat.Notation
import Mathlib.Data.String.Basic

/-! # Failures of a sink

The errors that cross the sink boundary, the stable categories they are sorted into, and
the outcome of checking the sink's own metadata after a lost commit acknowledgement.
-/

namespace DatabaseSync.ChangeEvent

inductive IoErrorKind
  | other
  | invalidInput
  | interrupted
  | timedOut
  | connectionReset
  | connectionAborted
  | brokenPipe
  | unexpectedEof
deriving DecidableEq, Repr

/-- An error of the database driver, as far as the classification looks into it. -/
inductive DriverError
  | connectivity
  | server (code : ℕ)
  | other
deriving DecidableEq, Repr

/-- The payload of an `io::Error`. -/
inductive IoErrorCause
  | message (text : String)
  | parseIntError
  | decodeError
  | fromUtf8Error
  | commitUnknown
  | targetCapabilityFailure (text : String)
  | driver (error : DriverError)
deriving DecidableEq, Repr

structure IoError where
  kind : IoErrorKind
  cause : IoErrorCause
deriving DecidableEq, Repr

/-- `io::Error::other` on a text. -/
def IoError.other (text : String) : IoError := ⟨.other, .message text⟩

/-- `io::Error::other` on a driver error. -/
def IoError.driver (error : DriverError) : IoError := ⟨.other, .driver error⟩

/-- `io::Error::other` on the error of a parser. -/
def IoError.parse (cause : IoErrorCause) : IoError := ⟨.other, cause⟩

/-- The error of a `COMMIT` that was not acknowledged. -/
def IoError.unknownCommit : IoError := ⟨.other, .commitUnknown⟩

inductive CommitResolution
  | applied
  | notApplied
  | unprovable
deriving DecidableEq, Repr

inductive RetryClassification
  | retryable
  | commitUnknown
  | notRetryable
deriving DecidableEq, Repr

inductive TargetApplyErrorKind
  | conversion
  | capability
  | constraint
  | sql
  | connection
  | lockTimeout
  | commitUnknown
  | checkpointConflict
deriving DecidableEq, Repr

namespace TargetApplyErrorKind

def isRetryable : TargetApplyErrorKind → Bool
  | connection | lockTimeout => true
  | _ => false

end TargetApplyErrorKind

/-! ## Failures before and during an apply -/

/-- `char::is_control`. -/
def isControl (c : Char) : Bool := c.toNat < 0x20 || (0x7F ≤ c.toNat && c.toNat ≤ 0x9F)

def sanitizeCause (message : String) : String :=
  String.ofList ((message.toList.filter fun c => !isControl c).take 512)

/-- A capability failure, as far as the sinks and the conversion fill it in. -/
structure TargetCapabilityFailure where
  code : String
  routeId : Option String
  planDigest : Option String
  cause : String
deriving DecidableEq, Repr

def TargetCapabilityFailure.new (message : String) : TargetCapabilityFailure where
  code := "target_capability.unspecified"
  routeId := none
  planDigest := none
  cause := sanitizeCause message

/-- The errors of rendering and executing a transaction. -/
inductive SinkError
  | targetCapability (failure : TargetCapabilityFailure)
  | validation (message : String)
  | message (text : String)
  | database
deriving DecidableEq, Repr

/-- `capability_failure` of a sink. -/
def capabilityFailure (message : String) : SinkError :=
  .targetCapability (.new ("Target Capability Failure: " ++ message))

end DatabaseSync.ChangeEvent
