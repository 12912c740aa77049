import Tollgate.Text.Decimal
import Tollgate.Uuid

/-!
What can go wrong, by cause, with one wording for each. The three classes decide how a failure is
treated: a recoverable one may be swallowed by an open failure policy, and a configuration failure
or a denial passes through an authorization unchanged.
-/

namespace Tollgate

/-- The causes of failure. -/
inductive Failure
  | unknownBind (name : String)
  | configuration (detail : String)
  | storeUnavailable (detail : String)
  | storeTimeout (millis : Nat)
  | loadFailed (detail : String)
  | storeRejected (detail : String)
  | unauthorized (reason : String)
  | limitExceeded (service : ServiceId) (limit : Int)
  | malformedJson
  | invalidCount (key value : String)
deriving DecidableEq, Repr

namespace Failure

/-- The wording of a failure. -/
def message : Failure → String
  | unknownBind name => s!"No connection configured for bind '{name}'"
  | configuration detail => s!"Configuration error: {detail}"
  | storeUnavailable detail => s!"Counter store unavailable: {detail}"
  | storeTimeout millis => "Counter store timed out after " ++ Decimal.text millis ++ "ms"
  | loadFailed detail => s!"Authoritative load failed: {detail}"
  | storeRejected detail => s!"Counter store rejected command: {detail}"
  | unauthorized reason => s!"Unauthorized: {reason}"
  | limitExceeded service limit =>
    "Exceeded send limits (" ++ Decimal.signedText limit ++ ") for today for service " ++
      service.text
  | malformedJson => "JSON error: malformed document"
  | invalidCount key value => s!"Invalid counter value for '{key}': {value}"

/-- Failures of a store that may pass: it is unreachable, slow, or could not answer a load. -/
def isRecoverable : Failure → Bool
  | storeUnavailable _ | storeTimeout _ | loadFailed _ => true
  | _ => false

/-- Failures of the set-up. -/
def isConfiguration : Failure → Bool
  | unknownBind _ | configuration _ => true
  | _ => false

/-- Refusals: the service may not do what it asked for. -/
def isDenial : Failure → Bool
  | unauthorized _ | limitExceeded _ _ => true
  | _ => false

end Failure

/-- An outcome that may be a failure. -/
abbrev Outcome (α : Type) := Except Failure α

end Tollgate
