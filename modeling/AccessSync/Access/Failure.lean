import AccessSync.Access.Kind
import AccessSync.Text.Segment

/-!
# Failures

Every way in which a listing, a grant or a revocation can fail, with its code, its text and the
classes that callers decide by.
-/

namespace AccessSync

/-- What is wrong with a page token: it cannot be decoded, or its phase does not fit. -/
inductive TokenFault
  | undecodable (detail token : String)
  | phase (message : String)
deriving DecidableEq, Repr

def TokenFault.message : TokenFault → String
  | .undecodable detail token => s!"{detail}: {token}"
  | .phase message => message

/-- Why an operation failed. -/
inductive Failure
  | invalidArgument (message : String)
  | unsupportedRole (kind : Kind) (role : String)
  | unsupportedPrincipal (kind : Kind) (entitlement : String) (principal : Kind)
  | notProvisionable (kind : Kind) (entitlement : String)
  | invalidPageToken (fault : TokenFault)
  | permissionDenied (message : String)
  | notFound (message : String)
  | unauthenticated (message : String)
  | alreadyGranted (message : String)
  | notCurrentlyGranted (message : String)
  | transport (message : String) (source : Option String)
  | cancelled
  | invalidConfiguration (message : String)
  | serialization (message : String)
deriving DecidableEq, Repr

namespace Failure

/-- No workspace is left that the credentials may look into. -/
def noWorkspaces : Failure := .unauthenticated "no authenticated workspaces found"

def message : Failure → String
  | .invalidArgument m => s!"invalid argument: {m}"
  | .unsupportedRole kind role => s!"unsupported role '{role}' for {kind.name}"
  | .unsupportedPrincipal kind entitlement principal =>
    s!"unsupported principal type '{principal.name}' for {kind.name} entitlement '{entitlement}'"
  | .notProvisionable kind entitlement =>
    s!"{kind.name} entitlement '{entitlement}' cannot be provisioned"
  | .invalidPageToken fault => s!"invalid page token: {fault.message}"
  | .permissionDenied m => s!"permission denied: {m}"
  | .notFound m => s!"not found: {m}"
  | .unauthenticated m => s!"unauthenticated: {m}"
  | .alreadyGranted m => s!"already granted: {m}"
  | .notCurrentlyGranted m => s!"not currently granted: {m}"
  | .transport m _ => s!"transport error: {m}"
  | .cancelled => "operation cancelled"
  | .invalidConfiguration m => s!"invalid configuration: {m}"
  | .serialization m => s!"serialization error: {m}"

def code : Failure → String
  | .invalidArgument _ => "INVALID_ARGUMENT"
  | .unsupportedRole .. => "UNSUPPORTED_ROLE"
  | .unsupportedPrincipal .. => "UNSUPPORTED_PRINCIPAL"
  | .notProvisionable .. => "NOT_PROVISIONABLE"
  | .invalidPageToken _ => "INVALID_PAGE_TOKEN"
  | .permissionDenied _ => "PERMISSION_DENIED"
  | .notFound _ => "NOT_FOUND"
  | .unauthenticated _ => "UNAUTHENTICATED"
  | .alreadyGranted _ => "ALREADY_GRANTED"
  | .notCurrentlyGranted _ => "NOT_CURRENTLY_GRANTED"
  | .transport .. => "TRANSPORT_ERROR"
  | .cancelled => "CANCELLED"
  | .invalidConfiguration _ => "INVALID_CONFIG"
  | .serialization _ => "SERIALIZATION_ERROR"

/-- The failure behind this one, where one is known. -/
def source : Failure → Option String
  | .transport _ source => source
  | _ => none

/-- Trying again may help. -/
def isTransient : Failure → Bool
  | .transport .. => true
  | _ => false

/-- The credentials do not suffice; a failure of another class counts when its text names the
status 403. -/
def isPermissionDenied (f : Failure) : Bool :=
  match f with
  | .permissionDenied _ => true
  | other => Text.contains other.message "status 403"

/-- The request itself was wrong. -/
def isInvalidArgument : Failure → Bool
  | .invalidArgument _ | .unsupportedRole .. | .unsupportedPrincipal .. | .notProvisionable ..
  | .invalidPageToken _ => true
  | _ => false

/-- The state that the request starts from does not hold. -/
def isPrecondition : Failure → Bool
  | .alreadyGranted _ | .notCurrentlyGranted _ => true
  | _ => false

end Failure

end AccessSync
