import Mathlib.Init

/-! # Errors of calls to the cloud -/

namespace OciCcm.Client

/-- The errors of calls to the cloud. -/
inductive ClientError where
  | errNotFound
  | serviceError (httpStatusCode : Nat) (message : String)
  | other (message : String)
deriving DecidableEq, Repr

def isNotFound : ClientError → Bool
  | .errNotFound => true
  | .serviceError httpStatusCode _ => httpStatusCode = 404
  | .other _ => false

def ClientError.error : ClientError → String
  | errNotFound => "not found"
  | serviceError _ message => message
  | other message => message

end OciCcm.Client
