import Mathlib.Init

/-! # Requests to the driver and its answers -/

namespace OciCcm.Csi

inductive Code where
  | unknown
  | invalidArgument
  | deadlineExceeded
  | notFound
  | alreadyExists
  | aborted
  | outOfRange
  | internal
deriving DecidableEq, Repr

/-- The error of a gRPC call. -/
structure Status where
  code : Code
  message : String
deriving DecidableEq, Repr

/-- The clients that a controller creates. -/
inductive ClientKind where
  | networking
  | identity
  | fss
  | lustre

/-- The error for the first client that cannot be created. -/
def checkClients : Option ClientKind → Except Status Unit
  | none => .ok ()
  | some kind => .error ⟨.internal, "Unable to create " ++ (match kind with
      | .networking => "networking"
      | .identity => "identity"
      | .fss => "fss"
      | .lustre => "lustre") ++ " client"⟩

/-- The outcome of a command: one that fails may have had its effect. -/
inductive Outcome where
  | success
  | failure
  | failureAfterEffect
deriving DecidableEq, Repr

inductive AccessMode where
  | unknown
  | singleNodeWriter
  | singleNodeReaderOnly
  | multiNodeReaderOnly
  | multiNodeSingleWriter
  | multiNodeMultiWriter
  | singleNodeSingleWriter
  | singleNodeMultiWriter
deriving DecidableEq, Repr

def AccessMode.text : AccessMode → String
  | unknown => "UNKNOWN"
  | singleNodeWriter => "SINGLE_NODE_WRITER"
  | singleNodeReaderOnly => "SINGLE_NODE_READER_ONLY"
  | multiNodeReaderOnly => "MULTI_NODE_READER_ONLY"
  | multiNodeSingleWriter => "MULTI_NODE_SINGLE_WRITER"
  | multiNodeMultiWriter => "MULTI_NODE_MULTI_WRITER"
  | singleNodeSingleWriter => "SINGLE_NODE_SINGLE_WRITER"
  | singleNodeMultiWriter => "SINGLE_NODE_MULTI_WRITER"

end OciCcm.Csi
