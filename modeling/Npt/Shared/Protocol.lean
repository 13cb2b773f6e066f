import Mathlib.Data.List.Basic

/-!
Contract: the vocabulary of the load test (`shared/src/protocol.rs`).

Owns: addresses, identifiers, connection types, user activities and error
records, as far as the client, the server and the metrics use them.

Does not own: the wire messages, whose encoding is the work of an external
serialiser.
-/

namespace Npt.Shared

/-- A 128-bit identifier. `Uuid::new_v4` is a choice of the environment. -/
structure Uuid where
  bits : BitVec 128
deriving DecidableEq, Repr

/-- A socket address by its text: addresses are compared and displayed only. -/
structure SocketAddr where
  text : String
deriving DecidableEq, Repr

inductive ConnectionType where
  | tcp
  | udp
  | quic
deriving DecidableEq, Repr

inductive UserActivity where
  | webBrowsing (pagesToVisit : UInt32) (requestsPerPage : UInt32 × UInt32)
  | fileDownload (fileSize : UInt64) (chunkSize : UInt32 × UInt32)
  | fileUpload (fileSize : UInt64) (chunkSize : UInt32 × UInt32)
  | quicWebBrowsing (pagesToVisit : UInt32) (resourcesPerPage : UInt32 × UInt32)
      (concurrentRequests : UInt32)
deriving DecidableEq, Repr

inductive ErrorType where
  | connectionFailed
  | networkTimeout
  | serializationError
  | messageTooLarge
  | unexpectedDisconnection
  | protocolError
  | ioError
  | other
deriving DecidableEq, Repr

structure ErrorDetail where
  errorType : ErrorType
  message : String
  timestamp : Nat
  connectionId : Uuid
  context : Option String
deriving DecidableEq, Repr

end Npt.Shared
