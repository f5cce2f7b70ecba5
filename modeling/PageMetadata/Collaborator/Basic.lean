import PageMetadata.Duration
import PageMetadata.Memory
import PageMetadata.Operation

/-! # Collaborators

A collaborator is whatever answers the requests: a kernel, a simulator, or anything else. It has a
state of its own, sees the caller's memory and may write to it, and takes time for each request.
Nothing is assumed about its answers. An exchange is a request together with its answer.
-/

namespace PageMetadata

/-- A request for structured metadata brings the buffer that is to be filled. -/
inductive Request where
  | enable (address : Address)
  | disable (address : Address)
  | setInline (address : Address) (word : UInt64)
  | setStructured (address : Address) (bytes : List UInt8)
  | getInline (address : Address)
  | getStructured (address : Address) (buffer : List UInt8)
deriving DecidableEq

namespace Request

def address : Request → Address
  | .enable address => address
  | .disable address => address
  | .setInline address _ => address
  | .setStructured address _ => address
  | .getInline address => address
  | .getStructured address _ => address

def operation : Request → Operation
  | .enable _ => .enable
  | .disable _ => .disable
  | .setInline _ _ => .set .inline
  | .setStructured _ _ => .set .structured
  | .getInline _ => .get .inline
  | .getStructured _ _ => .get .structured

/-- What a successful answer brings: a word, the filled buffer, or nothing. -/
@[reducible]
def Content : Request → Type
  | .getInline _ => UInt64
  | .getStructured _ _ => List UInt8
  | _ => Unit

end Request

/-- The answer to a request. -/
structure Reply (request : Request) where
  result : Except Errno request.Content
  /-- Bytes of the caller's memory that were overwritten. -/
  writes : List (Address × UInt8)
  elapsed : Duration

structure Exchange where
  request : Request
  reply : Reply request

/-- How requests are answered, from a state and the caller's memory. -/
structure Collaborator (σ : Type) where
  respond : σ → Memory → (request : Request) → Reply request × σ

end PageMetadata
