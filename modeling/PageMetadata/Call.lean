import PageMetadata.Address
import PageMetadata.Operation

/-! # Calls

A call is an operation at an address, and for a set the value as well. What a call looks like to the
collaborator is up to the client.
-/

namespace PageMetadata

inductive Call where
  | enable (address : Address)
  | disable (address : Address)
  | set (address : Address) (value : MetadataValue)
  | get (address : Address) (encoding : Encoding)
deriving DecidableEq

namespace Call

def address : Call → Address
  | .enable address => address
  | .disable address => address
  | .set address _ => address
  | .get address _ => address

def operation : Call → Operation
  | .enable _ => .enable
  | .disable _ => .disable
  | .set _ value => .set value.encoding
  | .get _ encoding => .get encoding

end Call

end PageMetadata
