import PageMetadata.Call
import PageMetadata.Classifier
import PageMetadata.Codec.Inline
import PageMetadata.Codec.Structured
import PageMetadata.Collaborator.Basic
import PageMetadata.Stats

/-! # Typed and timed calls

A client encodes what it is asked to set, makes the request, and decodes what it gets. Each request
is timed under the name of its operation, whether it succeeds or not; a value that cannot be encoded
makes no request. A request that the collaborator refuses is an outcome, while a value that cannot
be encoded or decoded is an error of the client.
-/

namespace PageMetadata

/-- A call that was answered: what it returned, or the kind of its failure. -/
abbrev Outcome (α : Type) := Except ErrorKind α

structure Client (σ : Type) where
  collaborator : Collaborator σ
  classifier : Classifier
  layout : HeaderLayout

/-- What changes while a client is used: the collaborator, the shared memory, the timings and the
exchanges made so far. -/
structure Session (σ : Type) where
  state : σ
  memory : Memory
  stats : Stats
  exchanges : Array Exchange

namespace Session

variable {σ : Type}

/-- A session before its first request. -/
def start (state : σ) (memory : Memory) : Session σ := ⟨state, memory, .empty, #[]⟩

/-- Records a time that was measured elsewhere. -/
def record (session : Session σ) (name : String) (duration : Duration) : Session σ :=
  { session with stats := session.stats.record name duration }

/-- The timings are taken away. -/
def clearStats (session : Session σ) : Session σ := { session with stats := .empty }

/-- Turns to a memory, over which no exchange was made yet. -/
def enter (session : Session σ) (memory : Memory) : Session σ :=
  { session with memory, exchanges := #[] }

end Session

namespace Client

variable {σ : Type}

/-- Makes one request and records its time. -/
def exchange (client : Client σ) (session : Session σ) (request : Request) :
    Outcome request.Content × Session σ :=
  let (reply, state) := client.collaborator.respond session.state session.memory request
  let session := {
    state
    memory := session.memory.writeAll reply.writes
    stats := session.stats.record request.operation.name reply.elapsed
    exchanges := session.exchanges.push ⟨request, reply⟩ }
  (reply.result.mapError (client.classifier.classify request.operation), session)

/-- Expands the table of an address. -/
def enable (client : Client σ) (session : Session σ) (address : Address) :
    Outcome Unit × Session σ :=
  client.exchange session (.enable address)

/-- Tears down the metadata of the table of an address. -/
def disable (client : Client σ) (session : Session σ) (address : Address) :
    Outcome Unit × Session σ :=
  client.exchange session (.disable address)

/-- The request that sets a value, if the value has an encoding. -/
def setRequest (client : Client σ) (address : Address) :
    MetadataValue → Except CodecError Request
  | .inline metadata => metadata.encode.map (.setInline address)
  | .structured metadata => (metadata.encode client.layout).map (.setStructured address)

/-- Attaches a value to the page of an address, in the value's own encoding. -/
def set (client : Client σ) (session : Session σ) (address : Address) (value : MetadataValue) :
    Except CodecError (Outcome Unit) × Session σ :=
  match client.setRequest address value with
  | .error error => (.error error, session)
  | .ok request =>
    let (outcome, session) := client.exchange session request
    (.ok (outcome.map fun _ => ()), session)

/-- Reads the value of a page. The buffer of a structured read starts with zeros and holds a header
and exactly `payloadLength` bytes; an inline read ignores the length. -/
def get (client : Client σ) (session : Session σ) (address : Address) (encoding : Encoding)
    (payloadLength : Nat) : Except CodecError (Outcome MetadataValue) × Session σ :=
  match encoding with
  | .inline =>
    let (outcome, session) := client.exchange session (.getInline address)
    (.ok (outcome.map fun word => .inline (.decode word)), session)
  | .structured =>
    let buffer := List.replicate (client.layout.headerLength + payloadLength) 0
    match client.exchange session (.getStructured address buffer) with
    | (.error kind, session) => (.ok (.error kind), session)
    | (.ok bytes, session) =>
      ((StructuredMetadata.decode bytes client.layout).map fun metadata =>
        .ok (.structured metadata), session)

/-- Reads the value of a page with room for any number of payload bytes. Without a buffer that long
there is no request. -/
def getSized (client : Client σ) (session : Session σ) (address : Address) (encoding : Encoding)
    (payloadLength : Nat) :
    Except ArithmeticError (Except CodecError (Outcome MetadataValue) × Session σ) := do
  if encoding = .structured then
    let _ ← checkedLengthSum client.layout.headerLength payloadLength
  return client.get session address encoding payloadLength

/-- Makes a call; a read has room for so many payload bytes. -/
def call (client : Client σ) (session : Session σ) (call : Call) (payloadLength : Nat) :
    Except CodecError (Outcome (Option MetadataValue)) × Session σ :=
  match call with
  | .enable address =>
    let (outcome, session) := client.enable session address
    (.ok (outcome.map fun _ => none), session)
  | .disable address =>
    let (outcome, session) := client.disable session address
    (.ok (outcome.map fun _ => none), session)
  | .set address value =>
    let (answer, session) := client.set session address value
    (answer.map (·.map fun _ => none), session)
  | .get address encoding =>
    let (answer, session) := client.get session address encoding payloadLength
    (answer.map (·.map some), session)

end Client

end PageMetadata
