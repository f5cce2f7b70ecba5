import PageMetadata.Collaborator.Basic

/-! # Interference with a collaborator

Rules disturb single requests on their way to a collaborator: they invert bytes of the caller's
memory, refuse the request, or change what was read. Requests are numbered from 0 on, and a rule
applies to one number, one kind of request, or both.
-/

namespace PageMetadata

/-- The kinds of request. -/
inductive RequestKind where
  | enable
  | disable
  | setInline
  | setStructured
  | getInline
  | getStructured
deriving DecidableEq, Repr

namespace RequestKind

def name : RequestKind → String
  | .enable => "enable"
  | .disable => "disable"
  | .setInline => "set_inline"
  | .setStructured => "set_structured"
  | .getInline => "get_inline"
  | .getStructured => "get_structured"

def all : List RequestKind :=
  [.enable, .disable, .setInline, .setStructured, .getInline, .getStructured]

end RequestKind

def Request.kind : Request → RequestKind
  | .enable _ => .enable
  | .disable _ => .disable
  | .setInline _ _ => .setInline
  | .setStructured _ _ => .setStructured
  | .getInline _ => .getInline
  | .getStructured _ _ => .getStructured

/-- One rule; an effect that is absent does nothing. -/
structure InterferenceRule where
  call : Option Nat
  kind : Option RequestKind
  /-- Inverts the byte this far above the request's address. -/
  flip : Option UInt64
  /-- Refuses the request, which then does not reach the collaborator. -/
  errno : Option Errno
  /-- Changes the word that was read. -/
  wordMask : Option UInt64
  /-- Changes one byte of the buffer that was read. -/
  byteMask : Option (Nat × UInt8)

def InterferenceRule.applies (rule : InterferenceRule) (call : Nat) (request : Request) : Bool :=
  rule.call.all (· = call) && rule.kind.all (· = request.kind)

/-- A collaborator's state behind the rules. -/
structure Interfered (σ : Type) where
  inner : σ
  /-- The number of requests made so far. -/
  calls : Nat
  /-- Refuses every request that the rules let pass. -/
  refusal : Option Errno

namespace Interference

/-- The writes that invert the bytes at the given addresses, one after another. -/
def inversions (memory : Memory) : List Address → List (Address × UInt8)
  | [] => []
  | address :: addresses =>
    match memory.read? address with
    | none => inversions memory addresses
    | some byte =>
      (address, ~~~byte) :: inversions (memory.write address (~~~byte)) addresses

private def maskByte (bytes : List UInt8) (index : Nat) (mask : UInt8) : List UInt8 :=
  bytes.modify index (· ^^^ mask)

/-- What was read, with the masks of the rules applied. -/
def disturb (rules : List InterferenceRule) :
    (request : Request) → request.Content → request.Content
  | .getInline _, word => (rules.filterMap InterferenceRule.wordMask).foldl (· ^^^ ·) word
  | .getStructured _ _, bytes =>
    (rules.filterMap InterferenceRule.byteMask).foldl
      (fun bytes (index, mask) => maskByte bytes index mask) bytes
  | .enable _, content => content
  | .disable _, content => content
  | .setInline _ _, content => content
  | .setStructured _ _, content => content

/-- The collaborator behind rules. -/
def wrap {σ : Type} (rules : List InterferenceRule) (collaborator : Collaborator σ) :
    Collaborator (Interfered σ) where
  respond state memory request :=
    let active := rules.filter fun rule => rule.applies state.calls request
    let flips := active.filterMap InterferenceRule.flip
    let writes := inversions memory (flips.map fun distance => ⟨request.address.word + distance⟩)
    let next := { state with calls := state.calls + 1 }
    match (active.findSome? InterferenceRule.errno).or state.refusal with
    | some errno => (⟨.error errno, writes, .zero⟩, next)
    | none =>
      let (reply, inner) :=
        collaborator.respond state.inner (memory.writeAll writes) request
      (⟨reply.result.map (disturb active request), writes ++ reply.writes, reply.elapsed⟩,
        { next with inner })

end Interference

end PageMetadata
