import PageMetadata.Collaborator.Interference
import PageMetadata.Json.Access
import PageMetadata.Serial.Outcome
import PageMetadata.Text.Digits

/-! # Exchanges as documents

An exchange is written as the name of its request, the address counted from a base, the argument,
and the result. Bytes are written as hexadecimal digits. A rule of interference is an object whose
absent members match anything or do nothing.
-/

namespace PageMetadata

open Json

/-- Bytes as a string of digits. -/
def Json.ofBytes (bytes : List UInt8) : Json := .text (Text.hexBytes bytes)

def Json.ofWord (word : UInt64) : Json := .ofNat word.toNat

/-- The argument of a request: a word, bytes, the length of a buffer, or nothing. -/
def Request.argumentJson : Request → Json
  | .setInline _ word => .ofWord word
  | .setStructured _ bytes => .ofBytes bytes
  | .getStructured _ buffer => .ofNat buffer.length
  | _ => .null

/-- What a successful request brought. -/
def Request.contentJson : (request : Request) → request.Content → Json
  | .getInline _, word => .ofWord word
  | .getStructured _ _, bytes => .ofBytes bytes
  | .enable _, _ => .null
  | .disable _, _ => .null
  | .setInline _ _, _ => .null
  | .setStructured _ _, _ => .null

def Exchange.toJson (base : Address) (exchange : Exchange) : Json :=
  let request := exchange.request
  let result :=
    match exchange.reply.result with
    | .ok content => Json.tagged "ok" (request.contentJson content)
    | .error errno => .tagged "errno" errno.toJson
  .array
    [.text request.kind.name, .ofWord (request.address.word - base.word), request.argumentJson,
      result]

namespace RequestKind

def reader : Reader RequestKind := enumeration name all

end RequestKind

namespace InterferenceRule

def ofJson? (document : Json) : Option InterferenceRule := do
  let call ← document.get? "call" Reader.count.optional
  let kind ← document.get? "op" RequestKind.reader.optional
  let flip ← document.get? "flip" Reader.word.optional
  let errno ← document.get? "errno" Errno.reader.optional
  let wordMask ← document.get? "xor_word" Reader.word.optional
  let byteMask ← document.get? "xor_byte" (Reader.pair Reader.count Reader.byte).optional
  return ⟨call, kind, flip, errno, wordMask, byteMask⟩

end InterferenceRule

end PageMetadata
