import PageMetadata.Collaborator.Basic
import PageMetadata.Registry

/-! # A plain store

The store keeps words and buffers by exact address and knows neither pages nor tables. Enabling,
disabling and setting always succeed; reading what was never set finds no data.
-/

namespace PageMetadata

structure KeyedStore where
  words : Registry Address UInt64
  buffers : Registry Address (List UInt8)

namespace KeyedStore

def empty : KeyedStore := ⟨.empty, .empty⟩

/-- The stored bytes as far as both go, then the rest of the buffer. -/
def fill (stored buffer : List UInt8) : List UInt8 :=
  stored.take buffer.length ++ buffer.drop stored.length

def respond (store : KeyedStore) (request : Request) : Reply request × KeyedStore :=
  match request with
  | .enable _ => (⟨.ok (), [], .zero⟩, store)
  | .disable _ => (⟨.ok (), [], .zero⟩, store)
  | .setInline address word =>
    (⟨.ok (), [], .zero⟩, { store with words := store.words.insert address word })
  | .setStructured address bytes =>
    (⟨.ok (), [], .zero⟩, { store with buffers := store.buffers.insert address bytes })
  | .getInline address =>
    match store.words.get? address with
    | some word => (⟨.ok word, [], .zero⟩, store)
    | none => (⟨.error .enodata, [], .zero⟩, store)
  | .getStructured address buffer =>
    match store.buffers.get? address with
    | some stored => (⟨.ok (fill stored buffer), [], .zero⟩, store)
    | none => (⟨.error .enodata, [], .zero⟩, store)

/-- The store as a collaborator; it never touches the caller's memory. -/
def collaborator : Collaborator KeyedStore where
  respond store _ request := store.respond request

end KeyedStore

end PageMetadata
