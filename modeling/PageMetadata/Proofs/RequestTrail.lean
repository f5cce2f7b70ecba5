import PageMetadata.Collaborator.KeyedStore
import PageMetadata.Proofs.Client
import PageMetadata.Proofs.Stats

/-! # The requests of a client

A client asks its collaborator for what it is called for, and for nothing else: the collaborator is
left as if it had been asked, without the client, for one request of each call that has one. The
statistics are those of these requests, whatever the answers are. A value without an encoding, and a
read without a buffer, get no further than the client.
-/

namespace PageMetadata

variable {σ : Type}

/-- What requests to a collaborator have led to. -/
structure Trail (σ : Type) where
  exchanges : List Exchange
  state : σ
  memory : Memory

/-- One more request. -/
def Trail.ask (collaborator : Collaborator σ) (trail : Trail σ) (request : Request) : Trail σ :=
  let (reply, state) := collaborator.respond trail.state trail.memory request
  ⟨trail.exchanges ++ [⟨request, reply⟩], state, trail.memory.writeAll reply.writes⟩

/-- Requests one after another, with no client in between. -/
def Collaborator.trail (collaborator : Collaborator σ) (state : σ) (memory : Memory)
    (requests : List Request) : Trail σ :=
  requests.foldl (Trail.ask collaborator) ⟨[], state, memory⟩

namespace Collaborator

variable (collaborator : Collaborator σ) (state : σ) (memory : Memory) (requests : List Request)

theorem trail_append_singleton (request : Request) :
    collaborator.trail state memory (requests ++ [request]) =
      (collaborator.trail state memory requests).ask collaborator request :=
  List.foldl_append

/-- The exchanges are for the requests, each once and in their order. -/
theorem map_request_trail :
    (collaborator.trail state memory requests).exchanges.map (·.request) = requests := by
  induction requests using List.reverseRecOn with
  | nil => rfl
  | append_singleton requests request ih =>
    rw [trail_append_singleton, Trail.ask]
    simp only [List.map_append, ih, List.map_cons, List.map_nil]

end Collaborator

namespace Session

/-- What a session shows of its collaborator. -/
def trail (session : Session σ) : Trail σ :=
  ⟨session.exchanges.toList, session.state, session.memory⟩

/-- The session is where these requests lead, and they are what was timed. -/
structure Follows (session : Session σ) (collaborator : Collaborator σ) (state : σ)
    (memory : Memory) (requests : List Request) : Prop where
  trail : session.trail = collaborator.trail state memory requests
  stats : session.stats = .collect (session.exchanges.toList.map Exchange.timing)

namespace Follows

variable {client : Client σ} {state : σ} {memory : Memory} {requests : List Request}
  {session : Session σ}

theorem start (collaborator : Collaborator σ) (state : σ) (memory : Memory) :
    (Session.start state memory).Follows collaborator state memory [] := ⟨rfl, rfl⟩

/-- An exchange of the client is one more request to the collaborator. -/
theorem exchange (follows : session.Follows client.collaborator state memory requests)
    (request : Request) :
    (client.exchange session request).2.Follows client.collaborator state memory
      (requests ++ [request]) where
  trail := by
    rw [Collaborator.trail_append_singleton, ← follows.trail]
    simp only [Client.exchange, Session.trail, Trail.ask, Array.toList_push]
  stats := by
    simp only [Client.exchange, Array.toList_push, List.map_append, List.map_cons, List.map_nil,
      follows.stats]
    exact (Stats.collect_append_singleton _ _ _).symm

theorem map_request (follows : session.Follows client.collaborator state memory requests) :
    session.exchanges.toList.map (·.request) = requests := by
  have same : session.exchanges.toList =
      (client.collaborator.trail state memory requests).exchanges :=
    congrArg Trail.exchanges follows.trail
  rw [same, Collaborator.map_request_trail]

theorem samples (follows : session.Follows client.collaborator state memory requests)
    (operation : Operation) :
    session.stats.samples operation.name =
      (session.exchanges.toList.filter (·.request.operation = operation)).map
        (·.reply.elapsed) := by
  rw [follows.stats, Stats.samples_collect, Exchange.times_of_operation]

theorem names (follows : session.Follows client.collaborator state memory requests) :
    session.stats.names = (requests.map (·.operation.name)).eraseDups := by
  rw [follows.stats, Stats.names_collect, List.map_map, ← follows.map_request, List.map_map]
  rfl

end Follows

end Session

namespace Client

/-- Makes calls one after another, as far as there are buffers for them. -/
def callAll (client : Client σ) (session : Session σ) (calls : List SizedCall) :
    Except ArithmeticError (Session σ) :=
  calls.foldlM (fun session sized => (client.callSized session sized).map Prod.snd) session

/-- The request of a call, unless its value has no encoding. -/
def request? (client : Client σ) (sized : SizedCall) : Option Request :=
  (client.request sized.call sized.payloadLength).toOption

/-- A value without an encoding is the client's own error, and nothing happens. -/
theorem callSized_eq_of_unencodable (client : Client σ) (session : Session σ) {address : Address}
    {value : MetadataValue} {error : CodecError} (payloadLength : Nat)
    (unencodable : value.encode client.layout = .error error) :
    client.callSized session ⟨.set address value, payloadLength⟩ = .ok (.error error, session) := by
  have unrequested : client.request (.set address value) payloadLength = .error error :=
    request_eq_error_iff.mpr ⟨address, value, rfl, unencodable⟩
  have buffer : SizedCall.HasBuffer client.layout ⟨.set address value, payloadLength⟩ := by
    rintro other ⟨⟩
  rw [client.callSized_eq session buffer, call_eq, unrequested]

variable {client : Client σ} {state : σ} {memory : Memory} {requests : List Request}
  {session : Session σ}

/-- A call makes its request, if it has one. -/
theorem exists_callSized_follows {sized : SizedCall} (buffer : sized.HasBuffer client.layout)
    (follows : session.Follows client.collaborator state memory requests) :
    ∃ answer next, client.callSized session sized = .ok (answer, next) ∧
      next.Follows client.collaborator state memory
        (requests ++ (client.request? sized).toList) := by
  rw [client.callSized_eq session buffer, call_eq, request?]
  cases client.request sized.call sized.payloadLength with
  | error error =>
    refine ⟨_, session, rfl, ?_⟩
    rw [Except.toOption, Option.toList_none, List.append_nil]
    exact follows
  | ok request => exact ⟨_, _, rfl, follows.exchange request⟩

/-- Calls make their requests in their order. -/
theorem exists_callAll_follows {calls : List SizedCall}
    (buffered : ∀ sized ∈ calls, sized.HasBuffer client.layout)
    (follows : session.Follows client.collaborator state memory requests) :
    ∃ last, client.callAll session calls = .ok last ∧
      last.Follows client.collaborator state memory
        (requests ++ calls.filterMap client.request?) := by
  induction calls generalizing session requests with
  | nil =>
    refine ⟨session, rfl, ?_⟩
    rw [List.filterMap_nil, List.append_nil]
    exact follows
  | cons sized calls ih =>
    obtain ⟨answer, next, called, continues⟩ :=
      exists_callSized_follows (buffered sized List.mem_cons_self) follows
    obtain ⟨last, performed, ended⟩ :=
      ih (fun other later => buffered other (List.mem_cons_of_mem sized later)) continues
    refine ⟨last, ?_, ?_⟩
    · rw [callAll, List.foldlM_cons, called]
      exact performed
    · have appended : (client.request? sized).toList ++ calls.filterMap client.request? =
          (sized :: calls).filterMap client.request? := by
        rw [List.filterMap_cons]
        cases client.request? sized <;> rfl
      rw [← appended, ← List.append_assoc]
      exact ended

/-- For any collaborator, any rules and any layout: a call whose value has no encoding is refused
with that error and leaves the whole session as it was, and a read without a buffer is not made.
From the start on, all other calls make their requests, each once and in their order, and nothing
else reaches the collaborator. Each operation has the times of its requests in the statistics, and
the names come in the order of the first requests. -/
theorem calls_make_one_timed_request_each (client : Client σ) :
    (∀ session address value error payloadLength, value.encode client.layout = .error error →
      client.callSized session ⟨.set address value, payloadLength⟩ = .ok (.error error, session)) ∧
    (∀ session address payloadLength,
      lengthLimit ≤ client.layout.headerLength + payloadLength →
      client.layout.headerLength + payloadLength < UInt64.size →
        client.callSized session ⟨.get address .structured, payloadLength⟩ = .error .capacity) ∧
    ∀ state memory calls, (∀ sized ∈ calls, sized.HasBuffer client.layout) →
      ∃ session, client.callAll (.start state memory) calls = .ok session ∧
        session.trail = client.collaborator.trail state memory (calls.filterMap client.request?) ∧
        session.exchanges.toList.map (·.request) = calls.filterMap client.request? ∧
        (∀ operation : Operation, session.stats.samples operation.name =
          (session.exchanges.toList.filter (·.request.operation = operation)).map
            (·.reply.elapsed)) ∧
        session.stats.names =
          ((calls.filterMap client.request?).map (·.operation.name)).eraseDups := by
  refine ⟨?_, ?_, ?_⟩
  · intro session address value error payloadLength unencodable
    exact client.callSized_eq_of_unencodable session payloadLength unencodable
  · intro session address payloadLength long counted
    exact client.callSized_eq_capacity session address long counted
  · intro state memory calls buffered
    obtain ⟨session, called, follows⟩ :=
      exists_callAll_follows buffered (.start client.collaborator state memory)
    exact ⟨session, called, follows.trail, follows.map_request, follows.samples, follows.names⟩

/-- Of five calls, one sets a value without an encoding, one reads a buffer that does not decode, and
one finds no data: the first alone makes no request. -/
theorem calls_to_store_make_one_timed_request_each :
    let client : Client KeyedStore := ⟨KeyedStore.collaborator, .standard, .compact⟩
    let calls : List SizedCall :=
      [⟨.enable ⟨0x1000⟩, 0⟩, ⟨.set ⟨0x1000⟩ (.inline ⟨.scalar, 0x8000000000000000⟩), 0⟩,
        ⟨.set ⟨0x1000⟩ (.structured ⟨1, 2, [7]⟩), 0⟩, ⟨.get ⟨0x1000⟩ .structured, 0⟩,
        ⟨.get ⟨0x2000⟩ .inline, 0⟩]
    ∃ session, client.callAll (.start .empty .empty) calls = .ok session ∧
      session.exchanges.toList.map (·.request) =
        [.enable ⟨0x1000⟩, .setStructured ⟨0x1000⟩ [1, 0, 2, 0, 1, 0, 0, 0, 7],
          .getStructured ⟨0x1000⟩ [0, 0, 0, 0, 0, 0, 0, 0], .getInline ⟨0x2000⟩] ∧
      session.stats.names = ["enable_pte_meta", "set_pte_meta mdp=1", "get_pte_meta mdp=1",
        "get_pte_meta mdp=0"] ∧
      ∀ next, client.callSized next ⟨.set ⟨0x1000⟩ (.inline ⟨.scalar, 0x8000000000000000⟩), 0⟩ =
        .ok (.error (.valueOverflow 0x8000000000000000), next) := by
  intro client calls
  have buffered : ∀ sized ∈ calls, sized.HasBuffer client.layout := by
    intro sized listed address read
    simp only [calls, List.mem_cons, List.not_mem_nil, or_false] at listed
    rcases listed with rfl | rfl | rfl | rfl | rfl <;> cases read
    decide
  have requests : calls.filterMap client.request? =
      [.enable ⟨0x1000⟩, .setStructured ⟨0x1000⟩ [1, 0, 2, 0, 1, 0, 0, 0, 7],
        .getStructured ⟨0x1000⟩ [0, 0, 0, 0, 0, 0, 0, 0], .getInline ⟨0x2000⟩] := by
    decide
  obtain ⟨refused, _, made⟩ := calls_make_one_timed_request_each client
  obtain ⟨session, called, _, exchanged, _, names⟩ := made .empty .empty calls buffered
  rw [requests] at exchanged names
  refine ⟨session, called, exchanged, ?_, ?_⟩
  · rw [names]
    decide
  · exact fun next => refused next _ _ _ 0 (by decide)

/-- With room for half the address space the length of the buffer is still a word, but there is no
such buffer: the read makes no request. -/
theorem read_without_buffer_makes_no_request :
    let client : Client KeyedStore := ⟨KeyedStore.collaborator, .standard, .compact⟩
    let sized : SizedCall := ⟨.get ⟨0x1000⟩ .structured, 0x8000000000000000⟩
    client.layout.headerLength + sized.payloadLength < UInt64.size ∧
      (client.request? sized).isSome = true ∧
      client.callAll (.start .empty .empty) [sized] = .error .capacity ∧
      ¬ ∃ session, client.callAll (.start .empty .empty) [sized] = .ok session ∧
        session.exchanges.toList.map (·.request) = [sized].filterMap client.request? := by
  intro client sized
  have counted : client.layout.headerLength + sized.payloadLength < UInt64.size := by decide
  have unmade : client.callAll (.start .empty .empty) [sized] = .error .capacity := by
    rw [callAll, List.foldlM_cons, client.callSized_eq_capacity _ _ (by decide) counted]
    rfl
  refine ⟨counted, rfl, unmade, ?_⟩
  rintro ⟨session, called, _⟩
  cases unmade.symm.trans called

end Client

end PageMetadata
