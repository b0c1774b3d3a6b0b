import ScanTree.Ingest

/-!
# Scheduling readings

Requests to read one trace, or two for a comparison, are served by a worker in
the background.  Only the latest request counts: a newer one, or a
cancellation, makes all earlier ones stale.  A request that still waits is
replaced, a reading that is under way is told to stop when it asks, and
messages of stale requests are dropped when they are posted or received.

The client and the worker share a state.  Every function here is one step on
that state which nothing interrupts, so a run is any sequence of steps.
-/

namespace ScanTree

/-- A request to read one trace or to compare two. -/
structure Request where
  /-- The number of the request. -/
  id : Nat
  /-- The text of the first trace. -/
  first : String
  /-- The text of the second trace, if two are compared. -/
  second : Option String := none
deriving DecidableEq, Repr

/-- What a client learns about a request. -/
inductive Message where
  /-- A reading has come so far. -/
  | progress (request : Nat) (progress : Ingest.Progress)
  /-- All readings are done. -/
  | done (request : Nat) (first : Ingest.Result) (second : Option Ingest.Result)
  /-- A reading failed. -/
  | failure (request : Nat) (message : String)

/-- The number of the request that a message is about. -/
def Message.request : Message → Nat
  | progress request _ => request
  | done request _ _ => request
  | failure request _ => request

/-- What a worker does next. -/
inductive Phase where
  /-- Take the waiting request, or end if there is none. -/
  | ready
  /-- Begin to read a trace of the request: the first one, or the second one if
  the result of the first is there. -/
  | calling (request : Request) (first : Option Ingest.Result)
  /-- Go on with a reading. -/
  | reading (request : Request) (first : Option Ingest.Result) (program : Ingest.Program)
  /-- Post the last message about a request. -/
  | posting (message : Message)

/-- The state that a client and its workers share. -/
structure Scheduler where
  /-- The request that waits for the worker. -/
  pending : Option Request := none
  /-- Whether there is a worker. -/
  running : Bool := false
  /-- The number of the next request or cancellation. -/
  nextId : Nat := 1
  /-- The number of the latest request or cancellation. -/
  latestId : Nat := 0
  /-- The messages that were posted and not yet received, the oldest first. -/
  queue : List Message := []
  /-- What the workers that have not ended do next. -/
  workers : List Phase := []

namespace Phase

/-- The text and the label of the trace that the worker begins to read. -/
def call? : Phase → Option (String × String)
  | calling request none => some (request.first, Side.first.label)
  | calling request (some _) => some (request.second.getD "", Side.second.label)
  | _ => none

/-- What a worker does when a reading is done. -/
def afterResult (request : Request) (first : Option Ingest.Result) (result : Ingest.Result) :
    Phase :=
  match first, request.second with
  | none, none => posting (.done request.id result none)
  | none, some _ => calling request (some result)
  | some first, _ => posting (.done request.id first (some result))

end Phase

namespace Scheduler

/-- Whether the request of this number no longer counts. -/
def isStale (scheduler : Scheduler) (request : Nat) : Bool :=
  request ≠ scheduler.latestId

/-- Put a message into the queue, unless its request is stale. -/
def post (scheduler : Scheduler) (message : Message) : Scheduler :=
  if scheduler.isStale message.request then scheduler
  else { scheduler with queue := scheduler.queue ++ [message] }

/-! ## Steps of the client -/

/-- Request to read one trace or to compare two, in the place of a request that
still waits.  A worker is started unless there is one. -/
def schedule (scheduler : Scheduler) (first : String) (second : Option String) :
    Nat × Scheduler :=
  let id := scheduler.nextId
  (id,
    { scheduler with
      pending := some ⟨id, first, second⟩
      nextId := id + 1
      latestId := id
      running := true
      workers := if scheduler.running then scheduler.workers else scheduler.workers ++ [.ready] })

/-- Give up the latest request. -/
def cancel (scheduler : Scheduler) : Scheduler :=
  { scheduler with
    pending := none
    latestId := scheduler.nextId
    nextId := scheduler.nextId + 1 }

/-- Take the oldest message out of the queue, and drop it if it is stale. -/
def receive (scheduler : Scheduler) : Option Message × Scheduler :=
  match scheduler.queue with
  | [] => (none, scheduler)
  | message :: rest =>
    (if scheduler.isStale message.request then none else some message,
      { scheduler with queue := rest })

/-- Receive until the queue is empty. -/
def drain (scheduler : Scheduler) : List Message × Scheduler :=
  (scheduler.queue.filter fun message => !scheduler.isStale message.request,
    { scheduler with queue := [] })

/-! ## Steps of a worker -/

/-- The next step of a worker and what it does then, none if it has ended.  If
it begins to read a trace, `program` is the reading. -/
def advance (scheduler : Scheduler) (program : Ingest.Program) :
    Phase → Scheduler × Option Phase
  | .ready =>
    match scheduler.pending with
    | none => ({ scheduler with running := false }, none)
    | some request => ({ scheduler with pending := none }, some (.calling request none))
  | .calling request first => (scheduler, some (.reading request first program))
  | .reading request first (.poll next) =>
    (scheduler, some (.reading request first (next (scheduler.isStale request.id))))
  | .reading request first (.report progress next) =>
    (scheduler.post (.progress request.id progress), some (.reading request first next))
  | .reading request first (.finished result) =>
    (scheduler, some (.afterResult request first result))
  | .reading _ _ (.cancelled _) => (scheduler, some .ready)
  | .reading request _ (.failed message) =>
    (scheduler, some (.posting (.failure request.id message)))
  | .posting message => (scheduler.post message, some .ready)

/-- The next step of the worker at a place among the workers. -/
def work (scheduler : Scheduler) (place : Nat) (program : Ingest.Program) : Scheduler :=
  match scheduler.workers[place]? with
  | none => scheduler
  | some phase =>
    let (later, next) := scheduler.advance program phase
    { later with
      workers :=
        later.workers.take place ++ next.toList ++ later.workers.drop (place + 1) }

end Scheduler

end ScanTree
