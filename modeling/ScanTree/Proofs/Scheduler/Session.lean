import ScanTree.Scheduler

/-!
# Sessions

A session is a run of one client and the workers that it starts.  The client
schedules, cancels and drains.  A drain takes the messages out of the queue one
by one and judges each after it was taken, and the workers may step in between,
while the client makes no other call.  A run is any sequence of moves; a move
that is not possible does nothing.  What the calls return is written to a log.

A drain that is not interrupted returns what the scheduler's own drain does.
-/

namespace ScanTree

/-- What the client is doing. -/
inductive Client where
  /-- It may make a call. -/
  | idle
  /-- It drains, and has kept these messages. -/
  | draining (kept : List Message)
  /-- It drains, has kept these messages and taken one more. -/
  | judging (kept : List Message) (taken : Message)

/-- What is seen of a session: that a request was made or the latest one cancelled,
what a drain returned, and that a worker began to read a text under a label for the
request of a number. -/
inductive Entry where
  | scheduled (request : Request)
  | cancelled
  | drained (messages : List Message)
  | reading (request : Nat) (text label : String)

/-- A step of the client, which goes on to drain by proceeding, or of the worker at
a place. -/
inductive Move where
  | schedule (first : String) (second : Option String)
  | cancel
  | drain
  | proceed
  | work (place : Nat)

/-- How texts are read: the reading of a text under a label, after what has been
seen before. -/
abbrev Reader := List Entry → String → String → Ingest.Program

/-- The usual way to read traces, with room for so many lists and objects in each
other. -/
def Reader.standard (room : Nat) : Reader :=
  fun _ => Ingest.Program.ofTrace room Ingest.reportEvery

/-- The state of a session. -/
structure Session where
  /-- What the client and the workers share. -/
  scheduler : Scheduler := {}
  /-- What the client is doing. -/
  client : Client := .idle
  /-- What has been seen, in order. -/
  log : List Entry := []

namespace Session

/-- The client requests to read one trace or to compare two. -/
def schedule (session : Session) (first : String) (second : Option String) : Session :=
  let (id, scheduler) := session.scheduler.schedule first second
  { session with
    scheduler := scheduler
    log := session.log ++ [.scheduled ⟨id, first, second⟩] }

/-- The client gives up the latest request. -/
def cancel (session : Session) : Session :=
  { session with
    scheduler := session.scheduler.cancel
    log := session.log ++ [.cancelled] }

/-- One step of a drain. -/
def proceed (session : Session) : Session :=
  match session.client with
  | .idle => session
  | .draining kept =>
    match session.scheduler.queue with
    | [] => { session with client := .idle, log := session.log ++ [.drained kept] }
    | message :: rest =>
      { session with
        scheduler := { session.scheduler with queue := rest }
        client := .judging kept message }
  | .judging kept taken =>
    { session with
      client :=
        .draining (if session.scheduler.isStale taken.request then kept else kept ++ [taken]) }

/-- One step of the worker at a place. -/
def work (read : Reader) (session : Session) (place : Nat) : Session :=
  match session.scheduler.workers[place]? with
  | none => session
  | some phase =>
    match phase, phase.call? with
    | .calling request _, some (text, label) =>
      { session with
        scheduler := session.scheduler.work place (read session.log text label)
        log := session.log ++ [.reading request.id text label] }
    -- No reading begins, so it does not matter which one is given.
    | _, _ => { session with scheduler := session.scheduler.work place (.failed "") }

/-- The session after a move. -/
def move (read : Reader) (session : Session) : Move → Session
  | .schedule first second =>
    match session.client with
    | .idle => session.schedule first second
    | _ => session
  | .cancel =>
    match session.client with
    | .idle => session.cancel
    | _ => session
  | .drain =>
    match session.client with
    | .idle => { session with client := .draining [] }
    | _ => session
  | .proceed => session.proceed
  | .work place => session.work read place

/-- The session after moves. -/
def run (read : Reader) (session : Session) (moves : List Move) : Session :=
  moves.foldl (move read) session

/-- The messages that drains have returned, in order. -/
def returned (session : Session) : List Message :=
  session.log.flatMap fun
    | .drained messages => messages
    | _ => []

/-- The messages about one request that drains have returned, in order. -/
def returnedFor (session : Session) (request : Nat) : List Message :=
  session.returned.filter (·.request = request)

/-- The number of drains that have returned. -/
def drains (session : Session) : Nat :=
  session.log.countP fun
    | .drained _ => true
    | _ => false

/-- The request that was scheduled last, unless the client has cancelled since. -/
def latest? (session : Session) : Option Request :=
  (session.log.filterMap fun
    | .scheduled request => some (some request)
    | .cancelled => some none
    | _ => none).getLast?.join

theorem run_append (read : Reader) (session : Session) (first second : List Move) :
    session.run read (first ++ second) = (session.run read first).run read second :=
  List.foldl_append

/-! ## What the moves leave as it is -/

section Client

variable (session : Session) (first : String) (second : Option String)

@[simp]
theorem returned_schedule : (session.schedule first second).returned = session.returned := by
  simp [schedule, returned]

@[simp]
theorem returned_cancel : session.cancel.returned = session.returned := by
  simp [cancel, returned]

@[simp]
theorem latest?_schedule :
    (session.schedule first second).latest? =
      some ⟨session.scheduler.nextId, first, second⟩ := by
  simp [schedule, Scheduler.schedule, latest?]

@[simp]
theorem latest?_cancel : session.cancel.latest? = none := by
  simp [cancel, latest?]

@[simp]
theorem latest?_proceed : session.proceed.latest? = session.latest? := by
  unfold proceed
  split
  · rfl
  · split <;> simp [latest?]
  · rfl

theorem scheduled_mem_log_of_latest? {request : Request} (latest : session.latest? = some request) :
    .scheduled request ∈ session.log := by
  have last := List.mem_of_getLast? (Option.join_eq_some_iff.mp latest)
  obtain ⟨entry, mem, same⟩ := List.mem_filterMap.mp last
  cases entry with
  | scheduled other =>
      cases same
      exact mem
  | _ => cases same

theorem scheduled_mem_log_schedule {request : Request} :
    .scheduled request ∈ (session.schedule first second).log ↔
      .scheduled request ∈ session.log ∨
        request = ⟨session.scheduler.nextId, first, second⟩ := by
  simp [schedule, Scheduler.schedule]

theorem scheduled_mem_log_cancel {request : Request} :
    .scheduled request ∈ session.cancel.log ↔ .scheduled request ∈ session.log := by
  simp [cancel]

end Client

section Work

variable (read : Reader) (session : Session) (place : Nat)

/-- The state is changed by a step of the worker, which is given the reading
that it begins. -/
theorem exists_scheduler_work :
    ∃ program, (session.work read place).scheduler = session.scheduler.work place program ∧
      ∀ phase text label, session.scheduler.workers[place]? = some phase →
        phase.call? = some (text, label) → program = read session.log text label := by
  unfold work
  split
  next absent => exact ⟨.failed "", by simp [Scheduler.work, absent], by simp [absent]⟩
  next phase present =>
    split
    next request first text label call =>
      refine ⟨read session.log text label, rfl, ?_⟩
      intro other _ _ same otherCall
      cases present.symm.trans same
      cases call.symm.trans otherCall
      rfl
    next silent =>
      refine ⟨.failed "", rfl, ?_⟩
      intro other text label same call
      rw [Option.some.inj (present.symm.trans same)] at silent
      cases other with
      | calling request first => exact (silent request first text label rfl call).elim
      | _ => cases call

@[simp]
theorem client_work : (session.work read place).client = session.client := by
  unfold work
  split
  · rfl
  · split <;> rfl

@[simp]
theorem returned_work : (session.work read place).returned = session.returned := by
  unfold work
  split
  · rfl
  · split <;> simp [returned]

@[simp]
theorem latest?_work : (session.work read place).latest? = session.latest? := by
  unfold work
  split
  · rfl
  · split <;> simp [latest?]

theorem scheduled_mem_log_work {request : Request} :
    .scheduled request ∈ (session.work read place).log ↔ .scheduled request ∈ session.log := by
  unfold work
  split
  · rfl
  · split <;> simp

end Work

/-! ## Drains that are not interrupted -/

/-- Taking a message and judging it at once is receiving it. -/
theorem proceed_proceed {session : Session} {kept : List Message}
    (draining : session.client = .draining kept) (nonempty : session.scheduler.queue ≠ []) :
    session.proceed.proceed =
      { session with
        scheduler := session.scheduler.receive.2
        client := .draining (kept ++ session.scheduler.receive.1.toList) } := by
  cases queue : session.scheduler.queue with
  | nil => exact absurd queue nonempty
  | cons message rest =>
      have staleSame :
          Scheduler.isStale { session.scheduler with queue := rest } message.request =
            session.scheduler.isStale message.request := rfl
      simp only [proceed, draining, queue, Scheduler.receive, staleSame]
      cases session.scheduler.isStale message.request <;> simp

/-- A drain that is not interrupted empties the queue and returns what the
scheduler's own drain returns. -/
theorem exists_run_drain (read : Reader) {session : Session} (idle : session.client = .idle) :
    ∃ steps, session.run read (.drain :: List.replicate steps .proceed) =
      { session with
        scheduler := session.scheduler.drain.2
        log := session.log ++ [.drained session.scheduler.drain.1] } := by
  suffices goes : ∀ (queue kept : List Message) (session : Session),
      session.client = .draining kept → session.scheduler.queue = queue →
        ∃ steps, session.run read (List.replicate steps .proceed) =
          { session with
            scheduler := session.scheduler.drain.2
            client := .idle
            log := session.log ++ [.drained (kept ++ session.scheduler.drain.1)] } by
    obtain ⟨steps, ends⟩ := goes session.scheduler.queue []
      { session with client := .draining [] } rfl rfl
    refine ⟨steps, ?_⟩
    have begins : session.move read .drain = { session with client := .draining [] } := by
      simp [move, idle]
    rw [run, List.foldl_cons, begins]
    simpa [run, idle] using ends
  intro queue
  induction queue with
  | nil =>
      intro kept session draining empty
      refine ⟨1, ?_⟩
      have unchanged : { session.scheduler with queue := [] } = session.scheduler := by
        rw [← empty]
      simp [run, move, proceed, draining, empty, Scheduler.drain, unchanged]
  | cons message rest ih =>
      intro kept session draining queue
      have received := proceed_proceed draining (queue ▸ List.cons_ne_nil message rest)
      have goesOn : session.proceed.proceed.client =
          .draining (kept ++ session.scheduler.receive.1.toList) := by rw [received]
      have remains : session.proceed.proceed.scheduler.queue = rest := by
        rw [received]
        simp [Scheduler.receive, queue]
      obtain ⟨steps, ends⟩ := ih _ session.proceed.proceed goesOn remains
      refine ⟨steps + 2, ?_⟩
      have unfolds : session.run read (List.replicate (steps + 2) .proceed) =
          session.proceed.proceed.run read (List.replicate steps .proceed) := rfl
      rw [unfolds, ends, received]
      simp only [Scheduler.receive, Scheduler.drain, queue, List.filter_cons]
      have staleSame (other : Message) :
          Scheduler.isStale { session.scheduler with queue := rest } other.request =
            session.scheduler.isStale other.request := rfl
      simp only [staleSame]
      cases session.scheduler.isStale message.request <;> simp

end Session

end ScanTree
