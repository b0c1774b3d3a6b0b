import ScanTree.Proofs.Scheduler.Outstanding

/-!
# Delivery

What drains return about a request is a prefix of the messages about a request
that nobody interferes with, and it is all of them if nothing came after the
request, the worker has ended and a drain has returned since.

The invariant follows each message on its way.  What was returned, what a drain
holds, what is in the queue and what is outstanding are together the messages
of the latest request, in order.
-/

namespace ScanTree

/-- The messages that a drain has kept. -/
def Client.kept : Client → List Message
  | .idle => []
  | .draining kept => kept
  | .judging kept _ => kept

/-- The messages that a drain has in its hands. -/
def Client.held : Client → List Message
  | .idle => []
  | .draining kept => kept
  | .judging kept taken => kept ++ [taken]

namespace Session

variable {ingest : String → String → Ingest.Program} {session : Session}

/-- A request is served if what was returned about it is a prefix of its messages
and, while it is the latest one, what is under way are the others. -/
structure Serves (ingest : String → String → Ingest.Program) (session : Session)
    (request : Request) : Prop where
  in_order :
    (session.returned ++ session.client.kept).filter (·.request = request.id) <+:
      request.messages ingest
  complete : session.scheduler.latestId = request.id →
    (session.returned ++ session.client.held).filter (·.request = request.id) ++
      session.scheduler.due ingest = request.messages ingest

/-- Nothing that was taken out of the queue is newer than the latest request, and
every request is served. -/
structure Accounted (ingest : String → String → Ingest.Program) (session : Session) : Prop where
  coherent : session.scheduler.Coherent
  taken_le : ∀ message ∈ session.returned ++ session.client.held,
    message.request ≤ session.scheduler.latestId
  scheduled_le : ∀ request, .scheduled request ∈ session.log →
    request.id ≤ session.scheduler.latestId
  latestId_eq : ∀ request, session.latest? = some request →
    session.scheduler.latestId = request.id
  serves : ∀ request, .scheduled request ∈ session.log → session.Serves ingest request

namespace Accounted

theorem initial : Accounted ingest {} where
  coherent := .initial
  taken_le _ taken := by cases taken
  scheduled_le _ scheduled := by cases scheduled
  latestId_eq _ latest := by cases latest
  serves _ scheduled := by cases scheduled

/-- No message that was taken out of the queue is about a number that is newer than
the latest. -/
theorem filter_taken_of_lt (accounted : session.Accounted ingest) {number : Nat}
    (newer : session.scheduler.latestId < number) :
    (session.returned ++ session.client.held).filter (·.request = number) = [] := by
  refine List.filter_eq_nil_iff.mpr fun message taken same => ?_
  have le := accounted.taken_le message taken
  rw [of_decide_eq_true same] at le
  exact Nat.not_lt_of_le le newer

/-- What was taken and what was scheduled is as before when a new number has become
the latest. -/
theorem of_renewed (accounted : session.Accounted ingest) (later : Session)
    (latest : later.scheduler.latestId = session.scheduler.nextId)
    (client : later.client = session.client) (returned : later.returned = session.returned) :
    (∀ message ∈ later.returned ++ later.client.held,
        message.request ≤ later.scheduler.latestId) ∧
      ∀ request, .scheduled request ∈ session.log →
        request.id ≤ later.scheduler.latestId ∧ later.Serves ingest request := by
  rw [latest, client, returned]
  constructor
  · intro message taken
    exact Nat.le_of_lt (accounted.coherent.lt_nextId (accounted.taken_le message taken))
  · intro request scheduled
    have older := accounted.coherent.lt_nextId (accounted.scheduled_le request scheduled)
    refine ⟨Nat.le_of_lt older, ?_, ?_⟩
    · rw [client, returned]
      exact (accounted.serves request scheduled).in_order
    · intro same
      exact absurd (latest.symm.trans same) (Nat.ne_of_gt older)

theorem schedule (accounted : session.Accounted ingest) (idle : session.client = .idle)
    (first : String) (second : Option String) :
    (session.schedule first second).Accounted ingest := by
  obtain ⟨taken, older⟩ := accounted.of_renewed (session.schedule first second) rfl rfl
    (returned_schedule ..)
  refine ⟨accounted.coherent.schedule first second, taken, ?_, ?_, ?_⟩
  · intro request scheduled
    rcases (scheduled_mem_log_schedule ..).mp scheduled with earlier | rfl
    · exact (older request earlier).1
    · exact Nat.le_refl _
  · intro request latest
    cases (latest?_schedule ..).symm.trans latest
    rfl
  · intro request scheduled
    rcases (scheduled_mem_log_schedule ..).mp scheduled with earlier | rfl
    · exact (older request earlier).2
    · have nothing := accounted.filter_taken_of_lt accounted.coherent.latestId_lt
      have client : (session.schedule first second).client = .idle := idle
      rw [idle] at nothing
      constructor
      · rw [client, returned_schedule]
        exact nothing ▸ List.nil_prefix
      · intro _
        rw [client, returned_schedule]
        exact (congrArg (· ++ _) nothing).trans
          (Scheduler.due_schedule accounted.coherent first second)

theorem cancel (accounted : session.Accounted ingest) : session.cancel.Accounted ingest := by
  obtain ⟨taken, older⟩ := accounted.of_renewed session.cancel rfl rfl (returned_cancel session)
  refine ⟨accounted.coherent.cancel, taken, ?_, ?_, ?_⟩
  · intro request scheduled
    exact (older request ((scheduled_mem_log_cancel session).mp scheduled)).1
  · intro request latest
    cases (latest?_cancel session).symm.trans latest
  · intro request scheduled
    exact (older request ((scheduled_mem_log_cancel session).mp scheduled)).2

/-- A drain begins with nothing. -/
theorem begin (accounted : session.Accounted ingest) (idle : session.client = .idle) :
    Accounted ingest { session with client := .draining [] } := by
  obtain ⟨coherent, taken_le, scheduled_le, latestId_eq, serves⟩ := accounted
  rw [idle] at taken_le
  refine ⟨coherent, taken_le, scheduled_le, latestId_eq, fun request scheduled => ?_⟩
  obtain ⟨keeps, complete⟩ := serves request scheduled
  rw [idle] at keeps complete
  exact ⟨keeps, complete⟩

/-- When a message is taken out of the queue, it is not lost. -/
theorem take (accounted : session.Accounted ingest) {kept rest : List Message} {message : Message}
    (draining : session.client = .draining kept)
    (queue : session.scheduler.queue = message :: rest) :
    Accounted ingest
      { session with
        scheduler := { session.scheduler with queue := rest }
        client := .judging kept message } := by
  refine ⟨accounted.coherent.withQueue (by simp [queue]), ?_, accounted.scheduled_le,
    accounted.latestId_eq, ?_⟩
  · intro other taken
    have taken : other ∈ session.returned ++ session.client.held ∨ other = message := by
      simpa [draining, Client.held, returned, or_assoc] using taken
    rcases taken with taken | rfl
    · exact accounted.taken_le other taken
    · exact accounted.coherent.message_le other (by simp [queue])
  · intro request scheduled
    obtain ⟨keeps, complete⟩ := accounted.serves request scheduled
    rw [draining] at keeps
    refine ⟨keeps, fun latest => ?_⟩
    have complete := complete latest
    change session.scheduler.latestId = request.id at latest
    rw [← complete]
    simp [draining, Client.held, Scheduler.due, Scheduler.outstanding, queue, latest, returned,
      ← List.filter_append]

/-- When a message is dropped because it is stale, nothing that counts is lost. -/
theorem drop (accounted : session.Accounted ingest) {kept : List Message} {taken : Message}
    (judging : session.client = .judging kept taken)
    (stale : taken.request ≠ session.scheduler.latestId) :
    Accounted ingest { session with client := .draining kept } := by
  refine ⟨accounted.coherent, ?_, accounted.scheduled_le,
    accounted.latestId_eq, ?_⟩
  · intro message mem
    refine accounted.taken_le message ?_
    rw [judging]
    rcases List.mem_append.mp mem with returned | kept
    · exact List.mem_append_left _ returned
    · exact List.mem_append_right _ (List.mem_append_left _ kept)
  · intro request scheduled
    obtain ⟨keeps, complete⟩ := accounted.serves request scheduled
    rw [judging] at keeps
    refine ⟨keeps, fun latest => ?_⟩
    have complete := complete latest
    change session.scheduler.latestId = request.id at latest
    have dropped : taken.request ≠ request.id := latest ▸ stale
    rw [← complete]
    simp [judging, Client.held, dropped, returned]

/-- When a message is kept because it counts, it comes next. -/
theorem keep (accounted : session.Accounted ingest) {kept : List Message} {taken : Message}
    (judging : session.client = .judging kept taken)
    (counts : taken.request = session.scheduler.latestId) :
    Accounted ingest { session with client := .draining (kept ++ [taken]) } := by
  have held : session.client.held = kept ++ [taken] := by rw [judging]; rfl
  refine ⟨accounted.coherent, ?_, accounted.scheduled_le,
    accounted.latestId_eq, ?_⟩
  · intro message mem
    refine accounted.taken_le message ?_
    rwa [held]
  · intro request scheduled
    obtain ⟨keeps, complete⟩ := accounted.serves request scheduled
    rw [held] at complete
    refine ⟨?_, complete⟩
    by_cases latest : session.scheduler.latestId = request.id
    · exact ⟨_, complete latest⟩
    · have other : taken.request ≠ request.id := fun same => latest (counts.symm.trans same)
      rw [judging] at keeps
      simpa [Client.kept, other, returned] using keeps

/-- When a drain returns, what it has kept is returned. -/
theorem finish (accounted : session.Accounted ingest) {kept : List Message}
    (draining : session.client = .draining kept) :
    Accounted ingest
      { session with client := .idle, log := session.log ++ [.drained kept] } := by
  have same : Session.returned { session with
      client := .idle, log := session.log ++ [.drained kept] } = session.returned ++ kept := by
    simp [returned]
  refine ⟨accounted.coherent, ?_, ?_, ?_, ?_⟩
  · intro message mem
    refine accounted.taken_le message ?_
    rw [same] at mem
    rw [draining]
    simpa [Client.held] using mem
  · intro request scheduled
    exact accounted.scheduled_le request (by simpa using scheduled)
  · intro request latest
    exact accounted.latestId_eq request (by simpa [latest?] using latest)
  · intro request scheduled
    obtain ⟨keeps, complete⟩ := accounted.serves request (by simpa using scheduled)
    rw [draining] at keeps complete
    constructor
    · rw [same]
      simpa [Client.kept] using keeps
    · rw [same]
      simpa [Client.held] using complete

theorem proceed (accounted : session.Accounted ingest) : session.proceed.Accounted ingest := by
  unfold Session.proceed
  split
  next => exact accounted
  next kept draining =>
    split
    next => exact accounted.finish draining
    next message rest queue => exact accounted.take draining queue
  next kept taken judging =>
    by_cases counts : taken.request = session.scheduler.latestId
    · have fresh : session.scheduler.isStale taken.request = false := by
        simp [Scheduler.isStale, counts]
      rw [fresh]
      exact accounted.keep judging counts
    · have stale : session.scheduler.isStale taken.request = true := by
        simp [Scheduler.isStale, counts]
      rw [stale]
      exact accounted.drop judging counts

theorem work (accounted : session.Accounted ingest) (place : Nat) :
    (session.work (fun _ => ingest) place).Accounted ingest := by
  obtain ⟨program, worked, reads⟩ := exists_scheduler_work (fun _ => ingest) session place
  have due : (session.work (fun _ => ingest) place).scheduler.due ingest =
      session.scheduler.due ingest := by
    rw [worked]
    exact Scheduler.due_work accounted.coherent reads
  have latestId : (session.work (fun _ => ingest) place).scheduler.latestId =
      session.scheduler.latestId := by
    rw [worked, Scheduler.latestId_work]
  constructor
  · rw [worked]
    exact accounted.coherent.work place program
  · simpa [latestId] using accounted.taken_le
  · simpa [latestId, scheduled_mem_log_work] using accounted.scheduled_le
  · simpa [latestId] using accounted.latestId_eq
  · intro request scheduled
    obtain ⟨keeps, complete⟩ :=
      accounted.serves request ((scheduled_mem_log_work ..).mp scheduled)
    exact ⟨by simpa using keeps, by simpa [latestId, due] using complete⟩

theorem move (accounted : session.Accounted ingest) (move : Move) :
    (session.move (fun _ => ingest) move).Accounted ingest := by
  cases move with
  | schedule first second =>
      simp only [Session.move]
      split
      next idle => exact accounted.schedule idle first second
      next => exact accounted
  | cancel =>
      simp only [Session.move]
      split
      · exact accounted.cancel
      · exact accounted
  | drain =>
      simp only [Session.move]
      split
      next idle => exact accounted.begin idle
      next => exact accounted
  | proceed => exact accounted.proceed
  | work place => exact accounted.work place

theorem run (accounted : session.Accounted ingest) (moves : List Move) :
    (session.run (fun _ => ingest) moves).Accounted ingest := by
  induction moves generalizing session with
  | nil => exact accounted
  | cons move rest ih => exact ih (accounted.move move)

end Accounted

/-! ## After the worker has ended -/

section Ended

variable {read : Reader} {request : Request}

theorem nextId_le_move (read : Reader) (session : Session) (move : Move) :
    session.scheduler.nextId ≤ (session.move read move).scheduler.nextId := by
  cases move with
  | schedule first second =>
      simp only [Session.move]
      split
      · exact Nat.le_succ _
      · exact Nat.le_refl _
  | cancel =>
      simp only [Session.move]
      split
      · exact Nat.le_succ _
      · exact Nat.le_refl _
  | drain =>
      simp only [Session.move]
      split <;> exact Nat.le_refl _
  | proceed =>
      simp only [Session.move, proceed]
      split
      · exact Nat.le_refl _
      · split <;> exact Nat.le_refl _
      · exact Nat.le_refl _
  | work place =>
      obtain ⟨program, worked, -⟩ := exists_scheduler_work read session place
      simp [Session.move, worked]

/-- A move that leaves an earlier request the latest one is no request and no
cancellation. -/
theorem move_cases_of_latest? {move : Move} (older : request.id < session.scheduler.nextId)
    (latest : (session.move read move).latest? = some request) :
    session.move read move = session ∨
      (session.client = .idle ∧
        session.move read move = { session with client := .draining [] }) ∨
      session.move read move = session.proceed ∨
      ∃ place, session.move read move = session.work read place := by
  cases move with
  | schedule first second =>
      cases client : session.client with
      | idle =>
          simp only [Session.move, client, latest?_schedule] at latest
          cases latest
          exact absurd older (Nat.lt_irrefl _)
      | _ => exact .inl (by simp [Session.move, client])
  | cancel =>
      cases client : session.client with
      | idle => simp [Session.move, client] at latest
      | _ => exact .inl (by simp [Session.move, client])
  | drain =>
      cases client : session.client with
      | idle => exact .inr (.inl ⟨rfl, by simp [Session.move, client]⟩)
      | _ => exact .inl (by simp [Session.move, client])
  | proceed => exact .inr (.inr (.inl rfl))
  | work place => exact .inr (.inr (.inr ⟨place, rfl⟩))

theorem latest?_of_move {move : Move} (older : request.id < session.scheduler.nextId)
    (latest : (session.move read move).latest? = some request) :
    session.latest? = some request := by
  rcases move_cases_of_latest? older latest with same | ⟨-, same⟩ | same | ⟨place, same⟩
  · rwa [same] at latest
  · rwa [same] at latest
  · rwa [same, latest?_proceed] at latest
  · rwa [same, latest?_work] at latest

theorem latest?_of_run {moves : List Move} (older : request.id < session.scheduler.nextId)
    (latest : (session.run read moves).latest? = some request) :
    session.latest? = some request := by
  induction moves generalizing session with
  | nil => exact latest
  | cons move rest ih =>
      exact latest?_of_move older
        (ih (Nat.lt_of_lt_of_le older (nextId_le_move read session move)) latest)

/-- There is no worker, and nothing is under way once more than a number of drains
have returned. -/
structure Settled (session : Session) (drains : Nat) : Prop where
  ended : session.scheduler.workers = []
  emptied : drains < session.drains → session.scheduler.queue = [] ∧ session.client.held = []

namespace Settled

variable {drains : Nat}

theorem proceed (settled : session.Settled drains) : session.proceed.Settled drains := by
  unfold Session.proceed
  split
  next => exact settled
  next kept draining =>
    split
    next queue => exact ⟨settled.ended, fun _ => ⟨queue, rfl⟩⟩
    next message rest queue =>
      refine ⟨settled.ended, fun more => ?_⟩
      exact absurd (queue.symm.trans (settled.emptied more).1) (List.cons_ne_nil _ _)
  next kept taken judging =>
    refine ⟨settled.ended, fun more => ?_⟩
    have held := (settled.emptied more).2
    rw [judging] at held
    exact absurd held (by simp [Client.held])

theorem move (settled : session.Settled drains) {move : Move}
    (older : request.id < session.scheduler.nextId)
    (latest : (session.move read move).latest? = some request) :
    (session.move read move).Settled drains := by
  rcases move_cases_of_latest? older latest with same | ⟨-, same⟩ | same | ⟨place, same⟩
  · rwa [same]
  · rw [same]
    exact ⟨settled.ended, fun more => ⟨(settled.emptied more).1, rfl⟩⟩
  · rw [same]
    exact settled.proceed
  · have idle : session.work read place = session := by
      simp [work, settled.ended]
    rwa [same, idle]

theorem run (settled : session.Settled drains) {moves : List Move}
    (older : request.id < session.scheduler.nextId)
    (latest : (session.run read moves).latest? = some request) :
    (session.run read moves).Settled drains := by
  induction moves generalizing session with
  | nil => exact settled
  | cons move rest ih =>
      have olderStill := Nat.lt_of_lt_of_le older (nextId_le_move read session move)
      exact ih (settled.move older (latest?_of_run olderStill latest)) olderStill latest

end Settled

end Ended

/-! ## What drains return -/

section Standard

variable {room : Nat}

theorem accounted_standard (room : Nat) (moves : List Move) :
    (run (.standard room) {} moves).Accounted
      (Ingest.Program.ofTrace room Ingest.reportEvery) :=
  Accounted.initial.run moves

/-- All that is to be delivered about the latest request has been returned when a drain
has ended after the worker. -/
theorem returnedFor_eq_delivery {earlier later : List Move} {request : Request}
    (before : (run (.standard room) {} earlier).latest? = some request)
    (ended : (run (.standard room) {} earlier).scheduler.workers = [])
    (after : (run (.standard room) {} (earlier ++ later)).latest? = some request)
    (drained : (run (.standard room) {} earlier).drains <
      (run (.standard room) {} (earlier ++ later)).drains) :
    (run (.standard room) {} (earlier ++ later)).returnedFor request.id =
      request.delivery room := by
  have older : request.id < (run (.standard room) {} earlier).scheduler.nextId := by
    rw [← (accounted_standard room earlier).latestId_eq request before]
    exact (accounted_standard room earlier).coherent.latestId_lt
  have settled : (run (.standard room) {} (earlier ++ later)).Settled
      (run (.standard room) {} earlier).drains := by
    have start : (run (.standard room) {} earlier).Settled
        (run (.standard room) {} earlier).drains :=
      ⟨ended, fun more => absurd more (Nat.lt_irrefl _)⟩
    rw [run_append] at after ⊢
    exact start.run older after
  obtain ⟨queue, held⟩ := settled.emptied drained
  have accounted := accounted_standard room (earlier ++ later)
  have latest := accounted.latestId_eq request after
  have scheduled := scheduled_mem_log_of_latest? _ after
  have complete := (accounted.serves request scheduled).complete latest
  rw [held, Scheduler.due_of_workers_eq_nil accounted.coherent settled.ended, queue,
    Request.messages_standard] at complete
  simpa [returnedFor] using complete

end Standard

/-- What drains have returned about a request is a prefix of what is to be delivered
about it.  It is all of it if the request is still the latest one and a drain has
returned after the worker had ended, and a drain that nobody interrupts is enough for
that.

What is to be delivered are the reports of the readings and then their results just if
all traces of the request have a result.  If a line of them nests too deep, it ends with
a failure. -/
theorem returned_in_order (room : Nat) (moves : List Move) :
    let session := run (.standard room) {} moves
    (∀ request, .scheduled request ∈ session.log →
      session.returnedFor request.id <+: request.delivery room) ∧
    (∀ earlier later request, moves = earlier ++ later →
      (run (.standard room) {} earlier).latest? = some request →
      (run (.standard room) {} earlier).scheduler.workers = [] →
      session.latest? = some request →
      (run (.standard room) {} earlier).drains < session.drains →
        session.returnedFor request.id = request.delivery room) ∧
    (∀ request, session.latest? = some request → session.scheduler.workers = [] →
      session.client = .idle →
        ∃ steps, (session.run (.standard room)
          (.drain :: List.replicate steps .proceed)).returnedFor request.id =
            request.delivery room) ∧
    ∀ request : Request,
      (∀ first second, request.delivery room = request.answer room first second ↔
        Ingest.read room request.first Side.first.label = .ok first ∧
          request.second.map (Ingest.read room · Side.second.label) = second.map .ok) ∧
      ((∃ first second, request.delivery room = request.answer room first second) ∨
        ∃ overrun : Json.Overrun,
          (request.delivery room).getLast? = some (.failure request.id overrun.message)) := by
  intro session
  refine ⟨?_, ?_, ?_, fun request => ⟨fun _ _ => Request.delivery_eq_answer_iff, ?_⟩⟩
  · intro request scheduled
    have keeps := ((accounted_standard room moves).serves request scheduled).in_order
    rw [Request.messages_standard, List.filter_append] at keeps
    exact (List.prefix_append _ _).trans keeps
  · rintro earlier later request rfl before ended after drained
    exact returnedFor_eq_delivery before ended after drained
  · intro request latest ended idle
    obtain ⟨steps, ends⟩ := exists_run_drain (.standard room) idle
    refine ⟨steps, ?_⟩
    have after : (session.run (.standard room)
        (.drain :: List.replicate steps .proceed)).latest? = some request := by
      rw [ends, ← latest]
      simp [latest?]
    have drained : session.drains < (session.run (.standard room)
        (.drain :: List.replicate steps .proceed)).drains := by
      rw [ends]
      simp [drains]
    rw [← run_append] at after drained ⊢
    exact returnedFor_eq_delivery latest ended after drained
  · rcases Request.delivery_cases request room with ⟨first, second, reads, readsToo⟩ | fails
    · exact Or.inl ⟨first, second, Request.delivery_of_read reads readsToo⟩
    · exact Or.inr fails

/-- A request replaces one that is being read, and is drained to its end. -/
theorem returned_of_replacement :
    let earlier : List Move :=
      [.schedule "x" none, .work 0, .schedule "\n" (some "")] ++ List.replicate 15 (.work 0)
    let later : List Move := .drain :: List.replicate 7 .proceed
    (run (.standard Json.nestingLimit) {} (earlier ++ later)).returnedFor 2 =
      Request.delivery ⟨2, "\n", some ""⟩ Json.nestingLimit := by
  intro earlier later
  exact (returned_in_order Json.nestingLimit (earlier ++ later)).2.1 earlier later
    ⟨2, "\n", some ""⟩ rfl rfl rfl rfl (by decide)

/-- A request whose reading reports once and then fails is drained to its end. -/
theorem run_of_failing {room : Nat} {text message : String}
    (fails : Ingest.Program.ofTrace room Ingest.reportEvery text Side.first.label =
      .poll fun stop =>
        if stop then .cancelled (Ingest.cancelMessage Side.first.label 1)
        else .report ⟨Side.first.label, 0, 1⟩ (.failed message)) :
    run (.standard room) {}
        ([.schedule text none] ++ List.replicate 7 (.work 0) ++
          .drain :: List.replicate 5 .proceed) =
      { scheduler := { nextId := 2, latestId := 1 }
        log := [.scheduled ⟨1, text, none⟩, .reading 1 text Side.first.label,
          .drained [.progress 1 ⟨Side.first.label, 0, 1⟩, .failure 1 message]] } := by
  have begun : run (.standard room) {} [.schedule text none, .work 0, .work 0] =
      { scheduler :=
          { running := true
            nextId := 2
            latestId := 1
            workers := [.reading ⟨1, text, none⟩ none
              (.ofTrace room Ingest.reportEvery text Side.first.label)] }
        log := [.scheduled ⟨1, text, none⟩, .reading 1 text Side.first.label] } := rfl
  have failed : run (.standard room) {}
      ([.schedule text none, .work 0, .work 0] ++ List.replicate 5 (.work 0)) =
      { scheduler :=
          { nextId := 2
            latestId := 1
            queue := [.progress 1 ⟨Side.first.label, 0, 1⟩, .failure 1 message] }
        log := [.scheduled ⟨1, text, none⟩, .reading 1 text Side.first.label] } := by
    rw [run_append, begun, fails]
    rfl
  have split : ([.schedule text none] ++ List.replicate 7 (.work 0) : List Move) =
      [.schedule text none, .work 0, .work 0] ++ List.replicate 5 (.work 0) := rfl
  rw [run_append, split, failed]
  rfl

/-- The failure of a reading of brackets that nest too deep is delivered, although no
answer to the request holds it. -/
theorem returned_of_brackets :
    let text := String.ofList (List.replicate 5000 '[')
    let request : Request := ⟨1, text, none⟩
    let session := run (.standard Json.nestingLimit) {}
      ([.schedule text none] ++ List.replicate 7 (.work 0) ++ .drain :: List.replicate 5 .proceed)
    .scheduled request ∈ session.log ∧
      session.returnedFor 1 =
        [.progress 1 ⟨"A", 0, 1⟩, .failure 1 Json.Overrun.list.message] ∧
      ∀ first second, ¬ session.returnedFor 1 <+: request.answer Json.nestingLimit first second := by
  intro text request session
  have more : Json.nestingLimit < 5000 := by decide
  have fails : Ingest.Program.ofTrace Json.nestingLimit Ingest.reportEvery text Side.first.label =
      .poll fun stop =>
        if stop then .cancelled (Ingest.cancelMessage Side.first.label 1)
        else .report ⟨Side.first.label, 0, 1⟩ (.failed Json.Overrun.list.message) := by
    simp only [Ingest.Program.ofTrace, text, Ingest.lines_of_brackets,
      Ingest.Program.readFrom_cons_of_deep (Ingest.Line.ofText_of_brackets more)]
    rfl
  have ends := run_of_failing fails
  have returned : session.returnedFor 1 =
      [.progress 1 ⟨"A", 0, 1⟩, .failure 1 Json.Overrun.list.message] := by
    rw [show session = _ from ends]
    rfl
  refine ⟨?_, returned, fun first second isPrefix => ?_⟩
  · rw [show session = _ from ends]
    exact List.mem_cons_self
  · have answered : .failure 1 Json.Overrun.list.message ∈
        request.answer Json.nestingLimit first second := isPrefix.subset (by simp [returned])
    simp [Request.answer] at answered

end Session

end ScanTree
