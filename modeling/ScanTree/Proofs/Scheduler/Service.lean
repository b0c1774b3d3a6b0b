import ScanTree.Proofs.Scheduler.Coherence

/-!
# Services

A service is a scheduler with any number of clients and a record of what has
happened to it.  Every step is one of a client, which schedules, cancels or
takes a message out of the queue, or one of the worker at a place.  Nothing
interrupts a step, and a run is any sequence of steps.

A request that finds no worker adds one in the same step.  As long as it has yet
to be started, the worker makes no step, and the clients may make theirs.  A
reading that never comes back is one whose worker makes no step any more.

In every run there is one worker while the scheduler says so and none otherwise,
and no request waits without one.  The numbers that requests and cancellations
use up increase.
-/

namespace ScanTree

/-- A step of some client or of the worker at a place. -/
inductive Step where
  | schedule (first : String) (second : Option String)
  | cancel
  | receive
  | work (place : Nat)
deriving DecidableEq

/-- What can happen to a service: a request is made, a number is used up by a
cancellation, the waiting request is taken, one of its traces is given to be read,
the reading asks whether its request is stale, it fails, and a message is handed over
for the queue. -/
inductive Happening where
  | scheduled (request : Request)
  | cancelled (number : Nat)
  | taken (request : Request)
  | begun (request : Request) (side : Side)
  | asked (request : Request) (side : Side) (stale : Bool)
  | failed (request : Request) (message : String)
  | posted (message : Message)

/-- The number that a request or a cancellation uses up. -/
def Happening.number? : Happening → Option Nat
  | scheduled request => some request.id
  | cancelled number => some number
  | _ => none

/-- The trace that is read when this is known of the result of the first one. -/
def Side.toRead : Option Ingest.Result → Side
  | none => first
  | some _ => second

/-- What happens when the worker that is in this phase makes a step. -/
def Scheduler.happening? (scheduler : Scheduler) : Phase → Option Happening
  | .ready => scheduler.pending.map .taken
  | .calling request first => some (.begun request (.toRead first))
  | .reading request first (.poll _) =>
    some (.asked request (.toRead first) (scheduler.isStale request.id))
  | .reading request _ (.report progress _) => some (.posted (.progress request.id progress))
  | .reading _ _ (.finished _) => none
  | .reading _ _ (.cancelled _) => none
  | .reading request _ (.failed message) => some (.failed request message)
  | .posting message => some (.posted message)

/-- A scheduler and what has happened to it, in order. -/
structure Service where
  scheduler : Scheduler := {}
  record : List Happening := []

namespace Service

/-- How texts are read: the reading of a text under a label, after what has happened
before. -/
abbrev Reader := List Happening → String → String → Ingest.Program

/-- The usual way to read traces, with room for so many lists and objects in each
other. -/
def Reader.standard (room : Nat) : Reader :=
  fun _ => Ingest.Program.ofTrace room Ingest.reportEvery

/-- A client requests to read one trace or to compare two. -/
def schedule (service : Service) (first : String) (second : Option String) : Service :=
  let (id, scheduler) := service.scheduler.schedule first second
  { scheduler := scheduler
    record := service.record ++ [.scheduled ⟨id, first, second⟩] }

/-- A client gives up the latest request. -/
def cancel (service : Service) : Service where
  scheduler := service.scheduler.cancel
  record := service.record ++ [.cancelled service.scheduler.cancel.latestId]

/-- The reading that a worker gets if it begins one. -/
def program (read : Reader) (service : Service) (phase : Phase) : Ingest.Program :=
  match phase.call? with
  | some (text, label) => read service.record text label
  | none => .failed ""

/-- One step of the worker at a place. -/
def work (read : Reader) (service : Service) (place : Nat) : Service :=
  match service.scheduler.workers[place]? with
  | none => service
  | some phase =>
    { scheduler := service.scheduler.work place (service.program read phase)
      record := service.record ++ (service.scheduler.happening? phase).toList }

/-- The service after a step. -/
def step (read : Reader) (service : Service) : Step → Service
  | .schedule first second => service.schedule first second
  | .cancel => service.cancel
  | .receive => { service with scheduler := service.scheduler.receive.2 }
  | .work place => service.work read place

/-- The service after steps. -/
def run (read : Reader) (service : Service) (steps : List Step) : Service :=
  steps.foldl (step read) service

/-- The numbers that requests and cancellations have used up, in order. -/
def numbers (service : Service) : List Nat :=
  service.record.filterMap Happening.number?

variable (read : Reader) {service : Service}

theorem run_append (first second : List Step) :
    service.run read (first ++ second) = (service.run read first).run read second :=
  List.foldl_append

/-! ## What a step can do -/

/-- The service after a step of its only worker, which is in this phase. -/
def advance (service : Service) (program : Ingest.Program) (phase : Phase) : Service where
  scheduler :=
    { (service.scheduler.advance program phase).1 with
      workers := (service.scheduler.advance program phase).2.toList }
  record := service.record ++ (service.scheduler.happening? phase).toList

@[simp]
theorem nextId_advance (program : Ingest.Program) (phase : Phase) :
    (service.advance program phase).scheduler.nextId = service.scheduler.nextId :=
  Scheduler.nextId_advance ..

@[simp]
theorem latestId_advance (program : Ingest.Program) (phase : Phase) :
    (service.advance program phase).scheduler.latestId = service.scheduler.latestId :=
  Scheduler.latestId_advance ..

/-- A worker that has nothing else to do takes the request that waits. -/
theorem advance_ready_of_pending (program : Ingest.Program) {request : Request}
    (waits : service.scheduler.pending = some request) :
    service.advance program .ready =
      { scheduler :=
          { service.scheduler with pending := none, workers := [.calling request none] }
        record := service.record ++ [.taken request] } := by
  simp [advance, Scheduler.advance, Scheduler.happening?, waits]

theorem work_zero {phase : Phase} (workers : service.scheduler.workers = [phase]) :
    service.work read 0 = service.advance (service.program read phase) phase := by
  simp [work, advance, workers, Scheduler.work]

/-- Receiving takes the oldest message out of the queue and changes nothing else. -/
theorem receive_eq (scheduler : Scheduler) :
    scheduler.receive.2 = { scheduler with queue := scheduler.queue.tail } := by
  obtain ⟨pending, running, nextId, latestId, queue, workers⟩ := scheduler
  cases queue <;> rfl

/-- What a request and a cancellation have in common: the next number is used up and
becomes the latest one, nothing but a request of that number waits afterwards, and no
worker is busy with anything new. -/
structure Renews (service later : Service) : Prop where
  coherent : service.scheduler.Coherent → later.scheduler.Coherent
  nextId_lt : service.scheduler.nextId < later.scheduler.nextId
  latestId : later.scheduler.latestId = service.scheduler.nextId
  waits : ∀ request, later.scheduler.pending = some request →
    request.id = service.scheduler.nextId
  workers : ∀ phase ∈ later.scheduler.workers, phase ∈ service.scheduler.workers ∨ phase = .ready
  record : ∃ happening, happening.number? = some service.scheduler.nextId ∧
    later.record = service.record ++ [happening]

theorem renews_schedule (service : Service) (first : String) (second : Option String) :
    Renews service (service.schedule first second) where
  coherent coherent := coherent.schedule first second
  nextId_lt := Nat.lt_succ_self _
  latestId := rfl
  waits request waits := by
    cases waits
    rfl
  workers phase worker := by
    cases running : service.scheduler.running with
    | true =>
        left
        simpa [schedule, Scheduler.schedule, running] using worker
    | false => simpa [schedule, Scheduler.schedule, running] using worker
  record := ⟨_, rfl, rfl⟩

theorem renews_cancel (service : Service) : Renews service service.cancel where
  coherent coherent := coherent.cancel
  nextId_lt := Nat.lt_succ_self _
  latestId := rfl
  waits request waits := by cases waits
  workers phase worker := Or.inl worker
  record := ⟨_, rfl, rfl⟩

namespace Renews

variable {later : Service}

/-- What uses up no number has not happened just now. -/
theorem mem_record_iff (renews : Renews service later) {happening : Happening}
    (unnumbered : happening.number? = none) :
    happening ∈ later.record ↔ happening ∈ service.record := by
  obtain ⟨added, isNumbered, same⟩ := renews.record
  rw [same, List.mem_append, List.mem_singleton]
  refine or_iff_left ?_
  rintro rfl
  cases unnumbered.symm.trans isNumbered

theorem numbers_eq (renews : Renews service later) :
    later.numbers = service.numbers ++ [service.scheduler.nextId] := by
  obtain ⟨added, isNumbered, same⟩ := renews.record
  simp [numbers, same, List.filterMap_append, isNumbered]

end Renews

/-- What a step can do to a coherent service: a new number becomes the latest one, messages
are taken out of the queue, or the only worker makes a step. -/
inductive Evolves (read : Reader) (service : Service) : Service → Prop where
  | renewed {later : Service} (renews : Renews service later) : Evolves read service later
  | received {queue : List Message} (remains : queue ⊆ service.scheduler.queue) :
      Evolves read service
        { service with scheduler := { service.scheduler with queue := queue } }
  | advanced {phase : Phase} (workers : service.scheduler.workers = [phase])
      (running : service.scheduler.running = true) :
      Evolves read service (service.advance (service.program read phase) phase)

theorem evolves_step (coherent : service.scheduler.Coherent) (step : Step) :
    Evolves read service (service.step read step) := by
  have rests : Evolves read service service := .received (List.Subset.refl _)
  cases step with
  | schedule first second => exact .renewed (renews_schedule service first second)
  | cancel => exact .renewed (renews_cancel service)
  | receive =>
      rw [step, receive_eq]
      exact .received (List.tail_sublist _).subset
  | work place =>
      rw [step]
      rcases coherent.workers_cases with ⟨workers, -⟩ | ⟨phase, workers, running⟩
      · have same : service.work read place = service := by simp [work, workers]
        rwa [same]
      · cases place with
        | zero =>
            rw [work_zero read workers]
            exact .advanced workers running
        | succ place =>
            have same : service.work read (place + 1) = service := by simp [work, workers]
            rwa [same]

/-- What every change of a coherent service keeps holds after every run. -/
theorem run_keeps (holds : Service → Prop)
    (coherent : ∀ service, holds service → service.scheduler.Coherent)
    (keeps : ∀ service later, holds service → Evolves read service later → holds later)
    (steps : List Step) (start : holds service) : holds (service.run read steps) := by
  induction steps generalizing service with
  | nil => exact start
  | cons step rest ih =>
      exact ih (keeps service _ start (evolves_step read (coherent service start) step))

/-! ## Numbers -/

variable {read}

/-- A worker uses up no numbers. -/
theorem number?_of_mem_happening? {scheduler : Scheduler} {phase : Phase} {happening : Happening}
    (happens : happening ∈ (scheduler.happening? phase).toList) : happening.number? = none := by
  cases phase with
  | ready =>
      cases pending : scheduler.pending <;>
        simp_all [Scheduler.happening?, Happening.number?]
  | calling request first => simp_all [Scheduler.happening?, Happening.number?]
  | reading request first program =>
      cases program <;> simp_all [Scheduler.happening?, Happening.number?]
  | posting message => simp_all [Scheduler.happening?, Happening.number?]

theorem numbers_advance (program : Ingest.Program) (phase : Phase) :
    (service.advance program phase).numbers = service.numbers := by
  have nothing : (service.scheduler.happening? phase).toList.filterMap Happening.number? = [] :=
    List.filterMap_eq_nil_iff.mpr fun happening happens => number?_of_mem_happening? happens
  rw [numbers, advance, List.filterMap_append, nothing, List.append_nil, numbers]

/-- The numbers that were used up increase, and none is newer than the latest. -/
structure Numbered (service : Service) : Prop where
  coherent : service.scheduler.Coherent
  increasing : service.numbers.Pairwise (· < ·)
  le_latest : ∀ number ∈ service.numbers, number ≤ service.scheduler.latestId

namespace Numbered

theorem initial : Numbered {} where
  coherent := .initial
  increasing := List.Pairwise.nil
  le_latest _ used := by cases used

theorem renew (numbered : service.Numbered) {later : Service} (renews : Renews service later) :
    later.Numbered := by
  have older : ∀ number ∈ service.numbers, number < service.scheduler.nextId :=
    fun number mem => numbered.coherent.lt_nextId (numbered.le_latest number mem)
  refine ⟨renews.coherent numbered.coherent, ?_, ?_⟩
  · rw [renews.numbers_eq, List.pairwise_append]
    refine ⟨numbered.increasing, List.pairwise_singleton _ _, ?_⟩
    intro number mem next isNext
    rw [List.mem_singleton.mp isNext]
    exact older number mem
  · intro number mem
    rw [renews.numbers_eq, List.mem_append, List.mem_singleton] at mem
    rw [renews.latestId]
    rcases mem with mem | rfl
    · exact Nat.le_of_lt (older number mem)
    · exact Nat.le_refl _

theorem evolve (numbered : service.Numbered) {later : Service}
    (evolves : Evolves read service later) : later.Numbered := by
  cases evolves with
  | renewed renews => exact numbered.renew renews
  | received remains =>
      exact ⟨numbered.coherent.withQueue remains, numbered.increasing, numbered.le_latest⟩
  | advanced workers running =>
      refine ⟨numbered.coherent.advance _ workers running, ?_, ?_⟩
      · rw [numbers_advance]
        exact numbered.increasing
      · rw [numbers_advance, latestId_advance]
        exact numbered.le_latest

theorem run (read : Reader) (steps : List Step) : (Service.run read {} steps).Numbered :=
  run_keeps read Numbered (fun _ numbered => numbered.coherent)
    (fun _ _ numbered evolves => numbered.evolve evolves) steps initial

end Numbered

/-- At every moment of every run there is one worker that has been or is about to be
started and has not ended if the scheduler says that it is running, and none
otherwise.  A request that waits has that worker.  The numbers of all requests and
cancellations are distinct and increase up to the latest one, which is below the
next one. -/
theorem one_worker_while_running (read : Reader) (steps : List Step) :
    let service := run read {} steps
    service.scheduler.workers.length = (if service.scheduler.running then 1 else 0) ∧
      (service.scheduler.pending ≠ none →
        service.scheduler.running = true ∧ ∃ phase, service.scheduler.workers = [phase]) ∧
      service.numbers.Pairwise (· < ·) ∧
      (∀ number ∈ service.numbers, number ≤ service.scheduler.latestId) ∧
      service.scheduler.latestId < service.scheduler.nextId := by
  intro service
  have numbered : service.Numbered := .run read steps
  have coherent := numbered.coherent
  refine ⟨coherent.length_workers, ?_, numbered.increasing, numbered.le_latest,
    coherent.latestId_lt⟩
  intro waits
  have running := coherent.attended waits
  rcases coherent.workers_cases with ⟨-, idle⟩ | ⟨phase, workers, -⟩
  · rw [running] at idle
    cases idle
  · exact ⟨running, phase, workers⟩

/-- A request waits while the worker is busy with one that was replaced. -/
theorem one_worker_while_busy :
    let service := run (.standard Json.nestingLimit) {}
      [.schedule "x" none, .work 0, .schedule "y" (some ""), .cancel, .work 0, .schedule "z" none]
    service.scheduler.pending = some ⟨4, "z", none⟩ ∧
      service.scheduler.running = true ∧ (∃ phase, service.scheduler.workers = [phase]) ∧
      service.numbers = [1, 2, 3, 4] ∧ service.numbers.Pairwise (· < ·) := by
  intro service
  have waiting : service.scheduler.pending = some ⟨4, "z", none⟩ := rfl
  have facts := one_worker_while_running (.standard Json.nestingLimit)
    [.schedule "x" none, .work 0, .schedule "y" (some ""), .cancel, .work 0, .schedule "z" none]
  obtain ⟨-, attended, increasing, -, -⟩ := facts
  obtain ⟨running, worker⟩ := attended (Option.ne_none_iff_exists'.mpr ⟨_, waiting⟩)
  exact ⟨waiting, running, worker, rfl, increasing⟩

end Service

end ScanTree
