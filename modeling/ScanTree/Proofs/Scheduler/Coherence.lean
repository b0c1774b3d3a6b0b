import ScanTree.Proofs.Scheduler.Session

/-!
# Coherence of the scheduler

The shared state is coherent at first, and every step of the client or of a worker
keeps it so: there is one worker while the state says that there is one and none
otherwise, a request that waits has a worker to take it and is the latest one, and
nothing in the state is about a request that is newer than the latest.
-/

namespace ScanTree

/-- The request that a worker is busy with. -/
def Phase.request? : Phase → Option Nat
  | .ready => none
  | .calling request _ => some request.id
  | .reading request _ _ => some request.id
  | .posting message => some message.request

namespace Scheduler

/-! ## What the steps leave as it is -/

section Post

variable (scheduler : Scheduler) (message : Message)

/-- Posting changes nothing but the queue. -/
theorem post_eq :
    scheduler.post message = { scheduler with queue := (scheduler.post message).queue } := by
  unfold post
  split <;> rfl

@[simp]
theorem pending_post : (scheduler.post message).pending = scheduler.pending := by
  rw [post_eq]

@[simp]
theorem running_post : (scheduler.post message).running = scheduler.running := by
  rw [post_eq]

@[simp]
theorem nextId_post : (scheduler.post message).nextId = scheduler.nextId := by
  rw [post_eq]

@[simp]
theorem latestId_post : (scheduler.post message).latestId = scheduler.latestId := by
  rw [post_eq]

@[simp]
theorem workers_post : (scheduler.post message).workers = scheduler.workers := by
  rw [post_eq]

theorem mem_queue_post {other : Message} (posted : other ∈ (scheduler.post message).queue) :
    other ∈ scheduler.queue ∨ other = message := by
  unfold post at posted
  split at posted
  · exact .inl posted
  · simpa using posted

end Post

section Advance

variable (scheduler : Scheduler) (program : Ingest.Program) (phase : Phase)

/-- A worker gives away no numbers and changes no other worker. -/
theorem advance_eq :
    (scheduler.advance program phase).1 =
      { scheduler with
        pending := (scheduler.advance program phase).1.pending
        running := (scheduler.advance program phase).1.running
        queue := (scheduler.advance program phase).1.queue } := by
  cases phase with
  | ready => cases pending : scheduler.pending <;> simp [advance, pending]
  | calling request first => rfl
  | reading request first rest => cases rest <;> simp [advance, ← post_eq]
  | posting message => simp [advance, ← post_eq]

@[simp]
theorem nextId_advance : (scheduler.advance program phase).1.nextId = scheduler.nextId := by
  rw [advance_eq]

@[simp]
theorem latestId_advance : (scheduler.advance program phase).1.latestId = scheduler.latestId := by
  rw [advance_eq]

@[simp]
theorem workers_advance : (scheduler.advance program phase).1.workers = scheduler.workers := by
  rw [advance_eq]

variable {scheduler program phase}

/-- A worker goes on with its own request or takes the one that waits. -/
theorem request?_of_advance {next : Phase} {number : Nat}
    (goesOn : (scheduler.advance program phase).2 = some next)
    (busy : next.request? = some number) :
    phase.request? = some number ∨
      phase = .ready ∧ ∃ request, scheduler.pending = some request ∧ request.id = number := by
  cases phase with
  | ready =>
      right
      refine ⟨rfl, ?_⟩
      cases pending : scheduler.pending with
      | none => simp [advance, pending] at goesOn
      | some request =>
          simp only [advance, pending, Option.some.injEq] at goesOn
          subst goesOn
          exact ⟨request, rfl, Option.some.inj busy⟩
  | calling request first =>
      left
      cases goesOn
      exact busy
  | reading request first rest =>
      left
      cases rest with
      | finished result =>
          cases goesOn
          unfold Phase.afterResult at busy
          split at busy <;> exact busy
      | cancelled message =>
          cases goesOn
          cases busy
      | _ =>
          cases goesOn
          exact busy
  | posting message =>
      cases goesOn
      cases busy

/-- A worker puts into the queue what is about its own request. -/
theorem mem_queue_advance {message : Message}
    (queued : message ∈ (scheduler.advance program phase).1.queue) :
    message ∈ scheduler.queue ∨ phase.request? = some message.request := by
  cases phase with
  | ready =>
      left
      cases pending : scheduler.pending <;> simpa [advance, pending] using queued
  | calling request first => exact Or.inl queued
  | reading request first rest =>
      cases rest with
      | report progress next =>
          rcases mem_queue_post scheduler _ queued with queued | rfl
          · exact Or.inl queued
          · exact Or.inr rfl
      | _ => exact Or.inl queued
  | posting other =>
      rcases mem_queue_post scheduler other queued with queued | rfl
      · exact Or.inl queued
      · exact Or.inr rfl

/-- A request that still waits after a step has waited before, while the worker was
busy. -/
theorem pending_of_advance {request : Request}
    (waits : (scheduler.advance program phase).1.pending = some request) :
    scheduler.pending = some request ∧ phase ≠ .ready := by
  cases phase with
  | ready => cases pending : scheduler.pending <;> simp [advance, pending] at waits
  | calling other first => exact ⟨waits, by simp⟩
  | reading other first rest =>
      cases rest with
      | report progress next => exact ⟨by simpa [advance] using waits, by simp⟩
      | _ => exact ⟨waits, by simp⟩
  | posting message => exact ⟨by simpa [advance] using waits, by simp⟩

end Advance

@[simp]
theorem nextId_work (scheduler : Scheduler) (place : Nat) (program : Ingest.Program) :
    (scheduler.work place program).nextId = scheduler.nextId := by
  unfold work
  split
  · rfl
  · exact nextId_advance ..

@[simp]
theorem latestId_work (scheduler : Scheduler) (place : Nat) (program : Ingest.Program) :
    (scheduler.work place program).latestId = scheduler.latestId := by
  unfold work
  split
  · rfl
  · exact latestId_advance ..

/-! ## Coherence -/

/-- There is a worker just when the state says so and when it is needed, and nothing
is newer than the latest request. -/
structure Coherent (scheduler : Scheduler) : Prop where
  length_workers : scheduler.workers.length = if scheduler.running then 1 else 0
  attended : scheduler.pending ≠ none → scheduler.running = true
  latestId_lt : scheduler.latestId < scheduler.nextId
  pending_latest : ∀ request, scheduler.pending = some request → request.id = scheduler.latestId
  phase_le : ∀ phase ∈ scheduler.workers, ∀ request, phase.request? = some request →
    request ≤ scheduler.latestId
  message_le : ∀ message ∈ scheduler.queue, message.request ≤ scheduler.latestId

namespace Coherent

variable {scheduler : Scheduler}

theorem initial : Coherent {} where
  length_workers := rfl
  attended waiting := absurd rfl waiting
  latestId_lt := by decide
  pending_latest _ waiting := by cases waiting
  phase_le _ working := by cases working
  message_le _ queued := by cases queued

/-- What is not newer than the latest request is older than the next one. -/
theorem lt_nextId (coherent : scheduler.Coherent) {number : Nat}
    (older : number ≤ scheduler.latestId) : number < scheduler.nextId := by
  have newer := coherent.latestId_lt
  omega

theorem workers_cases (coherent : scheduler.Coherent) :
    (scheduler.workers = [] ∧ scheduler.running = false) ∨
      ∃ phase, scheduler.workers = [phase] ∧ scheduler.running = true := by
  have length := coherent.length_workers
  cases running : scheduler.running with
  | false => simpa [running] using length
  | true => simpa [running, List.length_eq_one_iff] using length

theorem schedule (coherent : scheduler.Coherent) (first : String) (second : Option String) :
    (scheduler.schedule first second).2.Coherent where
  length_workers := by
    have length := coherent.length_workers
    cases running : scheduler.running <;> simp [Scheduler.schedule, running] at length ⊢ <;>
      simp [length]
  attended _ := rfl
  latestId_lt := Nat.lt_succ_self _
  pending_latest request waiting := by
    cases waiting
    rfl
  phase_le phase working request busy := by
    refine Nat.le_of_lt (coherent.lt_nextId ?_)
    cases running : scheduler.running with
    | true =>
        have working : phase ∈ scheduler.workers := by
          simpa [Scheduler.schedule, running] using working
        exact coherent.phase_le phase working _ busy
    | false =>
        have working : phase ∈ scheduler.workers ∨ phase = .ready := by
          simpa [Scheduler.schedule, running] using working
        rcases working with working | rfl
        · exact coherent.phase_le phase working _ busy
        · cases busy
  message_le message queued :=
    Nat.le_of_lt (coherent.lt_nextId (coherent.message_le message queued))

theorem cancel (coherent : scheduler.Coherent) : scheduler.cancel.Coherent where
  length_workers := coherent.length_workers
  attended waiting := absurd rfl waiting
  latestId_lt := Nat.lt_succ_self _
  pending_latest _ waiting := by cases waiting
  phase_le phase working request busy :=
    Nat.le_of_lt (coherent.lt_nextId (coherent.phase_le phase working request busy))
  message_le message queued :=
    Nat.le_of_lt (coherent.lt_nextId (coherent.message_le message queued))

/-- Messages may be taken out of the queue. -/
theorem withQueue (coherent : scheduler.Coherent) {queue : List Message}
    (taken : queue ⊆ scheduler.queue) : Coherent { scheduler with queue := queue } :=
  { coherent with message_le := fun message queued => coherent.message_le message (taken queued) }

theorem post (coherent : scheduler.Coherent) {message : Message}
    (older : message.request ≤ scheduler.latestId) : (scheduler.post message).Coherent where
  length_workers := by simpa using coherent.length_workers
  attended := by simpa using coherent.attended
  latestId_lt := by simpa using coherent.latestId_lt
  pending_latest := by simpa using coherent.pending_latest
  phase_le := by simpa using coherent.phase_le
  message_le other queued := by
    rw [latestId_post]
    rcases mem_queue_post scheduler message queued with queued | rfl
    · exact coherent.message_le other queued
    · exact older

/-- The only worker goes on with something that is not newer than the latest
request. -/
theorem withWorker (coherent : scheduler.Coherent) (running : scheduler.running = true)
    {phase : Phase} (older : ∀ request, phase.request? = some request →
      request ≤ scheduler.latestId) :
    Coherent { scheduler with workers := [phase] } :=
  { coherent with
    length_workers := by simp [running]
    phase_le := by simpa using older }

/-- A step is a step of the only worker, or nothing happens. -/
theorem work_cases (coherent : scheduler.Coherent) (place : Nat) (program : Ingest.Program) :
    scheduler.work place program = scheduler ∨
      ∃ phase, scheduler.workers = [phase] ∧ scheduler.running = true ∧ place = 0 ∧
        scheduler.work place program =
          { (scheduler.advance program phase).1 with
            workers := (scheduler.advance program phase).2.toList } := by
  rcases coherent.workers_cases with ⟨workers, -⟩ | ⟨phase, workers, running⟩
  · left
    simp [work, workers]
  · cases place with
    | succ place =>
        left
        simp [work, workers]
    | zero =>
        right
        exact ⟨phase, workers, running, rfl, by simp [work, workers]⟩

theorem advance (coherent : scheduler.Coherent) (program : Ingest.Program) {phase : Phase}
    (workers : scheduler.workers = [phase]) (running : scheduler.running = true) :
    Coherent
      { (scheduler.advance program phase).1 with
        workers := (scheduler.advance program phase).2.toList } := by
  have older := coherent.phase_le phase (by simp [workers])
  cases phase with
  | ready =>
      cases pending : scheduler.pending with
      | none =>
          simp only [Scheduler.advance, pending]
          exact { coherent with
            length_workers := by simp
            attended := fun waiting => absurd rfl waiting
            pending_latest := by simp
            phase_le := by simp }
      | some request =>
          simp only [Scheduler.advance, pending]
          have latest := coherent.pending_latest request pending
          exact { coherent with
            length_workers := by simp [running]
            attended := fun waiting => absurd rfl waiting
            pending_latest := by simp
            phase_le := by simp [Phase.request?, latest] }
  | calling request first => exact coherent.withWorker running older
  | reading request first rest =>
      have own : request.id ≤ scheduler.latestId := older _ rfl
      cases rest with
      | poll next => exact coherent.withWorker running older
      | report progress next =>
          have posted : (scheduler.post (.progress request.id progress)).Coherent :=
            coherent.post own
          exact posted.withWorker (by simpa using running) (by simpa [Phase.request?] using own)
      | finished result =>
          refine coherent.withWorker running ?_
          unfold Phase.afterResult
          split <;> simpa [Phase.request?, Message.request] using own
      | cancelled message => exact coherent.withWorker running (by simp [Phase.request?])
      | failed message =>
          exact coherent.withWorker running (by simpa [Phase.request?, Message.request] using own)
  | posting message =>
      exact (coherent.post (older _ rfl)).withWorker (by simpa using running)
        (by simp [Phase.request?])

theorem work (coherent : scheduler.Coherent) (place : Nat) (program : Ingest.Program) :
    (scheduler.work place program).Coherent := by
  rcases coherent.work_cases place program with same | ⟨phase, workers, running, -, worked⟩
  · rwa [same]
  · rw [worked]
    exact coherent.advance program workers running

end Coherent

end Scheduler

end ScanTree
