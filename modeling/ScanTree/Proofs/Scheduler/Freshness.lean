import ScanTree.Proofs.Scheduler.Delivery

/-!
# Freshness

Whatever is queued or under way, every message that a drain returns is about the
request that its client has scheduled last, and a drain after a cancellation
returns nothing.  How a text is read does not matter.

A number is never used twice.  Nothing is about the number of a cancellation when
the cancellation uses it up, and a worker posts only what is about its own
request, so nothing ever is.  While the client drains, the latest number stays
the same, so what was kept still counts when the drain returns.
-/

namespace ScanTree

/-- Something that waits, is served or is queued is about the request of a number. -/
def Scheduler.Mentions (scheduler : Scheduler) (number : Nat) : Prop :=
  (∃ request, scheduler.pending = some request ∧ request.id = number) ∨
    (∃ phase ∈ scheduler.workers, phase.request? = some number) ∨
      ∃ message ∈ scheduler.queue, message.request = number

namespace Scheduler.Coherent

variable {scheduler : Scheduler} {number : Nat}

theorem le_of_mentions (coherent : scheduler.Coherent) (mentions : scheduler.Mentions number) :
    number ≤ scheduler.latestId := by
  rcases mentions with ⟨request, waits, rfl⟩ | ⟨phase, worker, busy⟩ | ⟨message, queued, rfl⟩
  · exact Nat.le_of_eq (coherent.pending_latest request waits)
  · exact coherent.phase_le phase worker number busy
  · exact coherent.message_le message queued

/-- A worker brings up no request that was not there. -/
theorem mentions_of_work (coherent : scheduler.Coherent) {place : Nat} {program : Ingest.Program}
    (mentions : (scheduler.work place program).Mentions number) : scheduler.Mentions number := by
  rcases coherent.work_cases place program with same | ⟨phase, workers, -, -, worked⟩
  · rwa [same] at mentions
  · rw [worked] at mentions
    have onBusy (busy : phase.request? = some number) : scheduler.Mentions number :=
      Or.inr (Or.inl ⟨phase, by simp [workers], busy⟩)
    rcases mentions with ⟨request, waits, same⟩ | ⟨next, worker, busy⟩ | ⟨message, queued, same⟩
    · exact Or.inl ⟨request, (pending_of_advance waits).1, same⟩
    · rcases request?_of_advance (Option.mem_toList.mp worker) busy with
        busy | ⟨-, waits⟩
      · exact onBusy busy
      · exact Or.inl waits
    · rcases mem_queue_advance queued with queued | busy
      · exact Or.inr (Or.inr ⟨message, queued, same⟩)
      · exact onBusy (same ▸ busy)

/-- Nothing is about the number that a cancellation uses up. -/
theorem not_mentions_cancel (coherent : scheduler.Coherent) :
    ¬ scheduler.cancel.Mentions scheduler.nextId := by
  intro mentions
  have before : scheduler.Mentions scheduler.nextId := by
    rcases mentions with ⟨request, waits, -⟩ | busy | queued
    · cases waits
    · exact Or.inr (Or.inl busy)
    · exact Or.inr (Or.inr queued)
  exact absurd (coherent.lt_nextId (coherent.le_of_mentions before)) (Nat.lt_irrefl _)

end Scheduler.Coherent

/-- What an entry says about the latest request: that it was made, or that there is
none any more. -/
def Entry.call? : Entry → Option (Option Request)
  | scheduled request => some (some request)
  | cancelled => some none
  | _ => none

namespace Session

/-- The request that was scheduled last in a log, unless it was cancelled since. -/
def latestIn (log : List Entry) : Option Request :=
  (log.filterMap Entry.call?).getLast?.join

theorem latest?_eq (session : Session) : session.latest? = latestIn session.log :=
  rfl

/-- No request comes after the latest one of a log. -/
theorem exists_split_of_latestIn {log : List Entry} {request : Request}
    (latest : latestIn log = some request) :
    ∃ earlier between, log = earlier ++ .scheduled request :: between ∧
      ∀ other, .scheduled other ∉ between := by
  have last := Option.join_eq_some_iff.mp latest
  obtain ⟨calls, same⟩ := List.getLast?_eq_some_iff.mp last
  obtain ⟨earlier, rest, rfl, -, isLast⟩ := List.filterMap_eq_append_iff.mp same
  obtain ⟨quiet, entry, between, rfl, -, isCall, silent⟩ := List.filterMap_eq_cons_iff.mp isLast
  refine ⟨earlier ++ quiet, between, ?_, ?_⟩
  · cases entry with
    | scheduled other =>
        cases isCall
        rw [List.append_assoc]
    | _ => cases isCall
  · intro other mem
    cases List.filterMap_eq_nil_iff.mp silent _ mem

theorem latestIn_of_cancelled {earlier between : List Entry}
    (unscheduled : ∀ request, .scheduled request ∉ between) :
    latestIn (earlier ++ .cancelled :: between) = none := by
  have onlyNone : ∀ call ∈ (Entry.cancelled :: between).filterMap Entry.call?, call = none := by
    intro call mem
    obtain ⟨entry, entryMem, isCall⟩ := List.mem_filterMap.mp mem
    cases entry with
    | scheduled request => exact absurd (List.mem_of_ne_of_mem (by simp) entryMem) (unscheduled request)
    | cancelled => cases isCall; rfl
    | _ => cases isCall
  unfold latestIn
  rw [List.filterMap_append, List.getLast?_append]
  cases last : ((Entry.cancelled :: between).filterMap Entry.call?).getLast? with
  | none => simp [Entry.call?] at last
  | some call =>
      rw [onlyNone call (List.mem_of_getLast? last)]
      rfl

/-- Every drain of a log returned messages about the request that was the latest one
then. -/
def Told (log : List Entry) : Prop :=
  ∀ before messages after, log = before ++ .drained messages :: after →
    ∀ message ∈ messages, ∃ request, latestIn before = some request ∧
      message.request = request.id

theorem Told.concat {log : List Entry} (told : Told log) {entry : Entry}
    (tells : ∀ messages, entry = .drained messages → ∀ message ∈ messages,
      ∃ request, latestIn log = some request ∧ message.request = request.id) :
    Told (log ++ [entry]) := by
  intro before messages after split
  rcases List.eq_nil_or_concat after with rfl | ⟨rest, last, rfl⟩
  · obtain ⟨rfl, same⟩ := List.append_inj' split rfl
    exact tells messages (List.singleton_inj.mp same)
  · have shorter : log ++ [entry] = (before ++ .drained messages :: rest) ++ [last] := by
      simpa using split
    exact told before messages rest (List.append_inj' shorter rfl).1

/-- Requests are told apart by their numbers, nothing is about the latest number once
the latest request was cancelled, and a drain has kept and has returned what was
about the latest request. -/
structure Fresh (session : Session) : Prop where
  coherent : session.scheduler.Coherent
  scheduled_le : ∀ request, .scheduled request ∈ session.log →
    request.id ≤ session.scheduler.latestId
  eq_of_id_eq : ∀ request other, .scheduled request ∈ session.log →
    .scheduled other ∈ session.log → request.id = other.id → request = other
  latestId_eq : ∀ request, session.latest? = some request →
    session.scheduler.latestId = request.id
  ceased : session.latest? = none → ¬ session.scheduler.Mentions session.scheduler.latestId ∧
    ∀ message ∈ session.client.held, message.request ≠ session.scheduler.latestId
  kept_latest : ∀ message ∈ session.client.kept, message.request = session.scheduler.latestId
  told : Told session.log

namespace Fresh

variable {session : Session}

theorem initial : Fresh {} where
  coherent := .initial
  scheduled_le _ scheduled := by cases scheduled
  eq_of_id_eq _ _ scheduled := by cases scheduled
  latestId_eq _ latest := by cases latest
  ceased _ := by
    refine ⟨?_, fun _ held => by cases held⟩
    rintro (⟨_, waits, -⟩ | ⟨_, worker, -⟩ | ⟨_, queued, -⟩)
    · cases waits
    · cases worker
    · cases queued
  kept_latest _ kept := by cases kept
  told before messages after split := by simp at split

theorem schedule (fresh : session.Fresh) (idle : session.client = .idle) (first : String)
    (second : Option String) : (session.schedule first second).Fresh := by
  have older (request : Request) (scheduled : .scheduled request ∈ session.log) :
      request.id < session.scheduler.nextId :=
    fresh.coherent.lt_nextId (fresh.scheduled_le request scheduled)
  refine ⟨fresh.coherent.schedule first second, ?_, ?_, ?_, ?_, ?_, ?_⟩
  · intro request scheduled
    rcases (scheduled_mem_log_schedule ..).mp scheduled with earlier | rfl
    · exact Nat.le_of_lt (older request earlier)
    · exact Nat.le_refl _
  · intro request other scheduled scheduledToo same
    rcases (scheduled_mem_log_schedule ..).mp scheduled with earlier | rfl
    · rcases (scheduled_mem_log_schedule ..).mp scheduledToo with earlierToo | rfl
      · exact fresh.eq_of_id_eq request other earlier earlierToo same
      · exact absurd same (Nat.ne_of_lt (older request earlier))
    · rcases (scheduled_mem_log_schedule ..).mp scheduledToo with earlierToo | rfl
      · exact absurd same.symm (Nat.ne_of_lt (older other earlierToo))
      · rfl
  · intro request latest
    cases (latest?_schedule ..).symm.trans latest
    rfl
  · intro ceased
    cases (latest?_schedule ..).symm.trans ceased
  · intro message kept
    have client : (session.schedule first second).client = .idle := idle
    rw [client] at kept
    cases kept
  · exact fresh.told.concat fun messages same => by cases same

theorem cancel (fresh : session.Fresh) (idle : session.client = .idle) :
    session.cancel.Fresh := by
  have client : session.cancel.client = .idle := idle
  refine ⟨fresh.coherent.cancel, ?_, ?_, ?_, ?_, ?_, ?_⟩
  · intro request scheduled
    have earlier := (scheduled_mem_log_cancel session).mp scheduled
    exact Nat.le_of_lt (fresh.coherent.lt_nextId (fresh.scheduled_le request earlier))
  · intro request other scheduled scheduledToo
    exact fresh.eq_of_id_eq request other ((scheduled_mem_log_cancel session).mp scheduled)
      ((scheduled_mem_log_cancel session).mp scheduledToo)
  · intro request latest
    cases (latest?_cancel session).symm.trans latest
  · intro _
    refine ⟨fresh.coherent.not_mentions_cancel, ?_⟩
    intro message held
    rw [client] at held
    cases held
  · intro message kept
    rw [client] at kept
    cases kept
  · exact fresh.told.concat fun messages same => by cases same

/-- Nothing but the client and the queue changes when a drain goes on.  The queue loses
what the client takes. -/
theorem handOver (fresh : session.Fresh) {queue : List Message} {client : Client}
    (remains : queue ⊆ session.scheduler.queue)
    (held : ∀ message ∈ client.held, message ∈ session.client.held ∨
      message ∈ session.scheduler.queue)
    (kept : ∀ message ∈ client.kept, message.request = session.scheduler.latestId) :
    Fresh { session with
      scheduler := { session.scheduler with queue := queue }
      client := client } := by
  refine ⟨fresh.coherent.withQueue remains, fresh.scheduled_le, fresh.eq_of_id_eq,
    fresh.latestId_eq, ?_, kept, fresh.told⟩
  intro ceased
  obtain ⟨unmentioned, unheld⟩ := fresh.ceased ceased
  constructor
  · rintro (waits | busy | ⟨message, queued, same⟩)
    · exact unmentioned (Or.inl waits)
    · exact unmentioned (Or.inr (Or.inl busy))
    · exact unmentioned (Or.inr (Or.inr ⟨message, remains queued, same⟩))
  · intro message mem
    rcases held message mem with mem | queued
    · exact unheld message mem
    · exact fun same => unmentioned (Or.inr (Or.inr ⟨message, queued, same⟩))

/-- When a drain returns, what it has kept is about the latest request. -/
theorem finish (fresh : session.Fresh) {kept : List Message}
    (draining : session.client = .draining kept) :
    Fresh { session with client := .idle, log := session.log ++ [.drained kept] } := by
  have latest : Session.latest? { session with
      client := .idle, log := session.log ++ [.drained kept] } = session.latest? := by
    simp [latest?]
  refine ⟨fresh.coherent, ?_, ?_, ?_, ?_, ?_, ?_⟩
  · intro request scheduled
    exact fresh.scheduled_le request (by simpa using scheduled)
  · intro request other scheduled scheduledToo
    exact fresh.eq_of_id_eq request other (by simpa using scheduled) (by simpa using scheduledToo)
  · intro request isLatest
    exact fresh.latestId_eq request (latest.symm.trans isLatest)
  · intro ceased
    refine ⟨(fresh.ceased (latest.symm.trans ceased)).1, ?_⟩
    intro message held
    cases held
  · intro message mem
    cases mem
  · refine fresh.told.concat fun messages same message mem => ?_
    cases same
    have isKept := fresh.kept_latest message (by rwa [draining])
    cases last : session.latest? with
    | some request =>
        refine ⟨request, (latest?_eq session).symm.trans last, ?_⟩
        exact isKept.trans (fresh.latestId_eq request last)
    | none =>
        have unheld := (fresh.ceased last).2 message (by rwa [draining])
        exact absurd isKept unheld

theorem proceed (fresh : session.Fresh) : session.proceed.Fresh := by
  unfold Session.proceed
  split
  next => exact fresh
  next kept draining =>
    split
    next => exact fresh.finish draining
    next message rest queue =>
      refine fresh.handOver (by simp [queue]) ?_ ?_
      · intro other mem
        rcases List.mem_append.mp mem with mem | mem
        · exact Or.inl (by rwa [draining])
        · rw [List.mem_singleton.mp mem, queue]
          exact Or.inr List.mem_cons_self
      · intro other mem
        exact fresh.kept_latest other (by rwa [draining])
  next kept taken judging =>
    have keptLatest := fresh.kept_latest
    rw [judging] at keptLatest
    refine fresh.handOver (List.Subset.refl _) ?_ ?_
    · intro message mem
      left
      rw [judging]
      change message ∈ if _ then kept else kept ++ [taken] at mem
      split at mem
      · exact List.mem_append_left _ mem
      · exact mem
    · intro message mem
      change message ∈ if _ then kept else kept ++ [taken] at mem
      split at mem
      next => exact keptLatest message mem
      next counts =>
        rcases List.mem_append.mp mem with mem | mem
        · exact keptLatest message mem
        · rw [List.mem_singleton.mp mem]
          simpa [Scheduler.isStale] using counts

/-- A step of a worker logs at most that a reading begins. -/
theorem log_work_cases (read : Reader) (session : Session) (place : Nat) :
    (session.work read place).log = session.log ∨
      ∃ request text label,
        (session.work read place).log = session.log ++ [.reading request text label] := by
  unfold Session.work
  split
  · exact Or.inl rfl
  · split
    · exact Or.inr ⟨_, _, _, rfl⟩
    · exact Or.inl rfl

theorem work (fresh : session.Fresh) (read : Reader) (place : Nat) :
    (session.work read place).Fresh := by
  obtain ⟨program, worked, -⟩ := exists_scheduler_work read session place
  have latestId : (session.work read place).scheduler.latestId = session.scheduler.latestId := by
    rw [worked, Scheduler.latestId_work]
  refine ⟨?_, ?_, ?_, ?_, ?_, ?_, ?_⟩
  · rw [worked]
    exact fresh.coherent.work place program
  · intro request scheduled
    rw [latestId]
    exact fresh.scheduled_le request ((scheduled_mem_log_work ..).mp scheduled)
  · intro request other scheduled scheduledToo
    exact fresh.eq_of_id_eq request other ((scheduled_mem_log_work ..).mp scheduled)
      ((scheduled_mem_log_work ..).mp scheduledToo)
  · intro request latest
    rw [latest?_work] at latest
    rw [latestId, fresh.latestId_eq request latest]
  · intro ceased
    rw [latest?_work] at ceased
    obtain ⟨unmentioned, unheld⟩ := fresh.ceased ceased
    rw [latestId, client_work, worked]
    exact ⟨fun mentions => unmentioned (fresh.coherent.mentions_of_work mentions), unheld⟩
  · rw [latestId, client_work]
    exact fresh.kept_latest
  · rcases log_work_cases read session place with same | ⟨request, text, label, same⟩
    · rw [same]
      exact fresh.told
    · rw [same]
      exact fresh.told.concat fun messages isDrain => by cases isDrain

theorem move (fresh : session.Fresh) (read : Reader) (move : Move) :
    (session.move read move).Fresh := by
  cases move with
  | schedule first second =>
      simp only [Session.move]
      split
      next idle => exact fresh.schedule idle first second
      next => exact fresh
  | cancel =>
      simp only [Session.move]
      split
      next idle => exact fresh.cancel idle
      next => exact fresh
  | drain =>
      simp only [Session.move]
      split
      next =>
        refine fresh.handOver (List.Subset.refl _) ?_ ?_
        · intro message held
          cases held
        · intro message kept
          cases kept
      next => exact fresh
  | proceed => exact fresh.proceed
  | work place => exact fresh.work read place

theorem run (fresh : session.Fresh) (read : Reader) (moves : List Move) :
    (session.run read moves).Fresh := by
  induction moves generalizing session with
  | nil => exact fresh
  | cons move rest ih => exact ih (fresh.move read move)

end Fresh

/-- However texts are read and whatever is queued or under way, every message that a
drain returns is about the last request that was scheduled before it, and about no
other one.  A drain after a cancellation with no request in between returns nothing. -/
theorem drained_of_last_request (read : Reader) (moves : List Move) {before after : List Entry}
    {messages : List Message}
    (split : (run read {} moves).log = before ++ .drained messages :: after) :
    (∀ message ∈ messages, ∃ earlier request between,
      before = earlier ++ .scheduled request :: between ∧
        (∀ other, .scheduled other ∉ between) ∧ message.request = request.id ∧
        ∀ other, .scheduled other ∈ (run read {} moves).log →
          message.request = other.id → other = request) ∧
      ∀ earlier between, before = earlier ++ .cancelled :: between →
        (∀ request, .scheduled request ∉ between) → messages = [] := by
  have fresh : (run read {} moves).Fresh := Fresh.initial.run read moves
  have told := fresh.told before messages after split
  constructor
  · intro message mem
    obtain ⟨request, latest, same⟩ := told message mem
    obtain ⟨earlier, between, parts, unscheduled⟩ := exists_split_of_latestIn latest
    refine ⟨earlier, request, between, parts, unscheduled, same, ?_⟩
    intro other scheduled sameToo
    have isScheduled : .scheduled request ∈ (run read {} moves).log := by simp [split, parts]
    exact fresh.eq_of_id_eq other request scheduled isScheduled (sameToo.symm.trans same)
  · intro earlier between parts unscheduled
    refine List.eq_nil_iff_forall_not_mem.mpr fun message mem => ?_
    obtain ⟨request, latest, -⟩ := told message mem
    rw [parts, latestIn_of_cancelled unscheduled] at latest
    cases latest

/-- A drain drops what the first request left in the queue, and another one drops the
result that was cancelled before it. -/
theorem drained_of_cancelled_result :
    let moves : List Move :=
      .schedule "" none :: List.replicate 4 (.work 0) ++
        .schedule "" none :: List.replicate 6 (.work 0) ++
        .drain :: List.replicate 5 .proceed ++ List.replicate 2 (.work 0) ++
        .cancel :: .drain :: List.replicate 3 .proceed
    let before : List Entry :=
      [.scheduled ⟨1, "", none⟩, .reading 1 "" "A", .scheduled ⟨2, "", none⟩, .reading 2 "" "A"]
    let kept : List Message := [.progress 2 ⟨"A", 0, 1⟩]
    (run (.standard Json.nestingLimit) {} moves).log = before ++ .drained kept :: [.cancelled, .drained []] ∧
      (∀ message ∈ kept, ∃ request, .scheduled request ∈ before ∧ message.request = request.id) ∧
      ∀ messages, (run (.standard Json.nestingLimit) {} moves).log =
        (before ++ [.drained kept, .cancelled]) ++ .drained messages :: [] → messages = [] := by
  intro moves before kept
  have split : (run (.standard Json.nestingLimit) {} moves).log =
      before ++ .drained kept :: [.cancelled, .drained []] := rfl
  refine ⟨split, ?_, ?_⟩
  · intro message mem
    obtain ⟨earlier, request, between, parts, -, same, -⟩ :=
      (drained_of_last_request (.standard Json.nestingLimit) moves split).1 message mem
    exact ⟨request, by simp [parts], same⟩
  · intro messages split
    refine (drained_of_last_request (.standard Json.nestingLimit) moves split).2 (before ++ [.drained kept]) [] ?_ ?_
    · rfl
    · intro request mem
      cases mem

end Session

end ScanTree
