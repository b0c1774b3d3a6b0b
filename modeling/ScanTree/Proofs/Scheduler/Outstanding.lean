import ScanTree.Proofs.Ingest.Cadence
import ScanTree.Proofs.Scheduler.Coherence

/-!
# Outstanding messages

At every moment it is known which messages the worker will still post if nobody
interferes: those of the reading that it is at, of the reading after that, and
of the request that waits.  A step of a worker moves such a message to the end
of the queue, or changes nothing, as far as the latest request is concerned.

How a text is read under a label may not depend on what has been seen before.
-/

namespace ScanTree

namespace Ingest.Program

/-- What is seen of a reading that nobody stops. -/
def unstopped (program : Program) : Run :=
  program.run (fun _ => false) 0

/-- How many questions were asked before does not matter to a reading that nobody
stops. -/
theorem run_false_eq_unstopped (program : Program) (asked : Nat) :
    (program.run (fun _ => false) asked).reports = program.unstopped.reports ∧
      (program.run (fun _ => false) asked).outcome = program.unstopped.outcome := by
  unfold unstopped
  induction program generalizing asked with
  | poll next ih =>
      have here := ih false (asked + 1)
      have there := ih false 1
      exact ⟨here.1.trans there.1.symm, here.2.trans there.2.symm⟩
  | report progress next ih => exact ⟨congrArg (progress :: ·) (ih asked).1, (ih asked).2⟩
  | finished result => exact ⟨rfl, rfl⟩
  | cancelled message => exact ⟨rfl, rfl⟩
  | failed message => exact ⟨rfl, rfl⟩

@[simp]
theorem reports_unstopped_poll (next : Bool → Program) :
    (poll next).unstopped.reports = (next false).unstopped.reports :=
  (run_false_eq_unstopped (next false) 1).1

@[simp]
theorem outcome_unstopped_poll (next : Bool → Program) :
    (poll next).unstopped.outcome = (next false).unstopped.outcome :=
  (run_false_eq_unstopped (next false) 1).2

/-- The usual reading comes to the end of the trace or to a line that nests too deep if
nobody stops it. -/
theorem outcome_unstopped_ofTrace {every : Nat} (positive : 0 < every) (room : Nat)
    (text label : String) :
    (ofTrace room every text label).unstopped.outcome = .ofReading (read room text label) := by
  rw [unstopped, run_ofTrace_uncancelled positive fun _ _ _ => rfl]

end Ingest.Program

/-- What a reading of a text under a label reports if nobody stops it. -/
def Ingest.reports (room : Nat) (text label : String) : List Ingest.Progress :=
  (Ingest.Program.ofTrace room Ingest.reportEvery text label).unstopped.reports

/-! ## The messages about a request -/

namespace Request

variable (ingest : String → String → Ingest.Program) (request : Request)

/-- The messages of a reading that nobody stops: a message for each report and
then what the end of the reading leads to. -/
def posted (ending : Ingest.Outcome → List Message) (program : Ingest.Program) : List Message :=
  program.unstopped.reports.map (.progress request.id) ++ ending program.unstopped.outcome

/-- What the end of the second reading leads to. -/
def afterSecond (first : Ingest.Result) : Ingest.Outcome → List Message
  | .finished result => [.done request.id first (some result)]
  | .cancelled _ => []
  | .failed message => [.failure request.id message]

/-- What the end of the first reading leads to. -/
def afterFirst : Ingest.Outcome → List Message
  | .finished result =>
    match request.second with
    | none => [.done request.id result none]
    | some text => request.posted (request.afterSecond result) (ingest text Side.second.label)
  | .cancelled _ => []
  | .failed message => [.failure request.id message]

/-- What the end of a reading leads to, given the result of the first reading if
this is the second one. -/
def afterReading : Option Ingest.Result → Ingest.Outcome → List Message
  | none => request.afterFirst ingest
  | some first => request.afterSecond first

/-- All messages about a request that nobody interferes with. -/
def messages : List Message :=
  request.posted (request.afterFirst ingest) (ingest request.first Side.first.label)

/-- What answers a request whose traces have these results: the reports of reading the
first trace, those of reading the second one if two are compared, and then the results. -/
def answer (room : Nat) (first : Ingest.Result) (second : Option Ingest.Result) : List Message :=
  (Ingest.reports room request.first Side.first.label).map (.progress request.id) ++
    request.second.toList.flatMap (fun text =>
      (Ingest.reports room text Side.second.label).map (.progress request.id)) ++
    [.done request.id first second]

/-- What is to be delivered about a request.  A trace that breaks its reading off puts a
failure in the place of all that would come after its reports. -/
def delivery (room : Nat) : List Message :=
  (Ingest.reports room request.first Side.first.label).map (.progress request.id) ++
    match Ingest.read room request.first Side.first.label with
    | .error breakdown => [.failure request.id breakdown.overrun.message]
    | .ok first =>
      match request.second with
      | none => [.done request.id first none]
      | some text =>
        (Ingest.reports room text Side.second.label).map (.progress request.id) ++
          match Ingest.read room text Side.second.label with
          | .error breakdown => [.failure request.id breakdown.overrun.message]
          | .ok second => [.done request.id first (some second)]

variable {ingest request}

theorem request_of_mem_posted {ending : Ingest.Outcome → List Message}
    (own : ∀ outcome, ∀ message ∈ ending outcome, message.request = request.id)
    {program : Ingest.Program} {message : Message}
    (mem : message ∈ request.posted ending program) : message.request = request.id := by
  rcases List.mem_append.mp mem with reported | ended
  · obtain ⟨progress, -, rfl⟩ := List.mem_map.mp reported
    rfl
  · exact own _ message ended

theorem request_of_mem_afterSecond {first : Ingest.Result} {outcome : Ingest.Outcome}
    {message : Message} (mem : message ∈ request.afterSecond first outcome) :
    message.request = request.id := by
  cases outcome with
  | cancelled reason => cases mem
  | _ =>
      cases List.mem_singleton.mp mem
      rfl

theorem request_of_mem_afterFirst {outcome : Ingest.Outcome} {message : Message}
    (mem : message ∈ request.afterFirst ingest outcome) : message.request = request.id := by
  cases outcome with
  | finished result =>
      simp only [afterFirst] at mem
      split at mem
      · cases List.mem_singleton.mp mem
        rfl
      · exact request_of_mem_posted (fun _ _ => request_of_mem_afterSecond) mem
  | cancelled reason => cases mem
  | failed reason =>
      cases List.mem_singleton.mp mem
      rfl

theorem request_of_mem_afterReading {first : Option Ingest.Result} {outcome : Ingest.Outcome}
    {message : Message} (mem : message ∈ request.afterReading ingest first outcome) :
    message.request = request.id := by
  cases first with
  | none => exact request_of_mem_afterFirst mem
  | some first => exact request_of_mem_afterSecond mem

section Standard

variable (request) (room : Nat)

/-- The messages about a request when traces are read in the usual way. -/
theorem messages_standard :
    request.messages (Ingest.Program.ofTrace room Ingest.reportEvery) = request.delivery room := by
  have positive : 0 < Ingest.reportEvery := by decide
  have ends := Ingest.Program.outcome_unstopped_ofTrace positive room
  unfold messages posted delivery
  rw [ends]
  cases Ingest.read room request.first Side.first.label with
  | error breakdown => rfl
  | ok first =>
      rw [Ingest.Outcome.ofReading, afterFirst]
      split
      next => rfl
      next text _ =>
        rw [posted, ends]
        cases Ingest.read room text Side.second.label <;> rfl

variable {request room}

theorem getLast?_answer (first : Ingest.Result) (second : Option Ingest.Result) :
    (request.answer room first second).getLast? = some (.done request.id first second) := by
  simp [answer]

theorem delivery_of_read {first : Ingest.Result} {second : Option Ingest.Result}
    (reads : Ingest.read room request.first Side.first.label = .ok first)
    (readsToo : request.second.map (Ingest.read room · Side.second.label) = second.map .ok) :
    request.delivery room = request.answer room first second := by
  rw [delivery, reads, answer]
  cases compared : request.second with
  | none =>
      rw [compared] at readsToo
      obtain rfl := Option.map_eq_none_iff.mp readsToo.symm
      rw [Option.toList_none, List.flatMap_nil, List.append_nil]
  | some text =>
      rw [compared] at readsToo
      obtain ⟨second, rfl, readsText⟩ := Option.map_eq_some_iff.mp readsToo.symm
      simp [← readsText]

/-- Either the traces of a request have results, or what is delivered ends with a
failure. -/
theorem delivery_cases (request : Request) (room : Nat) :
    (∃ (first : Ingest.Result) (second : Option Ingest.Result),
      Ingest.read room request.first Side.first.label = .ok first ∧
        request.second.map (Ingest.read room · Side.second.label) = second.map .ok) ∨
    ∃ overrun : Json.Overrun,
      (request.delivery room).getLast? = some (.failure request.id overrun.message) := by
  rw [delivery]
  cases reads : Ingest.read room request.first Side.first.label with
  | error breakdown => exact Or.inr ⟨breakdown.overrun, by simp⟩
  | ok first =>
      cases request.second with
      | none => exact Or.inl ⟨first, none, rfl, rfl⟩
      | some text =>
          cases readsText : Ingest.read room text Side.second.label with
          | error breakdown => exact Or.inr ⟨breakdown.overrun, by simp [readsText]⟩
          | ok second => exact Or.inl ⟨first, some second, rfl, by simp [readsText]⟩

/-- A request is answered with results just if its traces have them. -/
theorem delivery_eq_answer_iff {first : Ingest.Result} {second : Option Ingest.Result} :
    request.delivery room = request.answer room first second ↔
      Ingest.read room request.first Side.first.label = .ok first ∧
        request.second.map (Ingest.read room · Side.second.label) = second.map .ok := by
  refine ⟨fun same => ?_, fun ⟨reads, readsToo⟩ => delivery_of_read reads readsToo⟩
  have last : (request.delivery room).getLast? = some (.done request.id first second) := by
    rw [same, getLast?_answer]
  rcases delivery_cases request room with ⟨_, _, reads, readsToo⟩ | ⟨overrun, fails⟩
  · rw [delivery_of_read reads readsToo, getLast?_answer] at last
    cases last
    exact ⟨reads, readsToo⟩
  · rw [fails] at last
    cases last

end Standard

theorem request_of_mem_messages {message : Message} (mem : message ∈ request.messages ingest) :
    message.request = request.id :=
  request_of_mem_posted (fun _ _ => request_of_mem_afterFirst) mem

end Request

/-! ## Outstanding messages -/

/-- The messages that a worker will still post about the request that it is busy
with. -/
def Phase.outstanding (ingest : String → String → Ingest.Program) : Phase → List Message
  | .ready => []
  | .calling request none => request.messages ingest
  | .calling request (some first) =>
    request.posted (request.afterSecond first)
      (ingest (request.second.getD "") Side.second.label)
  | .reading request first program => request.posted (request.afterReading ingest first) program
  | .posting message => [message]

/-- The messages that will still be posted. -/
def Scheduler.outstanding (ingest : String → String → Ingest.Program) (scheduler : Scheduler) :
    List Message :=
  scheduler.workers.flatMap (Phase.outstanding ingest) ++
    scheduler.pending.toList.flatMap (Request.messages ingest)

namespace Phase

variable {ingest : String → String → Ingest.Program}

theorem request_of_mem_outstanding {phase : Phase} {message : Message}
    (mem : message ∈ phase.outstanding ingest) : phase.request? = some message.request := by
  have posted (request : Request) (first : Option Ingest.Result) (program : Ingest.Program)
      (mem : message ∈ request.posted (request.afterReading ingest first) program) :
      some request.id = some message.request :=
    congrArg some
      (Request.request_of_mem_posted (fun _ _ => Request.request_of_mem_afterReading) mem).symm
  cases phase with
  | ready => cases mem
  | calling request first =>
      cases first with
      | none => exact posted request none _ mem
      | some first => exact posted request (some first) _ mem
  | reading request first program => exact posted request first program mem
  | posting other =>
      cases List.mem_singleton.mp mem
      rfl

/-- A reading begins with all its messages outstanding. -/
theorem outstanding_calling {request : Request} {first : Option Ingest.Result}
    {text label : String} (call : (calling request first).call? = some (text, label)) :
    (calling request first).outstanding ingest =
      (reading request first (ingest text label)).outstanding ingest := by
  cases first <;> cases call <;> rfl

/-- When a reading is done, what its end leads to is outstanding. -/
theorem outstanding_afterResult (request : Request) (first : Option Ingest.Result)
    (result : Ingest.Result) :
    (afterResult request first result).outstanding ingest =
      (reading request first (.finished result)).outstanding ingest := by
  cases first with
  | some first => rfl
  | none =>
      obtain ⟨id, text, second⟩ := request
      cases second <;> rfl

/-- When a reading is asked about and its request counts, it goes on as if nobody
stopped it. -/
theorem outstanding_poll (request : Request) (first : Option Ingest.Result)
    (next : Bool → Ingest.Program) :
    (reading request first (next false)).outstanding ingest =
      (reading request first (.poll next)).outstanding ingest := by
  simp [outstanding, Request.posted]

/-- The first of the outstanding messages of a reading that reports is the report. -/
theorem outstanding_report (request : Request) (first : Option Ingest.Result)
    (progress : Ingest.Progress) (next : Ingest.Program) :
    (reading request first (.report progress next)).outstanding ingest =
      .progress request.id progress :: (reading request first next).outstanding ingest :=
  rfl

/-- Nothing about the latest request is outstanding from a worker that is busy with
another one. -/
theorem filter_outstanding_of_ne {phase : Phase} {request latest : Nat}
    (busy : phase.request? = some request) (stale : request ≠ latest) :
    (phase.outstanding ingest).filter (·.request = latest) = [] := by
  refine List.filter_eq_nil_iff.mpr fun message mem same => stale ?_
  have own := busy.symm.trans (request_of_mem_outstanding mem)
  exact (Option.some.inj own).trans (of_decide_eq_true same)

end Phase

namespace Scheduler

variable {ingest : String → String → Ingest.Program} {scheduler : Scheduler}

/-- The messages about the latest request that are in the queue or outstanding. -/
def due (ingest : String → String → Ingest.Program) (scheduler : Scheduler) : List Message :=
  (scheduler.queue ++ scheduler.outstanding ingest).filter (·.request = scheduler.latestId)

/-- As far as the latest request is concerned, posting a message always puts it
into the queue. -/
theorem filter_queue_post (message : Message) :
    (scheduler.post message).queue.filter (·.request = scheduler.latestId) =
      (scheduler.queue ++ [message]).filter (·.request = scheduler.latestId) := by
  unfold post isStale
  by_cases latest : message.request = scheduler.latestId <;> simp [latest]

theorem due_of_workers {phase : Phase} (workers : scheduler.workers = [phase]) :
    scheduler.due ingest =
      scheduler.queue.filter (·.request = scheduler.latestId) ++
        ((phase.outstanding ingest).filter (·.request = scheduler.latestId) ++
          (scheduler.pending.toList.flatMap (Request.messages ingest)).filter
            (·.request = scheduler.latestId)) := by
  simp [due, outstanding, workers]

/-- The worker may go on with something that leaves the same messages outstanding. -/
theorem due_withWorker {phase next : Phase} (workers : scheduler.workers = [phase])
    (same : (next.outstanding ingest).filter (·.request = scheduler.latestId) =
      (phase.outstanding ingest).filter (·.request = scheduler.latestId)) :
    due ingest { scheduler with workers := [next] } = scheduler.due ingest := by
  rw [due_of_workers workers, ← same]
  exact due_of_workers rfl

/-- The worker may post the first of its outstanding messages. -/
theorem due_post {phase next : Phase} {message : Message} (workers : scheduler.workers = [phase])
    (posts : phase.outstanding ingest = message :: next.outstanding ingest) :
    due ingest { scheduler.post message with workers := [next] } = scheduler.due ingest := by
  rw [due_of_workers workers, due_of_workers rfl, posts]
  simp [filter_queue_post, ← List.filter_append]

/-- What the only worker does next does not change what is due. -/
theorem due_advance {program : Ingest.Program} {phase : Phase}
    (workers : scheduler.workers = [phase])
    (reads : ∀ text label, phase.call? = some (text, label) → program = ingest text label) :
    due ingest
        { (scheduler.advance program phase).1 with
          workers := (scheduler.advance program phase).2.toList } =
      scheduler.due ingest := by
  cases phase with
  | ready =>
      rw [due_of_workers workers]
      cases pending : scheduler.pending <;>
        simp [due, advance, pending, outstanding, Phase.outstanding]
  | calling request first =>
      obtain ⟨text, label, call⟩ :
          ∃ text label, (Phase.calling request first).call? = some (text, label) := by
        cases first <;> exact ⟨_, _, rfl⟩
      refine due_withWorker workers ?_
      rw [Phase.outstanding_calling call, reads text label call]
  | reading request first rest =>
      cases rest with
      | poll next =>
          simp only [advance, Option.toList_some]
          refine due_withWorker workers ?_
          by_cases latest : request.id = scheduler.latestId
          · have counts : scheduler.isStale request.id = false := by simp [isStale, latest]
            rw [counts, Phase.outstanding_poll]
          · -- The answer may stop the reading, but nothing of it counts any more.
            rw [Phase.filter_outstanding_of_ne rfl latest,
              Phase.filter_outstanding_of_ne rfl latest]
      | report progress next => exact due_post workers (Phase.outstanding_report ..)
      | finished result =>
          refine due_withWorker workers ?_
          rw [Phase.outstanding_afterResult]
      | cancelled message =>
          simp only [advance, Option.toList_some]
          exact due_withWorker workers (by cases first <;> rfl)
      | failed message =>
          simp only [advance, Option.toList_some]
          exact due_withWorker workers (by cases first <;> rfl)
  | posting message => exact due_post workers rfl

/-- A step of a worker does not change what is due. -/
theorem due_work (coherent : scheduler.Coherent) {place : Nat} {program : Ingest.Program}
    (reads : ∀ phase text label, scheduler.workers[place]? = some phase →
      phase.call? = some (text, label) → program = ingest text label) :
    (scheduler.work place program).due ingest = scheduler.due ingest := by
  rcases coherent.work_cases place program with same | ⟨phase, workers, -, rfl, worked⟩
  · rw [same]
  · rw [worked]
    exact due_advance workers fun text label call =>
      reads phase text label (by simp [workers]) call

/-- All messages about a request are due when it has just been made. -/
theorem due_schedule (coherent : scheduler.Coherent) (first : String) (second : Option String) :
    (scheduler.schedule first second).2.due ingest =
      Request.messages ingest ⟨scheduler.nextId, first, second⟩ := by
  let request : Request := ⟨scheduler.nextId, first, second⟩
  have older {number : Nat} (le : number ≤ scheduler.latestId) : number ≠ request.id :=
    Nat.ne_of_lt (coherent.lt_nextId le)
  have queued : scheduler.queue.filter (·.request = request.id) = [] :=
    List.filter_eq_nil_iff.mpr fun message mem same =>
      older (coherent.message_le message mem) (of_decide_eq_true same)
  have working : (scheduler.workers.flatMap (Phase.outstanding ingest)).filter
      (·.request = request.id) = [] := by
    refine List.filter_eq_nil_iff.mpr fun message mem same => ?_
    obtain ⟨phase, worker, mem⟩ := List.mem_flatMap.mp mem
    exact older (coherent.phase_le phase worker _ (Phase.request_of_mem_outstanding mem))
      (of_decide_eq_true same)
  have starting :
      (scheduler.schedule first second).2.workers.flatMap (Phase.outstanding ingest) =
        scheduler.workers.flatMap (Phase.outstanding ingest) := by
    cases running : scheduler.running <;> simp [schedule, running, Phase.outstanding]
  have own : (request.messages ingest).filter (·.request = request.id) =
      request.messages ingest :=
    List.filter_eq_self.mpr fun message mem =>
      decide_eq_true (Request.request_of_mem_messages mem)
  unfold due outstanding
  rw [starting, List.filter_append, List.filter_append]
  change scheduler.queue.filter (·.request = request.id) ++ (_ ++
    ([request].flatMap (Request.messages ingest)).filter (·.request = request.id)) = _
  rw [queued, List.flatMap_singleton, own]
  exact congrArg (· ++ request.messages ingest) working

/-- Only what is in the queue is due when there is no worker. -/
theorem due_of_workers_eq_nil (coherent : scheduler.Coherent) (ended : scheduler.workers = []) :
    scheduler.due ingest = scheduler.queue.filter (·.request = scheduler.latestId) := by
  have running : scheduler.running = false := by
    rcases coherent.workers_cases with ⟨-, running⟩ | ⟨phase, workers, -⟩
    · exact running
    · simp [ended] at workers
  have pending : scheduler.pending = none := by
    cases pending : scheduler.pending with
    | none => rfl
    | some request => simpa [running] using coherent.attended (by simp [pending])
  simp [due, outstanding, ended, pending]

end Scheduler

end ScanTree
