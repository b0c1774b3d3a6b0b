import Mathlib.Data.List.Nodup
import ScanTree.Proofs.Scheduler.Abandonment

/-!
# Serving requests

In every run the requests are taken in the order of their numbers, and each trace
of a request is given to be read at most once, and not at all if the request was
replaced or given up while it waited.  A request whose reading fails has one
failure and no result, and the worker comes back for the request that waits then.
-/

namespace ScanTree

namespace Service

variable (read : Reader) {service : Service}

/-! ## After a failure -/

/-- What has happened is not forgotten. -/
theorem record_prefix_step (step : Step) : service.record <+: (service.step read step).record := by
  cases step with
  | schedule first second => exact List.prefix_append _ _
  | cancel => exact List.prefix_append _ _
  | receive => exact List.prefix_rfl
  | work place =>
      rw [step, work]
      split
      · exact List.prefix_rfl
      · exact List.prefix_append _ _

theorem record_prefix_run (steps : List Step) :
    service.record <+: (service.run read steps).record := by
  induction steps generalizing service with
  | nil => exact List.prefix_rfl
  | cons step rest ih => exact (record_prefix_step read step).trans ih

/-- While the worker makes no step, it stays where it is. -/
theorem workers_run_of_rest {phase : Phase} {steps : List Step}
    (rests : ∀ step ∈ steps, step ≠ .work 0) (workers : service.scheduler.workers = [phase])
    (running : service.scheduler.running = true) :
    (service.run read steps).scheduler.workers = [phase] ∧
      (service.run read steps).scheduler.running = true := by
  induction steps generalizing service with
  | nil => exact ⟨workers, running⟩
  | cons step rest ih =>
      have stays : (service.step read step).scheduler.workers = [phase] ∧
          (service.step read step).scheduler.running = true := by
        cases step with
        | schedule first second =>
            simp [Service.step, schedule, Scheduler.schedule, workers, running]
        | cancel => exact ⟨workers, running⟩
        | receive =>
            rw [Service.step, receive_eq]
            exact ⟨workers, running⟩
        | work place =>
            cases place with
            | zero => exact absurd rfl (rests (.work 0) List.mem_cons_self)
            | succ place => simp [Service.step, work, workers, running]
      exact ih (fun later mem => rests later (List.mem_cons_of_mem _ mem)) stays.1 stays.2

/-- A worker whose reading fails reports the failure with its next step and is ready
then, whatever the clients do before and after that. -/
theorem ready_of_failed {request : Request} {first : Option Ingest.Result} {reason : String}
    {between after : List Step}
    (fails : service.scheduler.workers = [.reading request first (.failed reason)])
    (running : service.scheduler.running = true)
    (rests : ∀ step ∈ between ++ after, step ≠ .work 0) :
    let later := service.run read (.work 0 :: between ++ .work 0 :: after)
    later.scheduler.workers = [.ready] ∧ .posted (.failure request.id reason) ∈ later.record := by
  intro later
  have failed : (service.work read 0).scheduler.workers = [.posting (.failure request.id reason)] ∧
      (service.work read 0).scheduler.running = true := by
    rw [work_zero read fails]
    exact ⟨rfl, running⟩
  obtain ⟨posting, stillRunning⟩ := workers_run_of_rest read
    (fun step mem => rests step (List.mem_append_left _ mem)) failed.1 failed.2
  have reported := work_zero read posting
  have ready : (((service.work read 0).run read between).work read 0).scheduler.workers = [.ready] ∧
      (((service.work read 0).run read between).work read 0).scheduler.running = true := by
    rw [reported]
    exact ⟨rfl, by simpa [advance, Scheduler.advance] using stillRunning⟩
  have same : later = (((service.work read 0).run read between).work read 0).run read after := by
    simp [later, run, step]
  rw [same]
  refine ⟨(workers_run_of_rest read (fun step mem => rests step (List.mem_append_right _ mem))
    ready.1 ready.2).1, ?_⟩
  apply (record_prefix_run read after).subset
  rw [reported]
  exact List.mem_append_right _ (List.mem_singleton.mpr rfl)

/-- A worker that is ready takes the request that waits. -/
theorem takes_of_ready {next : Request} (ready : service.scheduler.workers = [.ready])
    (waits : service.scheduler.pending = some next) :
    (service.work read 0).scheduler.workers = [.calling next none] ∧
      .taken next ∈ (service.work read 0).record := by
  rw [work_zero read ready, advance_ready_of_pending _ waits]
  exact ⟨rfl, List.mem_append_right _ (List.mem_singleton.mpr rfl)⟩

/-! ## Every run -/

/-- In every run each trace of a request is given to be read at most once, and the
requests are taken in increasing order.  A request that waits when another one is made
or the latest is given up is never given to be read.  Read in the standard way, the second
trace of a request that becomes stale before that reading has asked is never told to go
on, and none of its lines is read.  A request that failed has at most one report of that
and no result; the worker reports and takes the request that waits when it is ready. -/
theorem serves_each_request_once (steps : List Step) :
    let service := run read {} steps
    service.readings.Nodup ∧
      service.takings.Pairwise (· < ·) ∧
      (∀ earlier step later, steps = earlier ++ step :: later →
        (step = .cancel ∨ ∃ first second, step = .schedule first second) →
        ∀ request, (run read {} earlier).scheduler.pending = some request →
          ∀ side, (request.id, side) ∉ service.readings) ∧
      (∀ room, read = .standard room → ∀ earlier later, steps = earlier ++ later →
        ∀ request, .scheduled request ∈ (run read {} earlier).record →
          (run read {} earlier).scheduler.isStale request.id = true →
          (∀ stale, .asked request .second stale ∉ (run read {} earlier).record) →
          .asked request .second false ∉ service.record ∧
            ∀ first program, .reading request (some first) program ∈ service.scheduler.workers →
              program.Unread room (request.second.getD "") Side.second.label) ∧
      (∀ request reason, .failed request reason ∈ service.record →
        service.reports.count request.id ≤ 1 ∧
          ∀ first second, .posted (.done request.id first second) ∉ service.record) ∧
      (∀ earlier between after, steps = earlier ++ (.work 0 :: between ++ .work 0 :: after) →
        (∀ step ∈ between ++ after, step ≠ .work 0) →
        ∀ request first reason,
          (run read {} earlier).scheduler.workers = [.reading request first (.failed reason)] →
          .posted (.failure request.id reason) ∈ service.record ∧
            service.scheduler.workers = [.ready] ∧
            ∀ next, service.scheduler.pending = some next →
              (service.work read 0).scheduler.workers = [.calling next none] ∧
                .taken next ∈ (service.work read 0).record) := by
  intro service
  have inOrder : service.InOrder := .run read steps
  refine ⟨inOrder.readings_nodup, inOrder.takings_increasing, ?_, ?_, ?_, ?_⟩
  · rintro earlier step later rfl renews request waits
    have before := InOrder.run read earlier
    have passedOver : ((run read {} earlier).step read step).PassedOver request.id := by
      rcases renews with rfl | ⟨first, second, rfl⟩
      · exact .of_waiting before waits (renews_cancel _)
      · exact .of_waiting before waits (renews_schedule _ first second)
    have split : service = ((run read {} earlier).step read step).run read later :=
      run_append read earlier (step :: later)
    rw [split]
    exact (passedOver.run read later).unread
  · rintro room rfl earlier later rfl request scheduled stale unasked
    have withdrawn : (run (.standard room) {} earlier).Withdrawn room request :=
      .of_unasked (.run earlier) (.run (.standard room) earlier) scheduled stale unasked
    have split : service = (run (.standard room) {} earlier).run (.standard room) later :=
      run_append (.standard room) earlier later
    rw [split]
    exact ⟨(withdrawn.run later).unasked, (withdrawn.run later).unread⟩
  · intro request reason failed
    exact ⟨List.nodup_iff_count_le_one.mp inOrder.reports_nodup request.id,
      inOrder.done_notMem_of_failed failed⟩
  · rintro earlier between after rfl rests request first reason fails
    have coherent := (InOrder.run read earlier).coherent
    have running : (run read {} earlier).scheduler.running = true := by
      rcases coherent.workers_cases with ⟨idle, -⟩ | ⟨phase, -, running⟩
      · rw [fails] at idle
        cases idle
      · exact running
    have split : service =
        (run read {} earlier).run read (.work 0 :: between ++ .work 0 :: after) :=
      run_append read earlier _
    obtain ⟨ready, posted⟩ := ready_of_failed read fails running rests
    rw [← split] at ready posted
    exact ⟨posted, ready, fun next waits => takes_of_ready read ready waits⟩

/-- A request that was replaced is not read, one that is given up between its traces is
told so when the second one asks, and after a failure the worker serves the request that
was made meanwhile. -/
theorem serves_next_after_failure :
    let start : List Step := [.schedule "x" none]
    let replaced : List Step := .schedule "" (some "") :: List.replicate 5 (.work 0) ++ [.cancel]
    let service := run (.standard Json.nestingLimit) {} (start ++ replaced ++ List.replicate 3 (.work 0))
    let failing : Reader := fun _ _ _ => .failed "disk on fire"
    let other := run failing {}
      [.schedule "x" none, .work 0, .work 0, .work 0, .schedule "y" none, .work 0]
    service.readings = [(2, .first), (2, .second)] ∧ (∀ side, (1, side) ∉ service.readings) ∧
      .asked ⟨2, "", some ""⟩ .second true ∈ service.record ∧
      .asked ⟨2, "", some ""⟩ .second false ∉ service.record ∧
      other.reports.count 1 = 1 ∧ (other.work failing 0).takings = [1, 2] ∧
      (other.work failing 0).scheduler.workers = [.calling ⟨2, "y", none⟩ none] := by
  intro start replaced service failing other
  obtain ⟨-, -, passedOver, withdrawn, -, -⟩ := serves_each_request_once
    (.standard Json.nestingLimit)
    (start ++ replaced ++ List.replicate 3 (.work 0))
  obtain ⟨-, -, -, -, -, afterFailure⟩ := serves_each_request_once failing
    [.schedule "x" none, .work 0, .work 0, .work 0, .schedule "y" none, .work 0]
  have record : (run (.standard Json.nestingLimit) {} (start ++ replaced)).record =
      [.scheduled ⟨1, "x", none⟩, .scheduled ⟨2, "", some ""⟩, .taken ⟨2, "", some ""⟩,
        .begun ⟨2, "", some ""⟩ .first, .asked ⟨2, "", some ""⟩ .first false,
        .posted (.progress 2 ⟨"A", 0, 1⟩), .cancelled 3] := rfl
  have further : service.record = (run (.standard Json.nestingLimit) {} (start ++ replaced)).record ++
      [.begun ⟨2, "", some ""⟩ .second, .asked ⟨2, "", some ""⟩ .second true] := rfl
  have unread : .asked ⟨2, "", some ""⟩ .second false ∉ service.record := by
    refine (withdrawn Json.nestingLimit rfl (start ++ replaced) _ rfl ⟨2, "", some ""⟩ ?_ rfl ?_).1
    · simp [record]
    · intro stale
      simp [record]
  have served := (afterFailure [.schedule "x" none, .work 0, .work 0] [.schedule "y" none] [] rfl
    (by simp) ⟨1, "x", none⟩ none "disk on fire" rfl).2.2 ⟨2, "y", none⟩ rfl
  refine ⟨?_, ?_, ?_, unread, ?_, ?_, served.1⟩
  · simp [readings, further, record]
  · exact passedOver start (.schedule "" (some "")) _ rfl (Or.inr ⟨_, _, rfl⟩) ⟨1, "x", none⟩ rfl
  · simp [further]
  · decide +kernel
  · decide +kernel

end Service

end ScanTree
