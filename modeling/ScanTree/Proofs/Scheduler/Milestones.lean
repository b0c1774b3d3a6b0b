import Mathlib.Data.List.Pairwise
import ScanTree.Proofs.Scheduler.Service

/-!
# Milestones

A worker serves one request after the other, and on the way it passes
milestones: the request is taken, its first trace is begun, its second trace is
begun, the outcome is there, and a failure is reported.  In every run the
milestones that the record shows increase strictly.  So the requests are taken in
the order of their numbers, no trace is begun twice, and a request has one
outcome, which is a result or a failure.
-/

namespace ScanTree

/-- How far the serving of a request has come. -/
inductive Stage where
  | taken
  | begun (side : Side)
  | settled
  | reported

/-- The place of a stage among the stages. -/
def Stage.rank : Stage → Nat
  | taken => 0
  | begun .first => 1
  | begun .second => 2
  | settled => 3
  | reported => 4

theorem Stage.rank_lt (stage : Stage) : stage.rank < 5 := by
  rcases stage with _ | (_ | _) | _ | _ <;> decide

/-- The stage after a reading, when this is known of the result of the first one. -/
def Stage.afterReading : Option Ingest.Result → Stage
  | none => begun .second
  | some _ => settled

theorem Stage.rank_begun_lt_afterReading (first : Option Ingest.Result) :
    (begun (.toRead first)).rank < (afterReading first).rank := by
  cases first <;> simp [Side.toRead, afterReading, rank]

theorem Stage.rank_afterReading_le_settled (first : Option Ingest.Result) :
    (afterReading first).rank ≤ settled.rank := by
  cases first <;> simp [afterReading, rank]

/-- The milestones of all requests in one line. -/
def milestone (request : Nat) (stage : Stage) : Nat :=
  5 * request + stage.rank

theorem milestone_lt_of_lt {request other : Nat} (earlier : request < other)
    (stage otherStage : Stage) : milestone request stage < milestone other otherStage := by
  have bound := stage.rank_lt
  unfold milestone
  omega

theorem milestone_lt_iff {request : Nat} {stage otherStage : Stage} :
    milestone request stage < milestone request otherStage ↔ stage.rank < otherStage.rank := by
  unfold milestone
  omega

theorem milestone_le_iff {request : Nat} {stage otherStage : Stage} :
    milestone request stage ≤ milestone request otherStage ↔ stage.rank ≤ otherStage.rank := by
  unfold milestone
  omega

theorem milestone_lt_iff_of_stage {request other : Nat} {stage : Stage} :
    milestone request stage < milestone other stage ↔ request < other := by
  unfold milestone
  omega

theorem lt_milestone_of_lt {passed request other : Nat}
    (before : passed < milestone (request + 1) .taken) (earlier : request < other) :
    passed < milestone other .taken := by
  unfold milestone at before ⊢
  omega

/-- The milestone that is passed when a message is posted. -/
def Message.milestone? : Message → Option Nat
  | progress _ _ => none
  | done request _ _ => some (milestone request .settled)
  | failure request _ => some (milestone request .reported)

/-- The milestone that is passed when something happens. -/
def Happening.milestone? : Happening → Option Nat
  | taken request => some (milestone request.id .taken)
  | begun request side => some (milestone request.id (.begun side))
  | failed request _ => some (milestone request.id .settled)
  | posted message => message.milestone?
  | _ => none

/-- The first milestone that a worker in a phase can pass with its request. -/
def Phase.due? : Phase → Option Nat
  | .ready => none
  | .calling request first => some (milestone request.id (.begun (.toRead first)))
  | .reading request first _ => some (milestone request.id (.afterReading first))
  | .posting message => message.milestone?

namespace Scheduler

variable {scheduler : Scheduler} {program : Ingest.Program} {phase next : Phase}
  {happening : Happening} {number passed due : Nat}

/-- A busy worker passes no milestone that is before the due one or belongs to a later
request. -/
theorem milestone_of_happening? (busy : phase.request? = some number)
    (happens : scheduler.happening? phase = some happening)
    (passes : happening.milestone? = some passed) :
    (∃ due, phase.due? = some due ∧ due ≤ passed) ∧ passed < milestone (number + 1) .taken := by
  cases phase with
  | ready => cases busy
  | calling request first =>
      cases busy
      cases happens
      cases passes
      exact ⟨⟨_, rfl, Nat.le_refl _⟩, milestone_lt_of_lt (Nat.lt_succ_self _) _ _⟩
  | reading request first rest =>
      cases busy
      cases rest with
      | failed message =>
          cases happens
          cases passes
          refine ⟨⟨_, rfl, ?_⟩, milestone_lt_of_lt (Nat.lt_succ_self _) _ _⟩
          exact milestone_le_iff.mpr (Stage.rank_afterReading_le_settled first)
      | finished result => cases happens
      | cancelled message => cases happens
      | _ =>
          cases happens
          cases passes
  | posting message =>
      cases busy
      cases happens
      refine ⟨⟨passed, passes, Nat.le_refl _⟩, ?_⟩
      cases message with
      | progress request progress => cases passes
      | _ =>
          cases passes
          exact milestone_lt_of_lt (Nat.lt_succ_self _) _ _

/-- What is due next is not before what was due, and after what was passed. -/
theorem due?_of_advance (busy : phase.request? = some number)
    (goesOn : (scheduler.advance program phase).2 = some next) (isDue : next.due? = some due) :
    (∃ before, phase.due? = some before ∧ before ≤ due) ∧
      ∀ happening, scheduler.happening? phase = some happening →
        ∀ passed, happening.milestone? = some passed → passed < due := by
  cases phase with
  | ready => cases busy
  | calling request first =>
      cases goesOn
      cases isDue
      have later : milestone request.id (.begun (.toRead first)) <
          milestone request.id (.afterReading first) :=
        milestone_lt_iff.mpr (Stage.rank_begun_lt_afterReading first)
      refine ⟨⟨_, rfl, Nat.le_of_lt later⟩, ?_⟩
      intro happening happens passed passes
      cases happens
      cases passes
      exact later
  | reading request first rest =>
      cases rest with
      | finished result =>
          cases goesOn
          refine ⟨⟨_, rfl, ?_⟩, fun happening happens => by cases happens⟩
          obtain ⟨id, text, second⟩ := request
          cases first with
          | some first =>
              cases isDue
              exact Nat.le_refl _
          | none =>
              cases second with
              | some other =>
                  cases isDue
                  exact Nat.le_refl _
              | none =>
                  cases isDue
                  exact milestone_le_iff.mpr (Stage.rank_afterReading_le_settled none)
      | cancelled message =>
          cases goesOn
          cases isDue
      | failed message =>
          cases goesOn
          cases isDue
          have later : milestone request.id .settled < milestone request.id .reported :=
            milestone_lt_iff.mpr (by decide)
          have settles : milestone request.id (.afterReading first) ≤
              milestone request.id .settled :=
            milestone_le_iff.mpr (Stage.rank_afterReading_le_settled first)
          refine ⟨⟨_, rfl, Nat.le_trans settles (Nat.le_of_lt later)⟩, ?_⟩
          intro happening happens passed passes
          cases happens
          cases passes
          exact later
      | _ =>
          cases goesOn
          refine ⟨⟨due, isDue, Nat.le_refl _⟩, ?_⟩
          intro happening happens passed passes
          cases happens
          cases passes
  | posting message =>
      cases goesOn
      cases isDue

/-- Only a worker that is busy with a request begins to read for it. -/
theorem request?_of_begun {request : Request} {side : Side}
    (begins : scheduler.happening? phase = some (.begun request side)) :
    phase.request? = some request.id := by
  cases phase with
  | ready => cases pending : scheduler.pending <;> simp [happening?, pending] at begins
  | calling other first =>
      cases begins
      rfl
  | reading other first rest => cases rest <;> cases begins
  | posting message => cases begins

end Scheduler

namespace Service

variable {service : Service}

/-- The milestones that have been passed, in order. -/
def milestones (service : Service) : List Nat :=
  service.record.filterMap Happening.milestone?

/-- The numbers of the requests that were taken, in order. -/
def takings (service : Service) : List Nat :=
  service.record.filterMap fun
    | .taken request => some request.id
    | _ => none

/-- The traces that were given to be read, each with the number of its request. -/
def readings (service : Service) : List (Nat × Side) :=
  service.record.filterMap fun
    | .begun request side => some (request.id, side)
    | _ => none

/-- The numbers of the requests whose failure was posted, in order. -/
def reports (service : Service) : List Nat :=
  service.record.filterMap fun
    | .posted (.failure request _) => some request
    | _ => none

theorem mem_readings_iff {number : Nat} {side : Side} :
    (number, side) ∈ service.readings ↔
      ∃ request, .begun request side ∈ service.record ∧ request.id = number := by
  simp only [readings, List.mem_filterMap]
  constructor
  · rintro ⟨happening, mem, isBegun⟩
    cases happening with
    | begun request other =>
        cases isBegun
        exact ⟨request, mem, rfl⟩
    | _ => cases isBegun
  · rintro ⟨request, mem, rfl⟩
    exact ⟨_, mem, rfl⟩

theorem Renews.milestones_eq {later : Service} (renews : Renews service later) :
    later.milestones = service.milestones := by
  obtain ⟨added, isNumbered, same⟩ := renews.record
  have silent : added.milestone? = none := by
    cases added with
    | scheduled request => rfl
    | cancelled number => rfl
    | _ => cases isNumbered
  simp [milestones, same, List.filterMap_append, silent]

/-- The milestones increase and none belongs to a request that is to come.  A request
that waits comes after all of them and after what the worker is busy with, and so does
what is due for the worker. -/
structure InOrder (service : Service) : Prop where
  coherent : service.scheduler.Coherent
  increasing : service.milestones.Pairwise (· < ·)
  lt_next : ∀ passed ∈ service.milestones, passed < milestone service.scheduler.nextId .taken
  waiting : ∀ request, service.scheduler.pending = some request →
    (∀ passed ∈ service.milestones, passed < milestone request.id .taken) ∧
      ∀ phase ∈ service.scheduler.workers, ∀ number, phase.request? = some number →
        number < request.id
  lt_due : ∀ phase ∈ service.scheduler.workers, ∀ due, phase.due? = some due →
    ∀ passed ∈ service.milestones, passed < due

namespace InOrder

theorem initial : InOrder {} where
  coherent := .initial
  increasing := List.Pairwise.nil
  lt_next _ passed := by cases passed
  waiting _ waits := by cases waits
  lt_due _ worker := by cases worker

/-- A new number becomes the latest one. -/
theorem renew (inOrder : service.InOrder) {later : Service} (renews : Renews service later) :
    later.InOrder := by
  refine ⟨renews.coherent inOrder.coherent, ?_, ?_, ?_, ?_⟩
  · rw [renews.milestones_eq]
    exact inOrder.increasing
  · intro passed mem
    rw [renews.milestones_eq] at mem
    exact Nat.lt_trans (inOrder.lt_next passed mem) (milestone_lt_iff_of_stage.mpr renews.nextId_lt)
  · intro request isWaiting
    rw [renews.milestones_eq, renews.waits request isWaiting]
    refine ⟨inOrder.lt_next, ?_⟩
    intro phase worker number busy
    rcases renews.workers phase worker with worker | rfl
    · exact inOrder.coherent.lt_nextId (inOrder.coherent.phase_le phase worker number busy)
    · cases busy
  · intro phase worker due isDue passed mem
    rw [renews.milestones_eq] at mem
    rcases renews.workers phase worker with worker | rfl
    · exact inOrder.lt_due phase worker due isDue passed mem
    · cases isDue

/-- One more thing happens.  What it passes, if it passes a milestone, is not before
a bound that all milestones are before. -/
theorem concat (inOrder : service.InOrder) (scheduler : Scheduler) (happening : Option Happening)
    (follows : ∀ passed, happening.bind Happening.milestone? = some passed →
      ∀ earlier ∈ service.milestones, earlier < passed) :
    let later : Service := ⟨scheduler, service.record ++ happening.toList⟩
    later.milestones.Pairwise (· < ·) ∧
      ∀ passed ∈ later.milestones, passed ∈ service.milestones ∨
        happening.bind Happening.milestone? = some passed := by
  intro later
  have split : later.milestones =
      service.milestones ++ (happening.bind Happening.milestone?).toList := by
    cases happening with
    | none => simp [later, milestones]
    | some happening =>
        cases passes : happening.milestone? <;>
          simp [later, milestones, List.filterMap_append, passes]
  rw [split]
  constructor
  · rw [List.pairwise_append]
    refine ⟨inOrder.increasing, ?_, ?_⟩
    · cases happening.bind Happening.milestone? with
      | none => exact List.Pairwise.nil
      | some passed => exact List.pairwise_singleton _ _
    · intro earlier mem passed isNew
      exact follows passed (Option.mem_toList.mp isNew) earlier mem
  · intro passed mem
    rcases List.mem_append.mp mem with mem | isNew
    · exact Or.inl mem
    · exact Or.inr (Option.mem_toList.mp isNew)

/-- The worker takes the request that waits, or ends if there is none. -/
theorem take (inOrder : service.InOrder) (program : Ingest.Program)
    (workers : service.scheduler.workers = [.ready]) (running : service.scheduler.running = true) :
    (service.advance program .ready).InOrder := by
  have coherent : (service.advance program .ready).scheduler.Coherent :=
    inOrder.coherent.advance program workers running
  cases pending : service.scheduler.pending with
  | none =>
      have ends : service.advance program .ready =
          { service with
            scheduler := { service.scheduler with running := false, workers := [] } } := by
        simp [advance, Scheduler.advance, Scheduler.happening?, pending]
      rw [ends] at coherent ⊢
      refine ⟨coherent, inOrder.increasing, inOrder.lt_next, ?_, ?_⟩
      · intro request waits
        cases pending.symm.trans waits
      · intro phase worker
        cases worker
  | some request =>
      have takes := advance_ready_of_pending program pending
      have bound := (inOrder.waiting request pending).1
      rw [takes] at coherent ⊢
      obtain ⟨increasing, members⟩ := inOrder.concat
        { service.scheduler with pending := none, workers := [.calling request none] }
        (some (.taken request)) (by
          intro passed passes
          cases passes
          exact bound)
      refine ⟨coherent, increasing, ?_, ?_, ?_⟩
      · intro passed mem
        rcases members passed mem with mem | passes
        · exact inOrder.lt_next passed mem
        · cases passes
          have latest := inOrder.coherent.pending_latest request pending
          exact milestone_lt_of_lt (inOrder.coherent.lt_nextId (Nat.le_of_eq latest)) _ _
      · intro other waits
        cases waits
      · intro phase worker due isDue passed mem
        cases List.mem_singleton.mp worker
        cases isDue
        have later : milestone request.id .taken < milestone request.id (.begun (.toRead none)) :=
          milestone_lt_iff.mpr (by decide)
        rcases members passed mem with mem | passes
        · exact Nat.lt_trans (bound passed mem) later
        · cases passes
          exact later

/-- The worker goes on with its request. -/
theorem goOn (inOrder : service.InOrder) (program : Ingest.Program) {phase : Phase} {number : Nat}
    (workers : service.scheduler.workers = [phase]) (running : service.scheduler.running = true)
    (busy : phase.request? = some number) :
    (service.advance program phase).InOrder := by
  have coherent := inOrder.coherent.advance program workers running
  have worker : phase ∈ service.scheduler.workers := by simp [workers]
  have passing (passed : Nat)
      (passes : (service.scheduler.happening? phase).bind Happening.milestone? = some passed) :
      (∀ earlier ∈ service.milestones, earlier < passed) ∧
        passed < milestone (number + 1) .taken := by
    obtain ⟨happening, happens, passes⟩ := Option.bind_eq_some_iff.mp passes
    obtain ⟨⟨due, isDue, le⟩, bound⟩ :=
      Scheduler.milestone_of_happening? busy happens passes
    refine ⟨fun earlier mem => ?_, bound⟩
    exact Nat.lt_of_lt_of_le (inOrder.lt_due phase worker due isDue earlier mem) le
  obtain ⟨increasing, members⟩ := inOrder.concat
    { (service.scheduler.advance program phase).1 with
      workers := (service.scheduler.advance program phase).2.toList }
    (service.scheduler.happening? phase) (fun passed passes => (passing passed passes).1)
  refine ⟨coherent, increasing, ?_, ?_, ?_⟩
  · intro passed mem
    rw [nextId_advance]
    rcases members passed mem with mem | passes
    · exact inOrder.lt_next passed mem
    · have older := inOrder.coherent.phase_le phase worker number busy
      exact lt_milestone_of_lt (passing passed passes).2 (inOrder.coherent.lt_nextId older)
  · intro request waits
    obtain ⟨passedBefore, busyBefore⟩ :=
      inOrder.waiting request (Scheduler.pending_of_advance waits).1
    -- What waits is newer than what the worker is busy with, so whatever is passed now comes
    -- before it.
    have older := busyBefore phase worker number busy
    constructor
    · intro passed mem
      rcases members passed mem with mem | passes
      · exact passedBefore passed mem
      · exact lt_milestone_of_lt (passing passed passes).2 older
    · intro next isNext other busyWith
      rcases Scheduler.request?_of_advance (Option.mem_toList.mp isNext) busyWith with
        same | ⟨idle, -⟩
      · rwa [← Option.some.inj (busy.symm.trans same)]
      · rw [idle] at busy
        cases busy
  · intro next isNext due isDue passed mem
    obtain ⟨⟨old, wasDue, le⟩, after⟩ :=
      Scheduler.due?_of_advance busy (Option.mem_toList.mp isNext) isDue
    rcases members passed mem with mem | passes
    · exact Nat.lt_of_lt_of_le (inOrder.lt_due phase worker old wasDue passed mem) le
    · obtain ⟨happening, happens, passes⟩ := Option.bind_eq_some_iff.mp passes
      exact after happening happens passed passes

theorem evolve (inOrder : service.InOrder) {read : Reader} {later : Service}
    (evolves : Evolves read service later) : later.InOrder := by
  cases evolves with
  | renewed renews => exact inOrder.renew renews
  | received remains =>
      exact ⟨inOrder.coherent.withQueue remains, inOrder.increasing, inOrder.lt_next,
        inOrder.waiting, inOrder.lt_due⟩
  | @advanced phase workers running =>
      cases busy : phase.request? with
      | some number => exact inOrder.goOn _ workers running busy
      | none =>
          cases phase with
          | ready => exact inOrder.take _ workers running
          | _ => cases busy

theorem run (read : Reader) (steps : List Step) : (Service.run read {} steps).InOrder :=
  run_keeps read InOrder (fun _ inOrder => inOrder.coherent)
    (fun _ _ inOrder evolves => inOrder.evolve evolves) steps initial

variable {α : Type}

/-- What is read off the milestones increases with them. -/
theorem pairwise_filterMap (inOrder : service.InOrder) {read? : Happening → Option α}
    {position : α → Nat}
    (reads : ∀ happening value, read? happening = some value →
      happening.milestone? = some (position value)) :
    (service.record.filterMap read?).Pairwise fun first second =>
      position first < position second := by
  have increasing := inOrder.increasing
  rw [milestones, List.pairwise_filterMap] at increasing
  rw [List.pairwise_filterMap]
  refine increasing.imp fun {earlier later} precedes first isFirst second isSecond => ?_
  exact precedes _ (reads earlier first isFirst) _ (reads later second isSecond)

/-- Two things that pass the same milestone are one. -/
theorem eq_of_milestone?_eq (inOrder : service.InOrder) {first second : Happening} {passed : Nat}
    (firstMem : first ∈ service.record) (secondMem : second ∈ service.record)
    (firstPasses : first.milestone? = some passed) (secondPasses : second.milestone? = some passed) :
    first = second := by
  have increasing := inOrder.increasing
  rw [milestones, List.pairwise_filterMap] at increasing
  have apart : service.record.Pairwise fun earlier later =>
      ¬ (earlier.milestone? = some passed ∧ later.milestone? = some passed) := by
    refine increasing.imp fun {earlier later} precedes both => ?_
    exact absurd (precedes passed both.1 passed both.2) (Nat.lt_irrefl _)
  have : Std.Symm fun earlier later : Happening =>
      ¬ (earlier.milestone? = some passed ∧ later.milestone? = some passed) :=
    ⟨fun _ _ notBoth both => notBoth both.symm⟩
  by_cases same : first = second
  · exact same
  · exact absurd ⟨firstPasses, secondPasses⟩ (apart.forall firstMem secondMem same)

end InOrder

/-! ## What the milestones tell -/

namespace InOrder

theorem takings_increasing (inOrder : service.InOrder) : service.takings.Pairwise (· < ·) := by
  have ordered : service.takings.Pairwise fun first second =>
      milestone first .taken < milestone second .taken := by
    apply inOrder.pairwise_filterMap
    intro happening number isTaken
    cases happening with
    | taken request =>
        cases isTaken
        rfl
    | _ => cases isTaken
  exact ordered.imp milestone_lt_iff_of_stage.mp

theorem readings_nodup (inOrder : service.InOrder) : service.readings.Nodup := by
  have ordered : service.readings.Pairwise fun first second =>
      milestone first.1 (.begun first.2) < milestone second.1 (.begun second.2) := by
    apply inOrder.pairwise_filterMap
    intro happening reading isBegun
    cases happening with
    | begun request side =>
        cases isBegun
        rfl
    | _ => cases isBegun
  exact ordered.imp fun before same => absurd before (by rw [same]; exact Nat.lt_irrefl _)

theorem reports_nodup (inOrder : service.InOrder) : service.reports.Nodup := by
  have ordered : service.reports.Pairwise fun first second =>
      milestone first .reported < milestone second .reported := by
    apply inOrder.pairwise_filterMap
    intro happening number isReport
    cases happening with
    | posted message =>
        cases message with
        | failure request reason =>
            cases isReport
            rfl
        | _ => cases isReport
    | _ => cases isReport
  exact ordered.imp fun before same => absurd before (by rw [same]; exact Nat.lt_irrefl _)

/-- A request that failed has no result. -/
theorem done_notMem_of_failed (inOrder : service.InOrder) {request : Request} {reason : String}
    (failed : .failed request reason ∈ service.record) (first : Ingest.Result)
    (second : Option Ingest.Result) :
    .posted (.done request.id first second) ∉ service.record := by
  intro done
  cases inOrder.eq_of_milestone?_eq failed done rfl rfl

end InOrder

end Service

end ScanTree
