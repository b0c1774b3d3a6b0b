import ScanTree.Proofs.Scheduler.Milestones

/-!
# Abandoned requests

A request that is replaced or given up while it still waits is never served: its
number is neither waiting nor with the worker, and it does not come back.

A request that becomes stale while the worker is busy with it goes on until its
reading asks.  Traces are read in such a way that the first question comes before
the first line.  So when the second trace has yet to ask, none of its lines is
ever read.
-/

namespace ScanTree

namespace Ingest.Program

/-- A reading that has not come to a line of its trace: it is at its beginning, or it was
cancelled before the first line. -/
def Unread (room : Nat) (text label : String) (program : Program) : Prop :=
  program = ofTrace room reportEvery text label ∨ program = cancelled (cancelMessage label 1)

/-- The first thing that a reading does is to ask. -/
theorem exists_ofTrace_eq_poll (room : Nat) (text label : String) :
    ∃ next, ofTrace room reportEvery text label = poll next ∧
      next true = cancelled (cancelMessage label 1) := by
  obtain ⟨line, rest, lines⟩ : ∃ line rest, Text.lines text = line :: rest := by
    apply List.exists_cons_of_ne_nil
    rw [Text.lines, ne_eq, List.map_eq_nil_iff]
    exact Text.piecesBy_ne_nil _ _
  have cadence : reportEvery ≠ 0 := by decide
  rw [ofTrace, if_neg cadence, lines]
  simp only [readFrom, asking, Nat.zero_mod, if_true]
  exact ⟨_, rfl, rfl⟩

theorem Unread.answer {room : Nat} {text label : String} {next : Bool → Program}
    (unread : Unread room text label (poll next)) : Unread room text label (next true) := by
  obtain ⟨first, beginning, stopped⟩ := exists_ofTrace_eq_poll room text label
  rcases unread with same | same
  · rw [beginning] at same
    cases same
    exact Or.inr stopped
  · cases same

theorem not_unread_report {room : Nat} {text label : String} {progress : Progress}
    {next : Program} : ¬ Unread room text label (report progress next) := by
  obtain ⟨first, beginning, -⟩ := exists_ofTrace_eq_poll room text label
  rintro (same | same)
  · rw [beginning] at same
    cases same
  · cases same

end Ingest.Program

/-- A reading that the worker goes on with has just begun, or it was told whether its
request is stale, or it has reported. -/
theorem Scheduler.reading_of_advance {scheduler : Scheduler} {program rest : Ingest.Program}
    {phase : Phase} {request : Request} {first : Option Ingest.Result}
    (goesOn : (scheduler.advance program phase).2 = some (.reading request first rest)) :
    (phase = .calling request first ∧ rest = program) ∨
      (∃ next, phase = .reading request first (.poll next) ∧
        rest = next (scheduler.isStale request.id)) ∨
      ∃ progress, phase = .reading request first (.report progress rest) := by
  cases phase with
  | ready => cases pending : scheduler.pending <;> simp [advance, pending] at goesOn
  | calling other result =>
      cases goesOn
      exact Or.inl ⟨rfl, rfl⟩
  | reading other result program =>
      cases program with
      | poll next =>
          cases goesOn
          exact Or.inr (Or.inl ⟨next, rfl, rfl⟩)
      | report progress next =>
          cases goesOn
          exact Or.inr (Or.inr ⟨progress, rfl⟩)
      | finished outcome =>
          simp only [advance, Phase.afterResult, Option.some.injEq] at goesOn
          split at goesOn <;> cases goesOn
      | cancelled message => cases goesOn
      | failed message => cases goesOn
  | posting message => cases goesOn

/-- A reading that asks is told how it is. -/
theorem Scheduler.stale_of_asked {scheduler : Scheduler} {phase : Phase} {request : Request}
    {side : Side} {stale : Bool}
    (asks : scheduler.happening? phase = some (.asked request side stale)) :
    stale = scheduler.isStale request.id := by
  cases phase with
  | ready => cases pending : scheduler.pending <;> simp [happening?, pending] at asks
  | calling other first => cases asks
  | reading other first rest =>
      cases rest with
      | poll next =>
          cases asks
          rfl
      | _ => cases asks
  | posting message => cases asks

namespace Service

variable {service : Service}

/-! ## Requests that are never taken -/

/-- A number was given away, and its request is neither waiting nor served. -/
structure PassedOver (number : Nat) (service : Service) : Prop where
  coherent : service.scheduler.Coherent
  lt_next : number < service.scheduler.nextId
  waiting_ne : ∀ request, service.scheduler.pending = some request → request.id ≠ number
  busy_ne : ∀ phase ∈ service.scheduler.workers, phase.request? ≠ some number
  unread : ∀ side, (number, side) ∉ service.readings

namespace PassedOver

variable {number : Nat} {later : Service}

/-- A new number becomes the latest one.  It does not matter whether the request of an
older number has waited. -/
theorem renew (renews : Renews service later) (coherent : service.scheduler.Coherent)
    (older : number < service.scheduler.nextId)
    (busy_ne : ∀ phase ∈ service.scheduler.workers, phase.request? ≠ some number)
    (unread : ∀ side, (number, side) ∉ service.readings) : later.PassedOver number := by
  refine ⟨renews.coherent coherent, Nat.lt_trans older renews.nextId_lt, ?_, ?_, ?_⟩
  · intro request waits same
    rw [renews.waits request waits] at same
    exact absurd same (Nat.ne_of_gt older)
  · intro phase worker busy
    rcases renews.workers phase worker with worker | rfl
    · exact busy_ne phase worker busy
    · cases busy
  · intro side isRead
    obtain ⟨request, begun, same⟩ := mem_readings_iff.mp isRead
    exact unread side (mem_readings_iff.mpr ⟨request, (renews.mem_record_iff rfl).mp begun, same⟩)

/-- A request that waits is passed over when another one takes its place or it is given
up. -/
theorem of_waiting (inOrder : service.InOrder) {request : Request}
    (waits : service.scheduler.pending = some request) (renews : Renews service later) :
    later.PassedOver request.id := by
  obtain ⟨passedBefore, busyBefore⟩ := inOrder.waiting request waits
  have latest := inOrder.coherent.pending_latest request waits
  refine renew renews inOrder.coherent (inOrder.coherent.lt_nextId (Nat.le_of_eq latest)) ?_ ?_
  · intro phase worker busy
    exact absurd (busyBefore phase worker _ busy) (Nat.lt_irrefl _)
  · intro side isRead
    obtain ⟨other, begun, same⟩ := mem_readings_iff.mp isRead
    -- A reading would have passed a milestone that comes after the taking of the request.
    have passes : milestone other.id (.begun side) ∈ service.milestones :=
      List.mem_filterMap.mpr ⟨_, begun, rfl⟩
    have before := passedBefore _ passes
    rw [same, milestone_lt_iff] at before
    exact absurd before (Nat.not_lt_zero _)

/-- The worker takes another request or goes on with one. -/
theorem advance (passedOver : service.PassedOver number) (program : Ingest.Program) {phase : Phase}
    (workers : service.scheduler.workers = [phase]) (running : service.scheduler.running = true) :
    (service.advance program phase).PassedOver number := by
  have notBusy : phase.request? ≠ some number := passedOver.busy_ne phase (by simp [workers])
  refine ⟨passedOver.coherent.advance program workers running, ?_, ?_, ?_, ?_⟩
  · rw [nextId_advance]
    exact passedOver.lt_next
  · intro request waits
    exact passedOver.waiting_ne request (Scheduler.pending_of_advance waits).1
  · intro next isNext busy
    rcases Scheduler.request?_of_advance (Option.mem_toList.mp isNext) busy with
      busy | ⟨-, request, waits, same⟩
    · exact notBusy busy
    · exact passedOver.waiting_ne request waits same
  · intro side isRead
    obtain ⟨request, begun, same⟩ := mem_readings_iff.mp isRead
    rcases List.mem_append.mp begun with begun | begins
    · exact passedOver.unread side (mem_readings_iff.mpr ⟨request, begun, same⟩)
    · have busy := Scheduler.request?_of_begun (Option.mem_toList.mp begins)
      exact notBusy (same ▸ busy)

theorem evolve (passedOver : service.PassedOver number) {read : Reader}
    (evolves : Evolves read service later) : later.PassedOver number := by
  cases evolves with
  | renewed renews =>
      exact renew renews passedOver.coherent passedOver.lt_next passedOver.busy_ne
        passedOver.unread
  | received remains =>
      exact ⟨passedOver.coherent.withQueue remains, passedOver.lt_next, passedOver.waiting_ne,
        passedOver.busy_ne, passedOver.unread⟩
  | advanced workers running => exact passedOver.advance _ workers running

theorem run (passedOver : service.PassedOver number) (read : Reader) (steps : List Step) :
    (service.run read steps).PassedOver number :=
  run_keeps read (PassedOver number) (fun _ passedOver => passedOver.coherent)
    (fun _ _ passedOver evolves => passedOver.evolve evolves) steps passedOver

end PassedOver

/-! ## Second traces that are never read -/

/-- The reading of a second trace is at its beginning, or it has asked. -/
structure AsksFirst (room : Nat) (service : Service) : Prop where
  coherent : service.scheduler.Coherent
  asks : ∀ request first program, .reading request (some first) program ∈ service.scheduler.workers →
    program = .ofTrace room Ingest.reportEvery (request.second.getD "") Side.second.label ∨
      ∃ stale, .asked request .second stale ∈ service.record

namespace AsksFirst

variable {room : Nat} {later : Service}

theorem initial : AsksFirst room {} where
  coherent := .initial
  asks _ _ _ reading := by cases reading

theorem renew (asksFirst : service.AsksFirst room) (renews : Renews service later) :
    later.AsksFirst room := by
  refine ⟨renews.coherent asksFirst.coherent, ?_⟩
  intro request first program reading
  rcases renews.workers _ reading with reading | idle
  · rcases asksFirst.asks request first program reading with beginning | ⟨stale, asked⟩
    · exact Or.inl beginning
    · exact Or.inr ⟨stale, (renews.mem_record_iff rfl).mpr asked⟩
  · cases idle

theorem advance (asksFirst : service.AsksFirst room) {phase : Phase}
    (workers : service.scheduler.workers = [phase]) (running : service.scheduler.running = true) :
    (service.advance (service.program (.standard room) phase) phase).AsksFirst room := by
  have worker : phase ∈ service.scheduler.workers := by simp [workers]
  refine ⟨asksFirst.coherent.advance _ workers running, ?_⟩
  intro request first program reading
  rcases Scheduler.reading_of_advance (Option.mem_toList.mp reading) with
    ⟨rfl, begins⟩ | ⟨next, rfl, -⟩ | ⟨progress, rfl⟩
  · exact Or.inl begins
  · exact Or.inr ⟨_, List.mem_append_right _ (List.mem_singleton.mpr rfl)⟩
  · right
    -- At its beginning a reading does not report, so this one has asked.
    rcases asksFirst.asks request first _ worker with beginning | ⟨stale, asked⟩
    · exact absurd (Or.inl beginning) Ingest.Program.not_unread_report
    · exact ⟨stale, List.mem_append_left _ asked⟩

theorem evolve (asksFirst : service.AsksFirst room) (evolves : Evolves (.standard room) service later) :
    later.AsksFirst room := by
  cases evolves with
  | renewed renews => exact asksFirst.renew renews
  | received remains => exact ⟨asksFirst.coherent.withQueue remains, asksFirst.asks⟩
  | advanced workers running => exact asksFirst.advance workers running

theorem run (steps : List Step) : (Service.run (.standard room) {} steps).AsksFirst room :=
  run_keeps (.standard room) (AsksFirst room) (fun _ asksFirst => asksFirst.coherent)
    (fun _ _ asksFirst evolves => asksFirst.evolve evolves) steps initial

end AsksFirst

/-- A request is stale, and its second trace has not been read from. -/
structure Withdrawn (room : Nat) (request : Request) (service : Service) : Prop where
  coherent : service.scheduler.Coherent
  lt_next : request.id < service.scheduler.nextId
  stale : request.id ≠ service.scheduler.latestId
  unasked : .asked request .second false ∉ service.record
  unread : ∀ first program, .reading request (some first) program ∈ service.scheduler.workers →
    program.Unread room (request.second.getD "") Side.second.label

namespace Withdrawn

variable {room : Nat} {request : Request} {later : Service}

/-- A request is withdrawn when it is stale before its second trace has asked. -/
theorem of_unasked (asksFirst : service.AsksFirst room) (numbered : service.Numbered)
    (scheduled : .scheduled request ∈ service.record)
    (stale : service.scheduler.isStale request.id = true)
    (unasked : ∀ stale, .asked request .second stale ∉ service.record) :
    service.Withdrawn room request := by
  have used : request.id ∈ service.numbers := List.mem_filterMap.mpr ⟨_, scheduled, rfl⟩
  refine ⟨numbered.coherent, numbered.coherent.lt_nextId (numbered.le_latest _ used),
    of_decide_eq_true stale, unasked false, ?_⟩
  intro first program reading
  rcases asksFirst.asks request first program reading with beginning | ⟨answer, asked⟩
  · exact Or.inl beginning
  · exact absurd asked (unasked answer)

theorem renew (withdrawn : service.Withdrawn room request) (renews : Renews service later) :
    later.Withdrawn room request := by
  refine ⟨renews.coherent withdrawn.coherent, Nat.lt_trans withdrawn.lt_next renews.nextId_lt,
    ?_, ?_, ?_⟩
  · rw [renews.latestId]
    exact Nat.ne_of_lt withdrawn.lt_next
  · intro asked
    exact withdrawn.unasked ((renews.mem_record_iff rfl).mp asked)
  · intro first program reading
    rcases renews.workers _ reading with reading | idle
    · exact withdrawn.unread first program reading
    · cases idle

theorem advance (withdrawn : service.Withdrawn room request) {phase : Phase}
    (workers : service.scheduler.workers = [phase]) (running : service.scheduler.running = true) :
    (service.advance (service.program (.standard room) phase) phase).Withdrawn room request := by
  have worker : phase ∈ service.scheduler.workers := by simp [workers]
  have told : service.scheduler.isStale request.id = true := decide_eq_true withdrawn.stale
  refine ⟨withdrawn.coherent.advance _ workers running, ?_, ?_, ?_, ?_⟩
  · rw [nextId_advance]
    exact withdrawn.lt_next
  · rw [latestId_advance]
    exact withdrawn.stale
  · intro asked
    rcases List.mem_append.mp asked with asked | asks
    · exact withdrawn.unasked asked
    · have answer := Scheduler.stale_of_asked (Option.mem_toList.mp asks)
      rw [told] at answer
      cases answer
  · intro first program reading
    rcases Scheduler.reading_of_advance (Option.mem_toList.mp reading) with
      ⟨rfl, begins⟩ | ⟨next, rfl, answered⟩ | ⟨progress, rfl⟩
    · exact Or.inl begins
    · rw [answered, told]
      exact (withdrawn.unread first _ worker).answer
    · exact absurd (withdrawn.unread first _ worker) Ingest.Program.not_unread_report

theorem evolve (withdrawn : service.Withdrawn room request)
    (evolves : Evolves (.standard room) service later) : later.Withdrawn room request := by
  cases evolves with
  | renewed renews => exact withdrawn.renew renews
  | received remains =>
      exact ⟨withdrawn.coherent.withQueue remains, withdrawn.lt_next, withdrawn.stale,
        withdrawn.unasked, withdrawn.unread⟩
  | advanced workers running => exact withdrawn.advance workers running

theorem run (withdrawn : service.Withdrawn room request) (steps : List Step) :
    (service.run (.standard room) steps).Withdrawn room request :=
  run_keeps (.standard room) (Withdrawn room request) (fun _ withdrawn => withdrawn.coherent)
    (fun _ _ withdrawn evolves => withdrawn.evolve evolves) steps withdrawn

end Withdrawn

end Service

end ScanTree
