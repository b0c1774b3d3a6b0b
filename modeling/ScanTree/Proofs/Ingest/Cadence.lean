import Mathlib.Algebra.Order.Floor.Div
import ScanTree.Proofs.Ingest.Account

/-!
# The cadence of a reading

A reading that can be cancelled goes through its lines in blocks of equal length,
whatever the lines hold: before every block it asks, and if it is told to go on, it
reports and reads the lines of the block.  So how often it asks and what it reports
is known from the number of lines that it comes to alone, and when it is cancelled
it has read the blocks in front of the question and nothing else.  It comes to all
lines unless one of them nests too deep, and then to that one.
-/

namespace ScanTree

namespace Ingest

/-- The number of lines that a reading comes to. -/
def reached : Except Breakdown Result → Nat
  | .ok result => result.totalLines
  | .error breakdown => breakdown.line

/-- How a reading ends that is not cancelled. -/
def Outcome.ofReading : Except Breakdown Result → Outcome
  | .ok result => .finished result
  | .error breakdown => .failed breakdown.overrun.message

section Reached

variable {room : Nat} {text label : String}

theorem reached_read_of_shallow (shallow : IsShallow room text) :
    reached (read room text label) = (Text.lines text).length := by
  rw [read_of_shallow shallow, reached]

/-- Whatever comes before the line that a reading comes to at last can be read. -/
theorem exists_readFrom_of_lt_reached {count : Nat}
    (before : count < reached (read room text label)) :
    count < (Text.lines text).length ∧
      ∃ pass, Pass.readFrom room {} 0 ((Text.lines text).take count) = .ok pass := by
  by_cases shallow : IsShallow room text
  · rw [reached_read_of_shallow shallow] at before
    exact ⟨before, _, Pass.readFrom_of_shallow _ _ fun line member =>
      shallow line (List.mem_of_mem_take member)⟩
  · obtain ⟨first, piece, after, overrun, split, shallow, deep⟩ :=
      exists_deep_of_not_isShallow shallow
    rw [read_of_deep split shallow deep, reached, Nat.lt_succ_iff] at before
    rw [split, List.take_append_of_le_length before, List.length_append, List.length_cons]
    exact ⟨by omega, _, Pass.readFrom_of_shallow _ _ fun line member =>
      shallow line (List.mem_of_mem_take member)⟩

theorem reached_read_le : reached (read room text label) ≤ (Text.lines text).length := by
  by_contra more
  exact Nat.lt_irrefl _ (exists_readFrom_of_lt_reached (Nat.lt_of_not_le more)).1

end Reached

namespace Program

/-- What becomes of a reading when lines have been read without a question. -/
def goOnAfter (block : Except (Pass × Nat × Json.Overrun) Pass) (goOn : Pass → Program) : Program :=
  match block with
  | .ok pass => goOn pass
  | .error (_, _, overrun) => .failed overrun.message

/-- A reading block by block: before each block of `every` lines it asks, and if it is
told to go on, it reports and reads the lines of the block. -/
def inBlocks (room every : Nat) (label : String) (total position : Nat) (pass : Pass)
    (lines : List String) : Program :=
  if _more : 0 < every ∧ lines ≠ [] then
    .poll fun stop =>
      if stop then .cancelled (cancelMessage label (position + 1))
      else
        .report ⟨label, position, total⟩
          (goOnAfter (pass.readFrom room position (lines.take every)) fun later =>
            inBlocks room every label total (position + every) later (lines.drop every))
  else .finished (pass.result label total)
termination_by lines.length
decreasing_by
  rw [List.length_drop]
  have := List.length_pos_iff.2 _more.2
  omega

section Blocks

variable {room every : Nat} {label : String} {total position : Nat} {pass later : Pass}
  {lines : List String}

theorem inBlocks_nil :
    inBlocks room every label total position pass [] = .finished (pass.result label total) := by
  rw [inBlocks, dif_neg fun more => more.2 rfl]

theorem inBlocks_of_ne_nil (positive : 0 < every) (more : lines ≠ []) :
    inBlocks room every label total position pass lines =
      .poll fun stop =>
        if stop then .cancelled (cancelMessage label (position + 1))
        else
          .report ⟨label, position, total⟩
            (goOnAfter (pass.readFrom room position (lines.take every)) fun later =>
              inBlocks room every label total (position + every) later (lines.drop every)) := by
  rw [inBlocks, dif_pos ⟨positive, more⟩]

theorem goOnAfter_bind (block : Except (Pass × Nat × Json.Overrun) Pass)
    (next : Pass → Except (Pass × Nat × Json.Overrun) Pass) (goOn : Pass → Program) :
    goOnAfter (block >>= next) goOn = goOnAfter block fun later => goOnAfter (next later) goOn := by
  cases block <;> rfl

/-- A reading of a line may ask, and then goes on after that line if it can be read. -/
theorem readFrom_cons (line : String) (rest : List String) :
    readFrom room every label total position pass (line :: rest) =
      asking every label total position
        (goOnAfter (pass.readFrom room position [line]) fun later =>
          readFrom room every label total (position + 1) later rest) := by
  cases told : (Line.ofText room line).overrun? with
  | none =>
      rw [readFrom_cons_of_shallow told, Pass.readFrom_cons_of_shallow pass position told]
      rfl
  | some overrun =>
      have deep := Line.overrun?_eq_some_iff.1 told
      rw [readFrom_cons_of_deep deep, Pass.readFrom_cons_of_deep pass position [] deep]
      rfl

theorem goOnAfter_readFrom_cons (line : String) (rest : List String) (goOn : Pass → Program) :
    goOnAfter (pass.readFrom room position (line :: rest)) goOn =
      goOnAfter (pass.readFrom room position [line]) fun later =>
        goOnAfter (later.readFrom room (position + 1) rest) goOn := by
  rw [← List.singleton_append, Pass.readFrom_append, goOnAfter_bind, List.length_singleton]

/-- Where no position is a multiple of the cadence, lines are read without a
question. -/
theorem readFrom_of_between {count : Nat}
    (between : ∀ ahead < count, (position + ahead) % every ≠ 0) :
    readFrom room every label total position pass lines =
      goOnAfter (pass.readFrom room position (lines.take count)) fun later =>
        readFrom room every label total (position + count) later (lines.drop count) := by
  induction count generalizing position pass lines with
  | zero => rfl
  | succ count ih =>
      cases lines with
      | nil => rfl
      | cons line rest =>
          have here : position % every ≠ 0 := between 0 (Nat.succ_pos count)
          have next : ∀ ahead < count, (position + 1 + ahead) % every ≠ 0 := by
            intro ahead less
            rw [Nat.add_assoc, Nat.add_comm 1]
            exact between (ahead + 1) (Nat.succ_lt_succ less)
          rw [readFrom_cons, asking, if_neg here, List.take_succ_cons,
            goOnAfter_readFrom_cons line (rest.take count)]
          simp only [ih next, Nat.add_assoc, Nat.add_comm 1, List.drop_succ_cons]

/-- A reading asks before a block and not again before the next one. -/
theorem readFrom_eq_inBlocks (positive : 0 < every) (aligned : position % every = 0) :
    readFrom room every label total position pass lines =
      inBlocks room every label total position pass lines := by
  induction size : lines.length using Nat.strong_induction_on generalizing position pass lines with
  | _ count ih =>
      cases lines with
      | nil => exact inBlocks_nil.symm
      | cons line rest =>
          obtain ⟨others, rfl⟩ : ∃ others, every = others + 1 := ⟨every - 1, by omega⟩
          have between : ∀ ahead < others, (position + 1 + ahead) % (others + 1) ≠ 0 := by
            intro ahead less
            rw [Nat.add_assoc, Nat.add_mod, aligned, Nat.zero_add, Nat.mod_mod,
              Nat.mod_eq_of_lt (by omega)]
            omega
          have next : (position + (others + 1)) % (others + 1) = 0 := by
            rw [Nat.add_mod_right, aligned]
          have shorter : (rest.drop others).length < count := by
            rw [← size, List.length_cons, List.length_drop]
            omega
          rw [readFrom_cons, asking, if_pos aligned,
            inBlocks_of_ne_nil positive (List.cons_ne_nil line rest), List.take_succ_cons,
            goOnAfter_readFrom_cons line (rest.take others)]
          simp only [readFrom_of_between between, Nat.add_assoc, Nat.add_comm 1,
            ih _ shorter next rfl, List.drop_succ_cons]

/-! ## Runs -/

variable {answer : Nat → Bool} {asked : Nat}

theorem run_inBlocks_of_yes (positive : 0 < every) (more : lines ≠ [])
    (yes : answer (asked + 1) = true) :
    (inBlocks room every label total position pass lines).run answer asked =
      ⟨[], asked + 1, .cancelled (cancelMessage label (position + 1))⟩ := by
  rw [inBlocks_of_ne_nil positive more, run, if_pos yes, run]

theorem run_inBlocks_of_no (positive : 0 < every) (more : lines ≠ [])
    (no : answer (asked + 1) = false) :
    (inBlocks room every label total position pass lines).run answer asked =
      let next := (goOnAfter (pass.readFrom room position (lines.take every)) fun later =>
        inBlocks room every label total (position + every) later
          (lines.drop every)).run answer (asked + 1)
      { next with reports := ⟨label, position, total⟩ :: next.reports } := by
  rw [inBlocks_of_ne_nil positive more, run, if_neg (Bool.eq_false_iff.1 no), run]

/-- As long as it is told to go on, a reading reports before every block and reads
it. -/
theorem run_inBlocks_of_goesOn (positive : 0 < every) {count : Nat}
    (within : ∀ k < count, k * every < lines.length)
    (goesOn : ∀ k < count, answer (asked + k + 1) = false)
    (reads : pass.readFrom room position (lines.take (count * every)) = .ok later) :
    (inBlocks room every label total position pass lines).run answer asked =
      let next := (inBlocks room every label total (position + count * every) later
        (lines.drop (count * every))).run answer (asked + count)
      { next with
        reports := (List.range count).map (fun k => ⟨label, position + k * every, total⟩)
          ++ next.reports } := by
  induction count generalizing later with
  | zero =>
      obtain rfl : pass = later := by simpa [Pass.readFrom] using reads
      simp
  | succ count ih =>
      have here := within count (Nat.lt_succ_self count)
      have more : lines.drop (count * every) ≠ [] := by
        rw [ne_eq, List.drop_eq_nil_iff]
        omega
      rw [Nat.succ_mul, List.take_add, Pass.readFrom_append, List.length_take,
        Nat.min_eq_left here.le] at reads
      obtain ⟨middle, readsMiddle, readsBlock⟩ := exists_of_bind_eq_ok reads
      rw [ih (fun k less => within k (Nat.lt_succ_of_lt less))
          (fun k less => goesOn k (Nat.lt_succ_of_lt less)) readsMiddle,
        run_inBlocks_of_no positive more (goesOn count (Nat.lt_succ_self count)), readsBlock]
      simp only [goOnAfter, List.drop_drop, Nat.succ_mul, List.range_succ, List.map_append,
        List.map_cons, List.map_nil, List.append_assoc, List.singleton_append, Nat.add_assoc]

theorem lt_ceilDiv_iff (positive : 0 < every) {count whole : Nat} :
    count < whole ⌈/⌉ every ↔ count * every < whole := by
  rw [Nat.mul_comm]
  exact lt_iff_lt_of_le_iff_le (ceilDiv_le_iff_le_mul positive)

/-- Told to go on every time, a reading of lines none of which nests too deep reports
before every block and reads all lines. -/
theorem run_inBlocks_to_end (positive : 0 < every)
    (goesOn : ∀ k < lines.length ⌈/⌉ every, answer (asked + k + 1) = false)
    (reads : pass.readFrom room position lines = .ok later) :
    (inBlocks room every label total position pass lines).run answer asked =
      ⟨(List.range (lines.length ⌈/⌉ every)).map fun k => ⟨label, position + k * every, total⟩,
        asked + lines.length ⌈/⌉ every, .finished (later.result label total)⟩ := by
  have all : lines.length ≤ lines.length ⌈/⌉ every * every := by
    rw [Nat.mul_comm]
    exact le_smul_ceilDiv positive
  rw [← List.take_of_length_le all] at reads
  rw [run_inBlocks_of_goesOn positive (fun _ => (lt_ceilDiv_iff positive).1) goesOn reads,
    List.drop_of_length_le all, inBlocks_nil]
  simp only [run, List.append_nil]

/-- A reading of lines the first of which to nest too deep stands in the given block
reports before that block and the earlier ones, and fails. -/
theorem run_inBlocks_to_failure (positive : 0 < every) {count line : Nat} {broken : Pass}
    {overrun : Json.Overrun} (within : count * every < lines.length)
    (goesOn : ∀ k < count + 1, answer (asked + k + 1) = false)
    (reads : pass.readFrom room position (lines.take (count * every)) = .ok later)
    (breaks : later.readFrom room (position + count * every)
      ((lines.drop (count * every)).take every) = .error (broken, line, overrun)) :
    (inBlocks room every label total position pass lines).run answer asked =
      ⟨(List.range (count + 1)).map fun k => ⟨label, position + k * every, total⟩,
        asked + (count + 1), .failed overrun.message⟩ := by
  have more : lines.drop (count * every) ≠ [] := by
    rw [ne_eq, List.drop_eq_nil_iff]
    omega
  have before : ∀ k < count, k * every < lines.length := fun k less =>
    Nat.lt_of_le_of_lt (Nat.mul_le_mul_right every less.le) within
  rw [run_inBlocks_of_goesOn positive before
      (fun k less => goesOn k (Nat.lt_succ_of_lt less)) reads,
    run_inBlocks_of_no positive more (goesOn count (Nat.lt_succ_self count)), breaks]
  simp only [goOnAfter, run, List.range_succ, List.map_append, List.map_cons, List.map_nil,
    Nat.add_assoc]

/-- A reading that is cancelled before a block has reported before the earlier ones. -/
theorem run_inBlocks_stopped (positive : 0 < every) {count : Nat}
    (within : count * every < lines.length) (stops : answer (asked + count + 1) = true)
    (goesOn : ∀ k < count, answer (asked + k + 1) = false)
    (reads : pass.readFrom room position (lines.take (count * every)) = .ok later) :
    (inBlocks room every label total position pass lines).run answer asked =
      ⟨(List.range count).map fun k => ⟨label, position + k * every, total⟩, asked + count + 1,
        .cancelled (cancelMessage label (position + count * every + 1))⟩ := by
  have more : lines.drop (count * every) ≠ [] := by
    rw [ne_eq, List.drop_eq_nil_iff]
    omega
  have before : ∀ k < count, k * every < lines.length := fun k less =>
    Nat.lt_of_le_of_lt (Nat.mul_le_mul_right every less.le) within
  rw [run_inBlocks_of_goesOn positive before goesOn reads,
    run_inBlocks_of_yes positive more stops]
  simp only [List.append_nil]

theorem exists_block_of_within {before : List String} {start : Nat} (piece : String)
    (after : List String) (aligned : start ≤ before.length)
    (inside : before.length < start + every) :
    ∃ rest, ((before ++ piece :: after).drop start).take every =
      before.drop start ++ piece :: rest := by
  obtain ⟨others, left⟩ := Nat.exists_eq_add_of_lt inside
  have short : (before.drop start).length ≤ every := by
    rw [List.length_drop]
    omega
  refine ⟨after.take others, ?_⟩
  rw [List.drop_append_of_le_length aligned, List.take_append, List.take_of_length_le short,
    List.length_drop, show every - (before.length - start) = others + 1 by omega,
    List.take_succ_cons]

end Blocks

section Traces

variable {room every : Nat} (positive : 0 < every) {text label : String} {answer : Nat → Bool}

include positive

theorem ofTrace_eq_inBlocks (room : Nat) (text label : String) :
    ofTrace room every text label =
      inBlocks room every label (Text.lines text).length 0 {} (Text.lines text) := by
  rw [ofTrace, if_neg (Nat.ne_of_gt positive), readFrom_eq_inBlocks positive (Nat.zero_mod every)]

/-- Never told to stop, a reading comes to its end or to the first line that nests too
deep. -/
theorem run_ofTrace_uncancelled
    (goesOn : ∀ k, 1 ≤ k → k ≤ reached (read room text label) ⌈/⌉ every → answer k = false) :
    (ofTrace room every text label).run answer 0 =
      ⟨(List.range (reached (read room text label) ⌈/⌉ every)).map fun block =>
          ⟨label, block * every, (Text.lines text).length⟩,
        reached (read room text label) ⌈/⌉ every, .ofReading (read room text label)⟩ := by
  have answers : ∀ k < reached (read room text label) ⌈/⌉ every, answer (0 + k + 1) = false :=
    fun k less => goesOn (0 + k + 1) (Nat.succ_pos _) (by omega)
  rw [ofTrace_eq_inBlocks positive]
  by_cases shallow : IsShallow room text
  · have reads := Pass.readFrom_of_shallow {} 0 shallow
    rw [reached_read_of_shallow shallow] at answers ⊢
    rw [run_inBlocks_to_end positive answers reads, read]
    simp only [reads, Nat.zero_add, Outcome.ofReading]
  · obtain ⟨before, piece, after, overrun, split, shallow, deep⟩ :=
      exists_deep_of_not_isShallow shallow
    -- The block of the line is told by the number of lines in front of it.
    have questions : (before.length + 1) ⌈/⌉ every = before.length / every + 1 := by
      rw [Nat.ceilDiv_eq_add_pred_div, Nat.add_right_comm, Nat.add_sub_cancel,
        Nat.add_div_right _ positive]
    have aligned : before.length / every * every ≤ before.length := Nat.div_mul_le_self _ _
    have inside : before.length < before.length / every * every + every :=
      Nat.lt_div_mul_add positive
    have readsEq := read_of_deep split shallow deep label
    have start : before.length / every * every < reached (read room text label) := by
      rw [readsEq, reached]
      exact Nat.lt_succ_of_le aligned
    obtain ⟨within, later, reads⟩ := exists_readFrom_of_lt_reached start
    obtain ⟨rest, block⟩ := exists_block_of_within piece after aligned inside
    rw [← split] at block
    have shallowBlock : ∀ other ∈ before.drop (before.length / every * every),
        (Line.ofText room other).overrun? = none :=
      fun other member => shallow other (List.mem_of_mem_drop member)
    have breaks := later.readFrom_of_deep (0 + before.length / every * every) shallowBlock deep rest
    rw [← block] at breaks
    rw [readsEq, reached, questions] at answers ⊢
    rw [run_inBlocks_to_failure positive within answers reads breaks]
    simp only [Nat.zero_add, Outcome.ofReading]

theorem run_ofTrace_stopped {k : Nat} (first : 1 ≤ k)
    (within : k ≤ reached (read room text label) ⌈/⌉ every) (stops : answer k = true)
    (goesOn : ∀ earlier, 1 ≤ earlier → earlier < k → answer earlier = false) :
    (ofTrace room every text label).run answer 0 =
      ⟨(List.range (k - 1)).map fun block => ⟨label, block * every, (Text.lines text).length⟩,
        k, .cancelled (cancelMessage label ((k - 1) * every + 1))⟩ := by
  obtain ⟨count, rfl⟩ : ∃ count, k = count + 1 := ⟨k - 1, by omega⟩
  obtain ⟨before, pass, reads⟩ :=
    exists_readFrom_of_lt_reached ((lt_ceilDiv_iff positive).1 within)
  have answers : ∀ k < count, answer (0 + k + 1) = false :=
    fun k less => goesOn (0 + k + 1) (Nat.succ_pos _) (by omega)
  have stopped : answer (0 + count + 1) = true := by rwa [Nat.zero_add]
  rw [ofTrace_eq_inBlocks positive, run_inBlocks_stopped positive before stopped answers reads]
  simp only [Nat.zero_add, Nat.add_sub_cancel]

/-- Only the answers to the questions before the blocks matter. -/
theorem run_ofTrace_congr {other : Nat → Bool}
    (same : ∀ k, 1 ≤ k → k ≤ reached (read room text label) ⌈/⌉ every → other k = answer k) :
    (ofTrace room every text label).run other 0 =
      (ofTrace room every text label).run answer 0 := by
  by_cases stops : ∃ k, (1 ≤ k ∧ k ≤ reached (read room text label) ⌈/⌉ every) ∧ answer k = true
  · obtain ⟨⟨first, within⟩, stop⟩ := Nat.find_spec stops
    have goesOn : ∀ k, 1 ≤ k → k < Nat.find stops → answer k = false := by
      intro k firstK earlier
      rw [← Bool.not_eq_true]
      exact fun stopK => Nat.find_min stops earlier ⟨⟨firstK, by omega⟩, stopK⟩
    rw [run_ofTrace_stopped positive first within stop goesOn,
      run_ofTrace_stopped positive first within ((same _ first within).trans stop)]
    intro k firstK earlier
    rw [same k firstK (by omega), goesOn k firstK earlier]
  · have goesOn : ∀ k, 1 ≤ k → k ≤ reached (read room text label) ⌈/⌉ every → answer k = false := by
      intro k first within
      rw [← Bool.not_eq_true]
      exact fun stop => stops ⟨k, ⟨first, within⟩, stop⟩
    rw [run_ofTrace_uncancelled positive goesOn, run_ofTrace_uncancelled positive]
    intro k first within
    rw [same k first within, goesOn k first within]

end Traces

/-- A reading with a positive cadence asks before the first line of every block of that
many lines that it comes to and at no other time, and reports each time it is told to go
on.  It comes to all lines unless one of them nests too deep, and then to the first such
line.

If it is never told to stop, it reports the positions of all blocks that it comes to, and
ends as a reading without questions does: it has the same result, or it fails where that
one breaks off.  If some answer is the first to tell it to stop, it has reported the
positions of the blocks in front of that question and names the line that it has come to,
and nothing is seen of what the lines hold, as long as the question is come to.  Answers
that nobody asks for do not matter. -/
theorem run_ofTrace_at_cadence {every : Nat} (positive : 0 < every) (room : Nat)
    (text label : String) (answer : Nat → Bool) :
    let lines := (text.toList.splitOn '\n').map String.ofList
    let total := lines.length
    let reading := read room text label
    let questions := reached reading ⌈/⌉ every
    let report := fun block => (⟨label, block * every, total⟩ : Progress)
    let run := (ofTrace room every text label).run answer 0
    ofTrace room every text label = inBlocks room every label total 0 {} lines ∧
    ((∃ result, reading = .ok result) → reached reading = total) ∧
    (∀ breakdown, reading = .error breakdown →
      reached reading = breakdown.line ∧ breakdown.line ≤ total) ∧
    ((∀ k, 1 ≤ k → k ≤ questions → answer k = false) →
      run = ⟨(List.range questions).map report, questions, .ofReading reading⟩) ∧
    (∀ k, 1 ≤ k → k ≤ questions → answer k = true →
      (∀ earlier, 1 ≤ earlier → earlier < k → answer earlier = false) →
        run = ⟨(List.range (k - 1)).map report, k,
          .cancelled (cancelMessage label ((k - 1) * every + 1))⟩ ∧
        ∀ other : String, (other.toList.splitOn '\n').length = total →
          k ≤ reached (read room other label) ⌈/⌉ every →
            (ofTrace room every other label).run answer 0 = run) ∧
    ∀ other : Nat → Bool, (∀ k, 1 ≤ k → k ≤ questions → other k = answer k) →
      (ofTrace room every text label).run other 0 = run := by
  intro lines total reading questions report run
  have linesEq : Text.lines text = lines := Text.lines_eq_splitOn text
  have totalEq : (Text.lines text).length = total := congrArg List.length linesEq
  refine ⟨?_, ?_, ?_, fun goesOn => ?_,
    fun k first within stops goesOn => ⟨?_, fun other same comes => ?_⟩, fun other same => ?_⟩
  · rw [ofTrace_eq_inBlocks positive, linesEq]
  · rintro ⟨result, reads⟩
    rw [← totalEq]
    exact reached_read_of_shallow (isShallow_of_read reads)
  · intro breakdown breaks
    have reachedEq : reached reading = breakdown.line := by rw [breaks, reached]
    rw [← totalEq, ← reachedEq]
    exact ⟨rfl, reached_read_le⟩
  · simp only [run, report, ← totalEq]
    exact run_ofTrace_uncancelled positive goesOn
  · simp only [run, report, ← totalEq]
    exact run_ofTrace_stopped positive first within stops goesOn
  · have sameTotal : (Text.lines other).length = (Text.lines text).length := by
      rw [Text.lines_eq_splitOn, List.length_map, same, totalEq]
    rw [run_ofTrace_stopped positive first comes stops goesOn, sameTotal]
    exact (run_ofTrace_stopped positive first within stops goesOn).symm
  · exact run_ofTrace_congr positive same

/-- Three lines are two blocks of two lines, and the second question stands before the
third line. -/
theorem run_ofTrace_in_twos :
    0 < 2 ∧
      (∃ result, read 9 "a\nb\nc" "A" = .ok result ∧
        (ofTrace 9 2 "a\nb\nc" "A").run (fun _ => false) 0 =
          ⟨[⟨"A", 0, 3⟩, ⟨"A", 2, 3⟩], 2, .finished result⟩) ∧
      (ofTrace 9 2 "a\nb\nc" "A").run (fun k => k = 2) 0 =
        ⟨[⟨"A", 0, 3⟩], 2, .cancelled "ingestion of trace A cancelled at line 3"⟩ ∧
      (ofTrace 9 2 "a\nb\nc" "A").run (fun k => k = 3) 0 =
        (ofTrace 9 2 "a\nb\nc" "A").run (fun _ => false) 0 := by
  have positive : 0 < 2 := by decide
  have shallow : IsShallow 9 "a\nb\nc" := by
    unfold IsShallow
    decide +kernel
  have questions : reached (read 9 "a\nb\nc" "A") ⌈/⌉ 2 = 2 := by
    decide +kernel
  have reads := read_of_shallow shallow "A"
  obtain ⟨_, _, _, finishes, _, ignores⟩ :=
    run_ofTrace_at_cadence positive 9 "a\nb\nc" "A" fun _ => false
  obtain ⟨_, _, _, _, stops, _⟩ :=
    run_ofTrace_at_cadence positive 9 "a\nb\nc" "A" fun k => k = 2
  rw [questions] at finishes ignores stops
  refine ⟨positive, ⟨_, reads, (finishes fun _ _ _ => rfl).trans ?_⟩, (stops 2 ?_ ?_ ?_ ?_).1,
    ignores _ ?_⟩
  · rw [reads]
    rfl
  · decide
  · exact questions.ge
  · decide
  · intro earlier _ less
    exact decide_eq_false (Nat.ne_of_lt less)
  · intro k _ within
    exact decide_eq_false (by omega)

/-- Brackets that nest too deep in the first of two lines end a reading that is never
told to stop before its second report, and without a result. -/
theorem run_ofTrace_of_brackets :
    let text := String.ofList (List.replicate 5000 '[') ++ "\n" ++ ""
    let run := (ofTrace Json.nestingLimit 1 text "A").run (fun _ => false) 0
    (Text.lines text).length = 2 ∧
      run = ⟨[⟨"A", 0, 2⟩], 1, .failed Json.Overrun.list.message⟩ ∧
      run.reports ≠ [⟨"A", 0, 2⟩, ⟨"A", 1, 2⟩] ∧ ∀ result, run.outcome ≠ .finished result := by
  intro text run
  have more : Json.nestingLimit < 5000 := by decide
  have linesEq : Text.lines text = [String.ofList (List.replicate 5000 '['), ""] := by
    rw [Text.lines_append, lines_of_brackets]
    rfl
  have ends : run = ⟨[⟨"A", 0, 2⟩], 1, .failed Json.Overrun.list.message⟩ := by
    simp only [run, ofTrace, linesEq, readFrom_cons_of_deep (Line.ofText_of_brackets more)]
    rfl
  refine ⟨congrArg List.length linesEq, ends, ?_, ?_⟩
  · rw [ends]
    decide
  · intro result
    rw [ends]
    exact Outcome.noConfusion

end Program

end Ingest

end ScanTree
