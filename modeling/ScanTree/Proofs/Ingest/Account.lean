import ScanTree.Ingest
import ScanTree.Proofs.Json.Nesting
import Mathlib.Data.List.Forall2
import Mathlib.Data.List.Basic

/-!
# What becomes of the lines of a trace

A line of a trace is blank, or it is not a record, or it holds a summary, or it
holds an event, or it nests too deep to be told apart, and never two of these.
The first line that nests too deep breaks the reading off.  Where there is none,
the result is put together from what the lines are: every line that is not a
record is reported with its number, every event is recorded, and the last summary
is kept.  A trace that is put behind another one is read as on its own, only that
its lines have other numbers.
-/

namespace ScanTree

namespace Text

theorem piecesBy_eq_splitOnP (isSeparator : Char → Bool) (text : List Char) :
    piecesBy isSeparator text = text.splitOnP isSeparator := by
  induction text with
  | nil => rw [piecesBy_nil, List.splitOnP_nil]
  | cons c text ih =>
      rw [List.splitOnP_cons_eq_if_modifyHead, ← ih]
      cases separator : isSeparator c with
      | true => exact piecesBy_cons_separator separator text
      | false =>
          obtain ⟨piece, rest, pieces⟩ := List.exists_cons_of_ne_nil
            (piecesBy_ne_nil isSeparator text)
          rw [piecesBy_cons_other separator pieces, pieces]
          rfl

theorem lines_eq_splitOn (text : String) :
    lines text = (text.toList.splitOn '\n').map String.ofList := by
  rw [lines, piecesBy_eq_splitOnP, List.splitOn_eq_splitOnP]

/-- A line feed between two texts ends the last line of the first one. -/
theorem lines_append (first second : String) :
    lines (first ++ "\n" ++ second) = lines first ++ lines second := by
  have joined : (first ++ "\n" ++ second).toList = first.toList ++ '\n' :: second.toList := by
    simp
  rw [lines_eq_splitOn, joined, List.splitOn_append_cons_self, List.map_append,
    ← lines_eq_splitOn, ← lines_eq_splitOn]

end Text

theorem decodeRecord_empty (room : Nat) :
    decodeRecord room "" = .error (.notJson (.malformed .expectingValue 0 1 1)) :=
  rfl

theorem RecordError.overrun?_eq_some_iff {error : RecordError} {overrun : Json.Overrun} :
    error.overrun? = some overrun ↔ error = .notJson (.tooDeep overrun) := by
  rcases error with (_ | _ | _) | _ <;> simp [overrun?]

theorem decodeRecord_of_tooDeep {room : Nat} {line : String} {overrun : Json.Overrun}
    (deep : Json.decodeWithin room line = .error (.tooDeep overrun)) :
    decodeRecord room line = .error (.notJson (.tooDeep overrun)) := by
  rw [decodeRecord, deep]

theorem tooDeep_of_decodeRecord {room : Nat} {line : String} {overrun : Json.Overrun}
    (deep : decodeRecord room line = .error (.notJson (.tooDeep overrun))) :
    Json.decodeWithin room line = .error (.tooDeep overrun) := by
  unfold decodeRecord at deep
  split at deep
  · rename_i error isError
    cases deep
    exact isError
  · cases deep
  · cases deep

theorem Event.action_eq_summarized_iff {event : Event} :
    event.action = .summarized ↔ event.tag = some "summary" := by
  unfold action
  constructor
  · intro summary
    repeat' split at summary
    all_goals simp_all
  · intro tag
    simp [tag]

namespace Ingest

namespace Line

/-- What the text of a line has to be for the line to be blank, no record, a
summary or an event, or for it to nest too deep. -/
def Describes (room : Nat) (text : String) : Line → Prop
  | blank => Text.strip text = ""
  | malformed error =>
    Text.strip text ≠ "" ∧ decodeRecord room (Text.strip text) = .error error ∧
      ∀ overrun, error ≠ .notJson (.tooDeep overrun)
  | summary content =>
    ∃ members, decodeRecord room (Text.strip text) = .ok members ∧
      members.get? "event" = some (.str "summary") ∧ content = .ofMembers members
  | event content =>
    ∃ members, decodeRecord room (Text.strip text) = .ok members ∧
      members.get? "event" ≠ some (.str "summary") ∧ content = .ofMembers members
  | tooDeep overrun =>
    decodeRecord room (Text.strip text) = .error (.notJson (.tooDeep overrun))

/-- What is wrong with the line, if it is no record. -/
def fault? : Line → Option RecordError
  | malformed error => some error
  | _ => none

/-- The summary that the line holds. -/
def summary? : Line → Option Summary
  | summary content => some content
  | _ => none

/-- The event that the line holds. -/
def event? : Line → Option Event
  | event content => some content
  | _ => none

/-- What there was no room for, if the line nests too deep. -/
def overrun? : Line → Option Json.Overrun
  | tooDeep overrun => some overrun
  | _ => none

theorem overrun?_eq_some_iff {line : Line} {overrun : Json.Overrun} :
    line.overrun? = some overrun ↔ line = tooDeep overrun := by
  cases line <;> simp [overrun?]

theorem overrun?_eq_none_iff {line : Line} :
    line.overrun? = none ↔ ∀ overrun, line ≠ tooDeep overrun := by
  simp only [Option.eq_none_iff_forall_ne_some, ne_eq, overrun?_eq_some_iff]

theorem isSummary_iff {members : Members} :
    (members.get? "event").bind Json.text? = some "summary" ↔
      members.get? "event" = some (.str "summary") := by
  rcases members.get? "event" with _ | value
  · simp
  · cases value <;> simp [Json.text?]

variable {room : Nat} {text : String}

/-- A line is what it is told to be, and nothing else. -/
theorem describes_iff {line : Line} : Describes room text line ↔ ofText room text = line := by
  unfold ofText
  by_cases empty : Text.strip text = ""
  · cases line <;> simp [Describes, empty, decodeRecord_empty]
  · rw [if_neg empty]
    rcases decoded : decodeRecord room (Text.strip text) with error | members
    · dsimp only
      split
      · rename_i overrun deep
        obtain rfl := RecordError.overrun?_eq_some_iff.1 deep
        cases line with
        | malformed other =>
            simp only [Describes, decoded, Except.error.injEq, reduceCtorEq, iff_false]
            rintro ⟨_, rfl, told⟩
            exact told overrun rfl
        | _ => simp [Describes, empty, decoded]
      · rename_i told
        have shallow : ∀ overrun, error ≠ .notJson (.tooDeep overrun) := fun overrun same => by
          simp [same, RecordError.overrun?] at told
        cases line with
        | malformed other =>
            simp only [Describes, decoded, Except.error.injEq, malformed.injEq]
            exact ⟨fun told => told.2.1, fun same => ⟨empty, same, same ▸ shallow⟩⟩
        | _ => simp [Describes, empty, decoded, shallow]
    · by_cases isSummary : members.get? "event" = some (.str "summary")
      · simp only [if_pos (isSummary_iff.2 isSummary)]
        cases line <;> simp [Describes, empty, decoded, isSummary, eq_comm]
      · simp only [if_neg (isSummary_iff.not.2 isSummary)]
        cases line <;> simp [Describes, empty, decoded, Ne.symm isSummary, eq_comm]

theorem existsUnique_describes (room : Nat) (text : String) : ∃! line, Describes room text line :=
  ⟨ofText room text, describes_iff.2 rfl, fun _ describes => (describes_iff.1 describes).symm⟩

theorem eq_event_of_event? {line : Line} {content : Event}
    (holds : line.event? = some content) : line = event content := by
  cases line <;> simp_all [event?]

/-- An event that a line holds is not passed over when it is recorded. -/
theorem action_ne_summarized {content : Event}
    (describes : Describes room text (.event content)) : content.action ≠ .summarized := by
  obtain ⟨members, _, notSummary, rfl⟩ := describes
  rw [ne_eq, Event.action_eq_summarized_iff]
  exact fun tag => notSummary (isSummary_iff.1 tag)

end Line

/-- The report about a line that is no record. -/
def LineError.report (number : Nat) (error : RecordError) : LineError :=
  ⟨number, lineMessage number error⟩

/-- The lines that are no records, with their numbers.  The first line has the
given number. -/
def faults (number : Nat) (lines : List Line) : List (Nat × RecordError) :=
  (lines.zipIdx number).filterMap fun line => line.1.fault?.map fun error => (line.2, error)

theorem faults_append (number : Nat) (first second : List Line) :
    faults number (first ++ second) =
      faults number first ++ faults (number + first.length) second := by
  rw [faults, List.zipIdx_append, List.filterMap_append, faults, faults]

/-- Counting the lines from a later number on only moves the numbers. -/
theorem faults_add (shift number : Nat) (lines : List Line) :
    faults (shift + number) lines =
      (faults number lines).map fun fault => (fault.1 + shift, fault.2) := by
  rw [faults, ← List.map_snd_add_zipIdx_eq_zipIdx, List.filterMap_map, faults,
    List.map_filterMap]
  refine List.filterMap_congr fun line _ => ?_
  cases fault : line.1.fault? <;> simp [fault]

theorem pairwise_faults (number : Nat) (lines : List Line) :
    (faults number lines).Pairwise fun first second => first.1 < second.1 := by
  have numbered : (lines.zipIdx number).Pairwise fun first second => first.2 < second.2 := by
    rw [← List.pairwise_map (f := Prod.snd) (R := (· < ·)), List.zipIdx_map_snd]
    exact List.pairwise_lt_range'
  refine numbered.filterMap _ fun first second ordered fault isFault other isOther => ?_
  obtain ⟨_, _, rfl⟩ := Option.map_eq_some_iff.1 isFault
  obtain ⟨_, _, rfl⟩ := Option.map_eq_some_iff.1 isOther
  exact ordered

namespace Pass

variable {room : Nat} (pass : Pass) (position : Nat)

/-- The state that lines lead to, the first of which has the given number. -/
def addAll (number : Nat) (lines : List Line) : Pass where
  builder := pass.builder.recordAll (lines.filterMap Line.event?)
  errors := ((faults number lines).map fun fault =>
    LineError.report fault.1 fault.2).reverse ++ pass.errors
  summary := (lines.filterMap Line.summary?).getLast?.or pass.summary

theorem addAll_cons (number : Nat) (line : Line) (lines : List Line) :
    (pass.add number line).addAll (number + 1) lines = pass.addAll number (line :: lines) := by
  cases line <;>
    simp [add, addAll, faults, List.filterMap_cons, Line.event?, Line.fault?, Line.summary?,
      LineError.report, List.getLast?_cons]

theorem readFrom_cons_of_shallow {text : String} {rest : List String}
    (shallow : (Line.ofText room text).overrun? = none) :
    pass.readFrom room position (text :: rest) =
      (pass.add (position + 1) (Line.ofText room text)).readFrom room (position + 1) rest := by
  rw [readFrom]
  split
  · rename_i overrun deep
    simp [deep, Line.overrun?] at shallow
  · rfl

theorem readFrom_cons_of_deep {text : String} {overrun : Json.Overrun} (rest : List String)
    (deep : Line.ofText room text = .tooDeep overrun) :
    pass.readFrom room position (text :: rest) = .error (pass, position + 1, overrun) := by
  rw [readFrom, deep]

/-- Lines none of which nests too deep are all taken in. -/
theorem readFrom_of_shallow {texts : List String}
    (shallow : ∀ text ∈ texts, (Line.ofText room text).overrun? = none) :
    pass.readFrom room position texts =
      .ok (pass.addAll (position + 1) (texts.map (Line.ofText room))) := by
  induction texts generalizing pass position with
  | nil => rfl
  | cons text rest ih =>
      rw [readFrom_cons_of_shallow pass position (shallow text List.mem_cons_self),
        ih _ _ fun other member => shallow other (List.mem_cons_of_mem text member),
        addAll_cons, List.map_cons]

/-- Lines behind others are read in the state that those have led to, if they have led
to one. -/
theorem readFrom_append (first second : List String) :
    pass.readFrom room position (first ++ second) =
      pass.readFrom room position first >>= fun later =>
        later.readFrom room (position + first.length) second := by
  induction first generalizing pass position with
  | nil => rfl
  | cons text rest ih =>
      cases told : (Line.ofText room text).overrun? with
      | none =>
          rw [List.cons_append, readFrom_cons_of_shallow pass position told, ih,
            readFrom_cons_of_shallow pass position told, List.length_cons, Nat.add_assoc,
            Nat.add_comm 1]
      | some overrun =>
          have deep := Line.overrun?_eq_some_iff.1 told
          rw [List.cons_append, readFrom_cons_of_deep pass position _ deep,
            readFrom_cons_of_deep pass position _ deep]
          rfl

/-- The first line that nests too deep breaks the reading off. -/
theorem readFrom_of_deep {before : List String} {text : String} {overrun : Json.Overrun}
    (shallow : ∀ other ∈ before, (Line.ofText room other).overrun? = none)
    (deep : Line.ofText room text = .tooDeep overrun) (after : List String) :
    pass.readFrom room position (before ++ text :: after) =
      .error (pass.addAll (position + 1) (before.map (Line.ofText room)),
        position + before.length + 1, overrun) := by
  rw [readFrom_append, readFrom_of_shallow pass position shallow]
  simp only [bind, Except.bind, readFrom_cons_of_deep _ _ after deep]

end Pass

/-- What the lines of a trace are. -/
def lines (room : Nat) (text : String) : List Line :=
  (Text.lines text).map (Line.ofText room)

/-- No line of a trace nests too deep. -/
def IsShallow (room : Nat) (text : String) : Prop :=
  ∀ line ∈ Text.lines text, (Line.ofText room line).overrun? = none

section Readings

variable {room : Nat} {text : String}

theorem forall₂_describes (room : Nat) (texts : List String) :
    List.Forall₂ (Line.Describes room) texts (texts.map (Line.ofText room)) := by
  rw [List.forall₂_map_right_iff, List.forall₂_same]
  exact fun _ _ => Line.describes_iff.2 rfl

theorem isShallow_iff :
    IsShallow room text ↔ ∀ overrun, .tooDeep overrun ∉ lines room text := by
  simp only [IsShallow, Line.overrun?_eq_none_iff, lines, List.mem_map, not_exists, not_and]
  exact ⟨fun shallow overrun line member => shallow line member overrun,
    fun shallow line member overrun => shallow overrun line member⟩

theorem lines_append (room : Nat) (first second : String) :
    lines room (first ++ "\n" ++ second) = lines room first ++ lines room second := by
  rw [lines, Text.lines_append, List.map_append, lines, lines]

theorem isShallow_append {first second : String} :
    IsShallow room (first ++ "\n" ++ second) ↔ IsShallow room first ∧ IsShallow room second := by
  simp only [IsShallow, Text.lines_append, List.forall_mem_append]

/-- A trace that is not shallow has a first line that nests too deep. -/
theorem exists_deep_of_not_isShallow (deep : ¬ IsShallow room text) :
    ∃ before piece after overrun, Text.lines text = before ++ piece :: after ∧
      (∀ other ∈ before, (Line.ofText room other).overrun? = none) ∧
      Line.ofText room piece = .tooDeep overrun := by
  cases found : (Text.lines text).find? fun line => (Line.ofText room line).overrun?.isSome with
  | none =>
      refine absurd (fun line member => ?_) deep
      exact Option.not_isSome_iff_eq_none.1 (List.find?_eq_none.1 found line member)
  | some piece =>
      obtain ⟨isDeep, before, after, split, shallow⟩ := List.find?_eq_some_iff_append.1 found
      obtain ⟨overrun, told⟩ := Option.isSome_iff_exists.1 isDeep
      exact ⟨before, piece, after, overrun, split, fun other member => by
        simpa using shallow other member, Line.overrun?_eq_some_iff.1 told⟩

theorem read_of_shallow (shallow : IsShallow room text) (label : String) :
    read room text label =
      .ok {
        label := label
        index := Index.ofEvents ((lines room text).filterMap Line.event?)
        errors := (faults 1 (lines room text)).map fun fault => .report fault.1 fault.2
        summary := ((lines room text).filterMap Line.summary?).getLast?
        totalLines := (Text.lines text).length } := by
  rw [read, Pass.readFrom_of_shallow _ _ shallow]
  simp [Pass.addAll, Pass.result, Index.ofEvents, lines]

theorem read_of_deep {before after : List String} {piece : String} {overrun : Json.Overrun}
    (split : Text.lines text = before ++ piece :: after)
    (shallow : ∀ other ∈ before, (Line.ofText room other).overrun? = none)
    (deep : Line.ofText room piece = .tooDeep overrun) (label : String) :
    read room text label =
      .error {
        label := label
        line := before.length + 1
        overrun := overrun
        errors := (faults 1 (before.map (Line.ofText room))).map fun fault =>
          .report fault.1 fault.2
        totalLines := (Text.lines text).length } := by
  rw [read]
  simp only [split, Pass.readFrom_of_deep _ _ shallow deep]
  simp [Pass.addAll]

theorem isShallow_of_read {label : String} {result : Result}
    (reads : read room text label = .ok result) : IsShallow room text := by
  by_contra deep
  obtain ⟨before, piece, after, overrun, split, shallow, isDeep⟩ :=
    exists_deep_of_not_isShallow deep
  rw [read_of_deep split shallow isDeep] at reads
  cases reads

/-- A trace has a result if and only if no line of it nests too deep. -/
theorem exists_read_iff (room : Nat) (text label : String) :
    (∃ result, read room text label = .ok result) ↔ IsShallow room text :=
  ⟨fun ⟨_, reads⟩ => isShallow_of_read reads, fun shallow => ⟨_, read_of_shallow shallow label⟩⟩

theorem eq_of_read {label : String} {result : Result}
    (reads : read room text label = .ok result) :
    result =
      { label := label
        index := Index.ofEvents ((lines room text).filterMap Line.event?)
        errors := (faults 1 (lines room text)).map fun fault => .report fault.1 fault.2
        summary := ((lines room text).filterMap Line.summary?).getLast?
        totalLines := (Text.lines text).length } :=
  Except.ok.inj (reads.symm.trans (read_of_shallow (isShallow_of_read reads) label))

theorem index_of_read {label : String} {result : Result}
    (reads : read room text label = .ok result) :
    result.index = Index.ofEvents ((lines room text).filterMap Line.event?) := by
  rw [eq_of_read reads]

end Readings

/-- A line nests too deep only if it opens nearly so many lists and objects as there is
room for. -/
theorem Line.room_lt_of_tooDeep {room : Nat} {piece : String} {overrun : Json.Overrun}
    (deep : Line.Describes room piece (.tooDeep overrun)) :
    room < Json.openings (Text.strip piece).toList + 3 :=
  Json.room_lt_of_tooDeep (tooDeep_of_decodeRecord deep)

/-- A line that begins with more brackets than there is room for nests too deep. -/
theorem Line.tooDeep_of_brackets {room : Nat} {piece : String} {rest : List Char}
    (begins : (Text.strip piece).toList = List.replicate (room + 1) '[' ++ rest) :
    Line.Describes room piece (.tooDeep .list) := by
  have same : Text.strip piece = String.ofList (List.replicate (room + 1) '[' ++ rest) := by
    rw [← begins, String.ofList_toList]
  refine decodeRecord_of_tooDeep ?_
  rw [same]
  exact Json.decodeWithin_of_brackets room rest

theorem Line.ofText_of_brackets {room count : Nat} (more : room < count) :
    Line.ofText room (String.ofList (List.replicate count '[')) = .tooDeep .list := by
  obtain ⟨others, rfl⟩ := Nat.exists_eq_add_of_lt more
  have notBlank : Text.isBlank '[' = false := rfl
  have begins : (Text.strip (String.ofList (List.replicate (room + others + 1) '['))).toList =
      List.replicate (room + 1) '[' ++ List.replicate others '[' := by
    rw [Text.toList_strip, String.toList_ofList, ← List.replicate_add, Nat.add_right_comm,
      Text.stripChars, List.dropWhile_replicate, if_neg (by simp [notBlank]),
      List.reverse_replicate, List.dropWhile_replicate, if_neg (by simp [notBlank]),
      List.reverse_replicate]
  exact Line.describes_iff.1 (Line.tooDeep_of_brackets begins)

/-- Brackets, even if no bracket closes them, are one line. -/
theorem lines_of_brackets (count : Nat) :
    Text.lines (String.ofList (List.replicate count '[')) =
      [String.ofList (List.replicate count '[')] := by
  have noLineFeed : '\n' ∉ List.replicate count '[' := fun member =>
    absurd (List.eq_of_mem_replicate member) (by decide)
  rw [Text.lines_eq_splitOn, String.toList_ofList, List.splitOn_eq_singleton noLineFeed,
    List.map_singleton]

/-- Every line of a trace is of just one kind: blank, no record, a summary, an event, or
too deep.  A line is too deep only if it opens as many lists and objects as there is room
for, three left out of account, and it is if it begins with one bracket more than there is
room for.

A reading comes to its end if and only if no line is too deep; otherwise the first such
line breaks it off.  At the end the errors are the reports on the lines that are no
records, with their numbers counted from one, so the numbers go up; the index is that of
the events in order, none of which is passed over; the summary is the last one; and all
lines are counted.  A trace that is put behind another one adds the errors that it has on
its own, with the numbers moved by the lines in front of it. -/
theorem read_accounts_for_lines (room : Nat) (text label : String) :
    let pieces := (text.toList.splitOn '\n').map String.ofList
    (∀ piece, ∃! line, Line.Describes room piece line) ∧
    (∀ piece overrun, Line.Describes room piece (.tooDeep overrun) →
      room < Json.openings (Text.strip piece).toList + 3) ∧
    (∀ piece rest, (Text.strip piece).toList = List.replicate (room + 1) '[' ++ rest →
      Line.Describes room piece (.tooDeep .list)) ∧
    (∃ lines : List Line, List.Forall₂ (Line.Describes room) pieces lines ∧
      ((∃ result, read room text label = .ok result) ↔ ∀ overrun, .tooDeep overrun ∉ lines) ∧
      (∀ before overrun after, lines = before ++ .tooDeep overrun :: after →
        (∀ other, .tooDeep other ∉ before) →
          read room text label =
            .error ⟨label, before.length + 1, overrun,
              (faults 1 before).map (fun fault => .report fault.1 fault.2), pieces.length⟩) ∧
      ∀ result, read room text label = .ok result →
        result.errors = (faults 1 lines).map (fun fault => .report fault.1 fault.2) ∧
        (result.errors.map (·.line)).Pairwise (· < ·) ∧
        (∀ event ∈ lines.filterMap Line.event?, event.action ≠ .summarized) ∧
        result.index = Index.ofEvents (lines.filterMap Line.event?) ∧
        result.summary = (lines.filterMap Line.summary?).getLast? ∧
        result.totalLines = pieces.length) ∧
    ∀ rest,
      ((∃ joined, read room (text ++ "\n" ++ rest) label = .ok joined) ↔
        (∃ result, read room text label = .ok result) ∧
          ∃ other, read room rest label = .ok other) ∧
      ∀ result other joined, read room text label = .ok result →
        read room rest label = .ok other →
        read room (text ++ "\n" ++ rest) label = .ok joined →
          ∃ found : List (Nat × RecordError),
            other.errors = found.map (fun fault => .report fault.1 fault.2) ∧
            joined.errors =
              result.errors ++ found.map fun fault => .report (fault.1 + pieces.length) fault.2 := by
  intro pieces
  have piecesEq : Text.lines text = pieces := Text.lines_eq_splitOn text
  have length : (lines room text).length = pieces.length := by
    rw [lines, List.length_map, piecesEq]
  refine ⟨Line.existsUnique_describes room, fun _ _ => Line.room_lt_of_tooDeep,
    fun _ _ => Line.tooDeep_of_brackets, ⟨lines room text, ?_, ?_, ?_, ?_⟩,
    fun rest => ⟨?_, ?_⟩⟩
  · rw [← piecesEq]
    exact forall₂_describes room _
  · rw [exists_read_iff, isShallow_iff]
  · intro before overrun after split noneBefore
    obtain ⟨textsBefore, others, splitTexts, isBefore, isOthers⟩ := List.map_eq_append_iff.1 split
    obtain ⟨piece, textsAfter, rfl, isDeep, _⟩ := List.map_eq_cons_iff.1 isOthers
    have shallow : ∀ other ∈ textsBefore, (Line.ofText room other).overrun? = none := by
      intro other member
      refine Line.overrun?_eq_none_iff.2 fun otherOverrun told => noneBefore otherOverrun ?_
      rw [← isBefore, ← told]
      exact List.mem_map_of_mem member
    rw [read_of_deep splitTexts shallow isDeep, ← isBefore, List.length_map, piecesEq]
  · intro result reads
    rw [eq_of_read reads]
    refine ⟨rfl, ?_, fun event member => ?_, rfl, rfl, congrArg List.length piecesEq⟩
    · rw [List.map_map, List.pairwise_map]
      exact pairwise_faults 1 (lines room text)
    · obtain ⟨line, lineMem, isEvent⟩ := List.mem_filterMap.1 member
      obtain ⟨piece, _, rfl⟩ := List.mem_map.1 lineMem
      exact Line.action_ne_summarized
        (Line.describes_iff.2 (Line.eq_event_of_event? isEvent))
  · simp only [exists_read_iff, isShallow_append]
  · intro result other joined reads readsOther readsJoined
    refine ⟨faults 1 (lines room rest), by rw [eq_of_read readsOther], ?_⟩
    rw [eq_of_read readsJoined, eq_of_read reads, lines_append, faults_append, Nat.add_comm,
      faults_add, List.map_append, List.map_map, length]
    rfl

/-- A blank line, an event, a line that is no record and a summary. -/
theorem read_of_every_kind :
    let text :=
      "\n\x7b\"event\": \"include\", \"path\": \"a\"\x7d\n[\n\x7b\"event\": \"summary\"\x7d"
    ∃ result, read Json.nestingLimit text "A" = .ok result ∧
      result.errors.map (·.line) = [3] ∧ (result.errors.map (·.line)).Pairwise (· < ·) ∧
      result.index.ids = [".", "a"] ∧ result.summary = some {} ∧ result.totalLines = 4 := by
  intro text
  have shallow : IsShallow Json.nestingLimit text := by
    unfold IsShallow
    decide +kernel
  obtain ⟨-, -, -, ⟨told, describes, finishes, -, accounts⟩, -⟩ :=
    read_accounts_for_lines Json.nestingLimit text "A"
  have toldEq : lines Json.nestingLimit text = told := by
    rw [lines, Text.lines_eq_splitOn, ← List.forall₂_eq_eq_eq, List.forall₂_map_left_iff]
    exact describes.imp fun _ _ => Line.describes_iff.1
  subst toldEq
  obtain ⟨result, reads⟩ := finishes.2 (isShallow_iff.1 shallow)
  obtain ⟨errors, increasing, -, index, summary, total⟩ := accounts result reads
  refine ⟨result, reads, ?_, increasing, ?_, ?_, ?_⟩
  · rw [errors]
    decide +kernel
  · rw [index]
    decide +kernel
  · rw [summary]
    decide +kernel
  · rw [total]
    decide +kernel

/-- Five thousand opening brackets are no record, but they are not reported: there is no
result. -/
theorem read_of_brackets :
    let text := String.ofList (List.replicate 5000 '[')
    read Json.nestingLimit text "A" = .error ⟨"A", 1, .list, [], 1⟩ ∧
      ¬ ∃ result, read Json.nestingLimit text "A" = .ok result := by
  have more : Json.nestingLimit < 5000 := by decide
  have breaks := read_of_deep (lines_of_brackets 5000) (List.forall_mem_nil _)
    (Line.ofText_of_brackets more) "A"
  rw [lines_of_brackets] at breaks
  refine ⟨breaks, fun ⟨result, reads⟩ => ?_⟩
  rw [breaks] at reads
  cases reads

namespace Program

section Lines

variable {room every : Nat} {label : String} {total position : Nat} {pass : Pass}
  {text : String} {rest : List String}

theorem readFrom_cons_of_shallow (shallow : (Line.ofText room text).overrun? = none) :
    readFrom room every label total position pass (text :: rest) =
      asking every label total position
        (readFrom room every label total (position + 1)
          (pass.add (position + 1) (Line.ofText room text)) rest) := by
  rw [readFrom]
  split
  · rename_i overrun deep
    simp [deep, Line.overrun?] at shallow
  · rfl

theorem readFrom_cons_of_deep {overrun : Json.Overrun}
    (deep : Line.ofText room text = .tooDeep overrun) :
    readFrom room every label total position pass (text :: rest) =
      asking every label total position (.failed overrun.message) := by
  rw [readFrom, deep]

end Lines

section Ends

variable {room every : Nat} {label : String} {total position asked : Nat}
  {answer : Nat → Bool} {result : Result}

/-- What asks and then comes to its end has come to the end of what it went on with. -/
theorem exists_finished_of_asking {goOn : Program}
    (finishes : ((asking every label total position goOn).run answer asked).outcome =
      .finished result) :
    ∃ asked, (goOn.run answer asked).outcome = .finished result := by
  rw [asking] at finishes
  split at finishes
  · rw [run] at finishes
    split at finishes
    · exact Outcome.noConfusion finishes
    · exact ⟨asked + 1, finishes⟩
  · exact ⟨asked, finishes⟩

theorem eq_of_finished {pass : Pass} {lines : List String}
    (finishes : ((readFrom room every label total position pass lines).run answer asked).outcome =
      .finished result) :
    ∃ later, pass.readFrom room position lines = .ok later ∧
      result = later.result label total := by
  induction lines generalizing position asked pass with
  | nil => exact ⟨pass, rfl, (Outcome.finished.inj finishes).symm⟩
  | cons line rest ih =>
      cases told : (Line.ofText room line).overrun? with
      | none =>
          rw [readFrom_cons_of_shallow told] at finishes
          obtain ⟨asked, finishes⟩ := exists_finished_of_asking finishes
          rw [Pass.readFrom_cons_of_shallow pass position told]
          exact ih finishes
      | some overrun =>
          rw [readFrom_cons_of_deep (Line.overrun?_eq_some_iff.1 told)] at finishes
          obtain ⟨asked, fails⟩ := exists_finished_of_asking finishes
          exact Outcome.noConfusion fails

theorem read_of_finished {text : String}
    (finishes : ((ofTrace room every text label).run answer 0).outcome = .finished result) :
    read room text label = .ok result := by
  rw [ofTrace] at finishes
  split at finishes
  · exact Outcome.noConfusion finishes
  · obtain ⟨pass, reads, rfl⟩ := eq_of_finished finishes
    rw [read]
    simp only [reads]

end Ends

end Program

end Ingest

end ScanTree
