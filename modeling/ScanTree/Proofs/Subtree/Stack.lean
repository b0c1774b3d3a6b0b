import ScanTree.Proofs.Subtree.Fold
import Mathlib.Computability.StateTransition

/-!
# The walk as a loop

The walk over the children of a node, and of each of them, can be run by a loop
with a stack.  A frame of the stack holds a node, what its children have come to
so far, and the children that are still to be looked at; the frames together are
the path that is walked.  What the node itself adds may come in when its frame
is opened or when it is closed.  The loop ends whatever the links of an index
are, and with the same values.
-/

namespace ScanTree

namespace Index

/-- How a loop puts the value of a node together: what it begins with, how the
values of children come in, and what it ends with. -/
structure Gathering (α : Type) where
  initial : Node → α
  combine : α → α → α
  close : Node → α → α
  close_combine : ∀ node total value,
    close node (combine total value) = combine (close node total) value

/-- A node on the path with what is left to do for it. -/
structure Frame (α : Type) where
  node : Node
  total : α
  rest : List String

/-- The state of the loop: the frames, the last one first, and the values that
are complete. -/
structure WalkState (α : Type) where
  frames : List (Frame α)
  folded : Folded α

/-- The ids on the path. -/
def path {α : Type} (frames : List (Frame α)) : List String :=
  frames.map (·.node.id)

namespace Gathering

variable {α : Type} (gathering : Gathering α)

/-- The own part of a node. -/
def own (node : Node) : α :=
  gathering.close node (gathering.initial node)

/-- The frame of a node at the beginning. -/
def enter (node : Node) : Frame α :=
  ⟨node, gathering.initial node, node.children⟩

/-- Hand the value of a node to the frame below it. -/
def pass (value : α) : List (Frame α) → List (Frame α)
  | [] => []
  | ⟨node, total, rest⟩ :: frames => ⟨node, gathering.combine total value, rest⟩ :: frames

/-- One turn of the loop. -/
def next (index : Index) : WalkState α → Option (WalkState α)
  | ⟨[], _⟩ => none
  | ⟨⟨node, total, []⟩ :: frames, folded⟩ =>
    let value := gathering.close node total
    some ⟨gathering.pass value frames, folded ++ [(node.id, value)]⟩
  | ⟨⟨node, total, child :: rest⟩ :: frames, folded⟩ =>
    match folded.lookup child with
    | some value => some ⟨⟨node, gathering.combine total value, rest⟩ :: frames, folded⟩
    | none =>
      match index.find? child with
      | none => some ⟨⟨node, total, rest⟩ :: frames, folded⟩
      | some found =>
        if child ∈ path (⟨node, total, rest⟩ :: frames) then
          some ⟨⟨node, total, rest⟩ :: frames, folded⟩
        else some ⟨gathering.enter found :: ⟨node, total, rest⟩ :: frames, folded⟩

end Gathering

section Simulation

open StateTransition

variable {α : Type} (index : Index) (gathering : Gathering α)

theorem reaches_of_turn {state : Type} {next : state → Option state} {first second last : state}
    (turn : next first = some second) (reaches : Reaches next second last) :
    Reaches next first last :=
  .head turn reaches

variable {index gathering}

/-- The loop goes over the children of the node of its last frame as the walk
does. -/
theorem Walks.reaches {walkedPath : List String} {folded final : Folded α}
    {closed result : α} {children : List String}
    (walks : index.Walks gathering.own gathering.combine walkedPath folded closed children result
      final) {node : Node} {frames : List (Frame α)} {total : α}
    (onFrames : walkedPath = node.id :: path frames)
    (closes : gathering.close node total = closed) :
    ∃ last, gathering.close node last = result ∧
      Reaches (gathering.next index) ⟨⟨node, total, children⟩ :: frames, folded⟩
        ⟨⟨node, last, []⟩ :: frames, final⟩ := by
  -- The total of the walk is that of the frame with the node's own part put in.
  induction walks generalizing node frames total with
  | nil => exact ⟨total, closes, .refl⟩
  | @complete _ folded _ _ _ value child rest complete _ ih =>
      have turn : gathering.next index ⟨⟨node, total, child :: rest⟩ :: frames, folded⟩ =
          some ⟨⟨node, gathering.combine total value, rest⟩ :: frames, folded⟩ := by
        simp only [Gathering.next, complete]
      obtain ⟨last, closesLast, reaches⟩ := ih onFrames
        ((gathering.close_combine node total value).trans (congrArg (gathering.combine · _) closes))
      exact ⟨last, closesLast, reaches_of_turn turn reaches⟩
  | @missing _ folded _ _ _ child rest incomplete missing _ ih =>
      have turn : gathering.next index ⟨⟨node, total, child :: rest⟩ :: frames, folded⟩ =
          some ⟨⟨node, total, rest⟩ :: frames, folded⟩ := by
        simp only [Gathering.next, incomplete, missing]
      obtain ⟨last, closesLast, reaches⟩ := ih onFrames closes
      exact ⟨last, closesLast, reaches_of_turn turn reaches⟩
  | @walked _ folded _ _ _ _ child rest incomplete found onPath _ ih =>
      have turn : gathering.next index ⟨⟨node, total, child :: rest⟩ :: frames, folded⟩ =
          some ⟨⟨node, total, rest⟩ :: frames, folded⟩ := by
        have member : child ∈ path (⟨node, total, rest⟩ :: frames) := by
          rw [onFrames] at onPath
          exact onPath
        simp only [Gathering.next, incomplete, found, member, if_true]
      obtain ⟨last, closesLast, reaches⟩ := ih onFrames closes
      exact ⟨last, closesLast, reaches_of_turn turn reaches⟩
  | @new walkedPath folded below _ _ _ value childNode child rest incomplete found offPath _ _
      ihDown ihFurther =>
      obtain rfl := id_of_find? found
      have turn : gathering.next index ⟨⟨node, total, childNode.id :: rest⟩ :: frames, folded⟩ =
          some ⟨gathering.enter childNode :: ⟨node, total, rest⟩ :: frames, folded⟩ := by
        have fresh : childNode.id ∉ path (⟨node, total, rest⟩ :: frames) := by
          rw [onFrames] at offPath
          exact offPath
        simp only [Gathering.next, incomplete, found, fresh, if_false]
      have onMoreFrames : childNode.id :: walkedPath =
          childNode.id :: path (⟨node, total, rest⟩ :: frames) := congrArg _ onFrames
      obtain ⟨childLast, closesChild, reachesBelow⟩ := ihDown onMoreFrames rfl
      have closing : gathering.next index
          ⟨⟨childNode, childLast, []⟩ :: ⟨node, total, rest⟩ :: frames, below⟩ =
          some ⟨⟨node, gathering.combine total value, rest⟩ :: frames,
            below ++ [(childNode.id, value)]⟩ := by
        simp only [Gathering.next, Gathering.pass, closesChild]
      obtain ⟨last, closesLast, reachesRest⟩ := ihFurther onFrames
        ((gathering.close_combine node total value).trans (congrArg (gathering.combine · _) closes))
      have descent := (reaches_of_turn turn reachesBelow).trans
        (reaches_of_turn closing reachesRest)
      exact ⟨last, closesLast, descent⟩

/-- The loop that opens the frame of a node alone ends with the value of the node, the
values below it in front. -/
theorem Walks.reaches_closed {start : Node} {folded below : Folded α} {value : α}
    (down : index.Walks gathering.own gathering.combine [start.id] folded (gathering.own start)
      start.children value below) :
    Reaches (gathering.next index) ⟨[gathering.enter start], folded⟩
      ⟨[], below ++ [(start.id, value)]⟩ := by
  have onFrames : [start.id] = start.id :: path ([] : List (Frame α)) := rfl
  obtain ⟨last, closesLast, reaches⟩ := down.reaches onFrames rfl
  have closing : gathering.next index ⟨[⟨start, last, []⟩], below⟩ =
      some ⟨[], below ++ [(start.id, value)]⟩ := by
    simp only [Gathering.next, Gathering.pass, closesLast]
  exact reaches.tail closing

variable (gathering)

theorem reaches_foldFrom (unit : α) {start : Node} {id : String}
    (found : index.find? id = some start) :
    Reaches (gathering.next index) ⟨[gathering.enter start], []⟩
      ⟨[], index.foldFrom gathering.own gathering.combine unit [id]⟩ := by
  obtain rfl := id_of_find? found
  have walks := index.walks_foldChildren gathering.own gathering.combine [start.id] []
    (gathering.own start) start.children
  rw [foldFrom, foldChildren_of_new [] (by simp) found List.not_mem_nil, foldChildren_nil]
  exact walks.reaches_closed

/-- The loop that begins at one node ends with the values of the walk from that
node. -/
theorem mem_eval_foldFrom (unit : α) {start : Node} {id : String}
    (found : index.find? id = some start) :
    ⟨[], index.foldFrom gathering.own gathering.combine unit [id]⟩ ∈
      eval (gathering.next index) ⟨[gathering.enter start], []⟩ :=
  mem_eval.2 ⟨reaches_foldFrom gathering unit found, rfl⟩

end Simulation

end Index

end ScanTree
