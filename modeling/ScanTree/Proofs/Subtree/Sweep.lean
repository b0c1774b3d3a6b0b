import ScanTree.Proofs.Subtree.Search
import ScanTree.Proofs.Subtree.Stack
import ScanTree.Proofs.Subtree.Statistics
import Mathlib.Data.Finset.Insert

/-!
# The loop that computes statistics

Statistics are computed by one loop that takes every node as a start, skips
those that have a value by then, and walks down from the others with a stack of
frames.  It keeps the ids on the path as a set.  The loop ends whatever the
links of an index are, and with the values of the fold.  In these every node
counts itself and, once for each time they are listed, the nodes that its
children off the path count.
-/

namespace ScanTree

open StateTransition

namespace Index

variable {α : Type}

/-- The state of the loop: the starts that are left, the frames, the ids on the
path and the values that are complete. -/
structure SweepState (α : Type) where
  starts : List String
  frames : List (Frame α)
  active : Finset String
  folded : Folded α

/-- One turn of the loop.  Where no frame is open, the next start is taken. -/
def Gathering.sweep (gathering : Gathering α) (index : Index) :
    SweepState α → Option (SweepState α)
  | ⟨[], [], _, _⟩ => none
  | ⟨start :: starts, [], active, folded⟩ =>
    match folded.lookup start, index.find? start with
    | none, some node => some ⟨starts, [gathering.enter node], insert start active, folded⟩
    | _, _ => some ⟨starts, [], active, folded⟩
  | ⟨starts, ⟨node, total, []⟩ :: frames, active, folded⟩ =>
    let value := gathering.close node total
    some ⟨starts, gathering.pass value frames, active.erase node.id,
      folded ++ [(node.id, value)]⟩
  | ⟨starts, ⟨node, total, child :: rest⟩ :: frames, active, folded⟩ =>
    match folded.lookup child with
    | some value =>
      some ⟨starts, ⟨node, gathering.combine total value, rest⟩ :: frames, active, folded⟩
    | none =>
      match index.find? child with
      | none => some ⟨starts, ⟨node, total, rest⟩ :: frames, active, folded⟩
      | some found =>
        if child ∈ active then some ⟨starts, ⟨node, total, rest⟩ :: frames, active, folded⟩
        else
          some ⟨starts, gathering.enter found :: ⟨node, total, rest⟩ :: frames,
            insert child active, folded⟩

section Simulation

variable {index : Index} {gathering : Gathering α}

@[simp]
theorem path_cons (frame : Frame α) (frames : List (Frame α)) :
    path (frame :: frames) = frame.node.id :: path frames :=
  rfl

@[simp]
theorem path_pass (value : α) (frames : List (Frame α)) :
    path (gathering.pass value frames) = path frames := by
  cases frames <;> rfl

/-- The walk from one start as a part of the loop, with the ids of the frames as
the set. -/
def WalkState.swept (state : WalkState α) (starts : List String) : SweepState α :=
  ⟨starts, state.frames, (path state.frames).toFinset, state.folded⟩

/-- As long as the walk from one start goes on, the loop goes on with it, and no
id is on the path twice. -/
theorem sweep_of_next {first second : WalkState α}
    (turn : gathering.next index first = some second) (distinct : (path first.frames).Nodup)
    (starts : List String) :
    gathering.sweep index (first.swept starts) = some (second.swept starts) ∧
      (path second.frames).Nodup := by
  obtain ⟨frames, folded⟩ := first
  rcases frames with _ | ⟨⟨node, total, _ | ⟨child, rest⟩⟩, frames⟩
  · cases turn
  · obtain rfl := Option.some.inj turn
    obtain ⟨apart, restDistinct⟩ : node.id ∉ path frames ∧ (path frames).Nodup :=
      List.nodup_cons.1 distinct
    have closed : (node.id :: path frames).toFinset.erase node.id = (path frames).toFinset := by
      rw [List.toFinset_cons, Finset.erase_insert (mt List.mem_toFinset.1 apart)]
    exact ⟨by simp only [Gathering.sweep, WalkState.swept, path_cons, path_pass, closed],
      by rwa [path_pass]⟩
  · cases complete : folded.lookup child with
    | some value =>
        simp only [Gathering.next, complete, Option.some.injEq] at turn
        subst turn
        exact ⟨by simp only [Gathering.sweep, WalkState.swept, complete, path_cons], distinct⟩
    | none =>
        cases found : index.find? child with
        | none =>
            simp only [Gathering.next, complete, found, Option.some.injEq] at turn
            subst turn
            exact ⟨by simp only [Gathering.sweep, WalkState.swept, complete, found, path_cons],
              distinct⟩
        | some childNode =>
            obtain rfl := id_of_find? found
            simp only [Gathering.next, complete, found, path_cons] at turn
            by_cases onPath : childNode.id ∈ node.id :: path frames
            · obtain rfl := Option.some.inj ((if_pos onPath).symm.trans turn)
              refine ⟨?_, distinct⟩
              simp only [Gathering.sweep, WalkState.swept, complete, found, path_cons,
                List.mem_toFinset, onPath, if_true]
            · obtain rfl := Option.some.inj ((if_neg onPath).symm.trans turn)
              refine ⟨?_, List.nodup_cons.2 ⟨onPath, distinct⟩⟩
              simp only [Gathering.sweep, WalkState.swept, complete, found, path_cons,
                List.mem_toFinset, onPath, if_false]
              simp only [Gathering.enter, List.toFinset_cons]

theorem reaches_swept {first last : WalkState α}
    (reaches : Reaches (gathering.next index) first last) (distinct : (path first.frames).Nodup)
    (starts : List String) :
    Reaches (gathering.sweep index) (first.swept starts) (last.swept starts) := by
  induction reaches using Relation.ReflTransGen.head_induction_on with
  | refl => exact .refl
  | head turn _ ih =>
      obtain ⟨swept, stillDistinct⟩ := sweep_of_next turn distinct starts
      exact reaches_of_turn swept (ih stillDistinct)

theorem Walks.reaches_swept {walkedPath : List String} {folded final : Folded α} {total result : α}
    {starts : List String}
    (walks : index.Walks gathering.own gathering.combine walkedPath folded total starts result
      final) (noPath : walkedPath = []) :
    Reaches (gathering.sweep index) ⟨starts, [], ∅, folded⟩ ⟨[], [], ∅, final⟩ := by
  induction walks with
  | nil => exact .refl
  | complete complete _ ih =>
      refine reaches_of_turn ?_ (ih noPath)
      simp only [Gathering.sweep, complete]
  | missing incomplete missing _ ih =>
      refine reaches_of_turn ?_ (ih noPath)
      simp only [Gathering.sweep, incomplete, missing]
  | walked _ _ onPath _ _ =>
      subst noPath
      cases onPath
  | @new _ folded _ _ _ _ _ node start rest incomplete found _ down _ _ ihFurther =>
      subst noPath
      obtain rfl := id_of_find? found
      have opens : gathering.sweep index ⟨node.id :: rest, [], ∅, folded⟩ =
          some (WalkState.swept ⟨[gathering.enter node], folded⟩ rest) := by
        simp only [Gathering.sweep, incomplete, found]
        rfl
      have walked := Index.reaches_swept down.reaches_closed (List.nodup_singleton _) rest
      exact reaches_of_turn opens (walked.trans (ihFurther rfl))

/-- The loop ends with the values of the fold that starts from every node. -/
theorem mem_eval_sweep (gathering : Gathering α) (index : Index) (unit : α) :
    ⟨[], [], ∅, index.foldFrom gathering.own gathering.combine unit index.ids⟩ ∈
      eval (gathering.sweep index) ⟨index.ids, [], ∅, []⟩ := by
  obtain ⟨_, walks⟩ := index.walks_foldFrom gathering.own gathering.combine unit index.ids
  exact mem_eval.2 ⟨walks.reaches_swept rfl, rfl⟩

/-- The loop that begins at one node and has no further starts ends with the values of the
walk from that node. -/
theorem mem_eval_sweep_of_find? (gathering : Gathering α) (unit : α) {start : Node} {id : String}
    (found : index.find? id = some start) :
    ⟨[], [], ∅, index.foldFrom gathering.own gathering.combine unit [id]⟩ ∈
      eval (gathering.sweep index) ⟨[], [gathering.enter start], {id}, []⟩ := by
  have opened : WalkState.swept ⟨[gathering.enter start], []⟩ [] =
      ⟨[], [gathering.enter start], {id}, []⟩ := by
    obtain rfl := id_of_find? found
    rfl
  have reaches := reaches_swept (reaches_foldFrom gathering unit found) (List.nodup_singleton _) []
  rw [opened] at reaches
  exact mem_eval.2 ⟨reaches, rfl⟩

end Simulation

end Index

/-- Statistics of at least one node, each of which is a file or a directory and not both
ignored and skipped. -/
structure SubtreeStats.Balanced (stats : SubtreeStats) : Prop where
  totalNodes_eq : stats.totalNodes = stats.totalFiles + stats.totalDirs
  totalNodes_pos : 1 ≤ stats.totalNodes
  excluded_le : stats.ignored + stats.skipped ≤ stats.totalNodes
  totalFiles_nonneg : 0 ≤ stats.totalFiles
  totalDirs_nonneg : 0 ≤ stats.totalDirs
  ignored_nonneg : 0 ≤ stats.ignored
  skipped_nonneg : 0 ≤ stats.skipped

namespace SubtreeStats.Balanced

theorem ofNode (node : Node) : (SubtreeStats.ofNode node).Balanced := by
  cases isDir : node.isDir <;> cases status : node.status <;>
    constructor <;> simp [SubtreeStats.ofNode, isDir, status]

theorem add {first second : SubtreeStats} (left : first.Balanced) (right : second.Balanced) :
    (first + second).Balanced := by
  obtain ⟨leftTotal, leftPos, leftExcluded, leftFiles, leftDirs, leftIgnored, leftSkipped⟩ := left
  obtain ⟨total, pos, excluded, files, dirs, ignored, skipped⟩ := right
  constructor <;>
    simp only [totalNodes_add, totalFiles_add, totalDirs_add, ignored_add, skipped_add] <;>
    omega

end SubtreeStats.Balanced

namespace Index

/-- What holds of the own parts of nodes and of combined values holds of every value. -/
theorem Walks.holds {α : Type} {index : Index} {own : Node → α} {combine : α → α → α}
    {path : List String} {folded final : Folded α} {total result : α} {children : List String}
    (walks : index.Walks own combine path folded total children result final) {holds : α → Prop}
    (ofOwn : ∀ node, holds (own node))
    (ofCombined : ∀ {value other}, holds value → holds other → holds (combine value other))
    (before : ∀ entry ∈ folded, holds entry.2) :
    (holds total → holds result) ∧ ∀ entry ∈ final, holds entry.2 := by
  induction walks with
  | nil => exact ⟨id, before⟩
  | complete complete _ ih =>
      have valueHolds := before _ (mem_of_lookup complete)
      obtain ⟨ofRest, ofEntries⟩ := ih before
      exact ⟨fun totalHolds => ofRest (ofCombined totalHolds valueHolds), ofEntries⟩
  | missing _ _ _ ih => exact ih before
  | walked _ _ _ _ ih => exact ih before
  | @new _ _ below _ _ _ value node child _ _ _ _ _ _ ihDown ihFurther =>
      obtain ⟨ofChild, ofBelow⟩ := ihDown before
      have valueHolds := ofChild (ofOwn node)
      have ofKept : ∀ entry ∈ below ++ [(child, value)], holds entry.2 :=
        List.forall_mem_append.2 ⟨ofBelow, List.forall_mem_singleton.2 valueHolds⟩
      obtain ⟨ofRest, ofEntries⟩ := ihFurther ofKept
      exact ⟨fun totalHolds => ofRest (ofCombined totalHolds valueHolds), ofEntries⟩

theorem balanced_of_lookup_stats {index : Index} {id : String} {stats : SubtreeStats}
    (found : index.stats.lookup id = some stats) : stats.Balanced := by
  obtain ⟨_, walks⟩ := index.walks_foldFrom SubtreeStats.ofNode (· + ·) 0 index.ids
  exact (walks.holds SubtreeStats.Balanced.ofNode .add fun _ nothing =>
    absurd nothing List.not_mem_nil).2 _ (mem_of_lookup found)

/-- How the loop puts statistics together: what a node adds itself is there when its frame is
opened. -/
def summing : Gathering SubtreeStats where
  initial := SubtreeStats.ofNode
  combine := (· + ·)
  close := fun _ total => total
  close_combine := fun _ _ _ => rfl

/-- Whatever the links of an index are, the loop ends with its statistics.  They have one
entry for each node, in the order in which a depth-first search from all nodes leaves them.
The entry of a node is its own part and the sum of the entries of its children off the path
that the search takes to it, all of which come before it.  No entry counts a node that is
neither a file nor a directory, or one that is both ignored and skipped. -/
theorem stats_along_search (index : Index) :
    ⟨[], [], ∅, index.stats⟩ ∈ eval (summing.sweep index) ⟨index.ids, [], ∅, []⟩ ∧
    (completed index.stats).Perm index.ids ∧
    completed index.stats = index.search.map Visit.id ∧
    (∀ before visit after, index.search = before ++ visit :: after →
      index.find? visit.id = some visit.node ∧
        (∀ child, index.NodeLink visit.id child → child ∉ visit.path →
          child ∈ before.map Visit.id) ∧
        ∃ stats entries, index.stats.lookup visit.id = some stats ∧
          List.Forall₂ (fun child entry => index.stats.lookup child = some entry)
            (visit.node.children.filter fun child => child ∈ index.ids ∧ child ∉ visit.path)
            entries ∧
          stats = SubtreeStats.ofNode visit.node + entries.sum) ∧
    ∀ id stats, index.stats.lookup id = some stats → stats.Balanced := by
  have accounts := index.accounts_foldFrom SubtreeStats.ofNode (· + ·) 0
  refine ⟨mem_eval_sweep summing index 0, index.completed_stats_perm, accounts.completed_eq, ?_,
    fun _ _ => balanced_of_lookup_stats⟩
  intro before visit after split
  have member : visit ∈ index.search := split ▸ List.mem_append_right _ List.mem_cons_self
  have entries := index.forall₂_lookup_stats (visit.node.children.filter (· ∉ visit.path))
  simp only [List.filter_filter, ← Bool.decide_and] at entries
  refine ⟨accounts.found member, fun _ => accounts.earlier split, _, _, accounts.lookup_eq member,
    entries, ?_⟩
  rw [gather, SubtreeStats.foldl_add]
  rfl

/-- Three directories that lead to each other in circles, two of which list themselves.  The
search goes from the first one down to the last one and then to the second one, which counts
the last one again. -/
theorem stats_of_circles :
    let first : Node :=
      { id := "b", name := "b", kind := .dir, decision := ⟨.skipped, none, none⟩
        children := ["a", "."] }
    let second : Node := { id := ".", name := ".", kind := .dir, children := ["a", "."] }
    let last : Node := { id := "a", name := "a", kind := .dir, children := ["b", "a", "gone"] }
    let index : Index :=
      { rootId := ".", nodes := Table.ofList [first, second, last], counts := {} }
    index.search = [⟨last, ["a", "b"]⟩, ⟨second, [".", "b"]⟩, ⟨first, ["b"]⟩] ∧
      index.stats.lookup "a" = some ⟨1, 0, 1, 0, 0⟩ ∧
      index.stats.lookup "." = some ⟨2, 0, 2, 0, 0⟩ ∧
      index.stats.lookup "b" = some ⟨4, 0, 4, 0, 1⟩ := by
  intro first second last index
  have visits : index.search = [⟨last, ["a", "b"]⟩, ⟨second, [".", "b"]⟩, ⟨first, ["b"]⟩] := by
    cbv
  obtain ⟨_, _, _, alongSearch, _⟩ := stats_along_search index
  obtain ⟨_, _, statsA, ofA, foundA, eachA, sumA⟩ := alongSearch [] _ _ visits
  obtain ⟨_, _, statsRoot, ofRoot, foundRoot, eachRoot, sumRoot⟩ :=
    alongSearch [⟨last, ["a", "b"]⟩] _ _ visits
  obtain ⟨_, _, statsB, ofB, foundB, eachB, sumB⟩ :=
    alongSearch [⟨last, ["a", "b"]⟩, ⟨second, [".", "b"]⟩] _ _ visits
  have childrenA : List.Forall₂ (fun child entry => index.stats.lookup child = some entry)
      [] ofA := eachA
  have childrenRoot : List.Forall₂ (fun child entry => index.stats.lookup child = some entry)
      ["a"] ofRoot := eachRoot
  have childrenB : List.Forall₂ (fun child entry => index.stats.lookup child = some entry)
      ["a", "."] ofB := eachB
  change index.stats.lookup "a" = _ at foundA
  change index.stats.lookup "." = _ at foundRoot
  change index.stats.lookup "b" = _ at foundB
  simp only [List.forall₂_nil_left_iff, List.forall₂_cons_left_iff, foundA, foundRoot,
    Option.some.injEq] at childrenA childrenRoot childrenB
  obtain rfl := childrenA
  obtain ⟨_, _, rfl, rfl, rfl⟩ := childrenRoot
  obtain ⟨_, _, rfl, ⟨_, _, rfl, rfl, rfl⟩, rfl⟩ := childrenB
  rw [foundA, foundRoot, foundB, sumB, sumRoot, sumA]
  exact ⟨visits, by decide, by decide, by decide⟩

end Index

end ScanTree
