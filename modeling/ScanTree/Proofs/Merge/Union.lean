import ScanTree.Merge

/-!
# What a comparison holds

A comparison holds the paths of both indices, those of the first one in front.
Its node for a path is put together from what is found in the two indices.
-/

namespace ScanTree

theorem unionChildren_cons (first : List String) (child : String) (rest : List String) :
    unionChildren first (child :: rest) =
      unionChildren (if child ∈ first then first else first ++ [child]) rest :=
  rfl

theorem unionChildren_append (first second third : List String) :
    unionChildren first (second ++ third) = unionChildren (unionChildren first second) third :=
  List.foldl_append

theorem mem_unionChildren_iff {first second : List String} {child : String} :
    child ∈ unionChildren first second ↔ child ∈ first ∨ child ∈ second := by
  induction second generalizing first with
  | nil => simp [unionChildren]
  | cons head rest ih =>
      rw [unionChildren_cons, ih, List.mem_cons]
      split
      · rename_i known
        constructor
        · exact fun member => member.imp_right Or.inr
        · rintro (member | rfl | member)
          · exact Or.inl member
          · exact Or.inl known
          · exact Or.inr member
      · simp [or_assoc]

/-- The union repeats nothing if the first list does not. -/
theorem nodup_unionChildren {first second : List String} (distinct : first.Nodup) :
    (unionChildren first second).Nodup := by
  induction second generalizing first with
  | nil => exact distinct
  | cons head rest ih =>
      rw [unionChildren_cons]
      apply ih
      split
      · exact distinct
      · rename_i new
        refine List.nodup_append.2 ⟨distinct, by simp, ?_⟩
        rintro child known other isHead rfl
        exact new (List.mem_singleton.1 isHead ▸ known)

/-- The union with a union is the union with one list after the other. -/
theorem unionChildren_assoc (first second third : List String) :
    unionChildren (unionChildren first second) third =
      unionChildren first (unionChildren second third) := by
  induction third generalizing second with
  | nil => rfl
  | cons child rest ih =>
      rw [unionChildren_cons second, ← ih, unionChildren_cons]
      congr 1
      by_cases known : child ∈ second
      · rw [if_pos known, if_pos (mem_unionChildren_iff.2 (Or.inr known))]
      · rw [if_neg known, unionChildren_append]
        rfl

/-- Without repetitions in the second list, the union is the first list followed
by what is new in the second one. -/
theorem unionChildren_eq {first second : List String} (distinct : second.Nodup) :
    unionChildren first second = first ++ second.filter (· ∉ first) := by
  induction second generalizing first with
  | nil => simp [unionChildren]
  | cons child rest ih =>
      obtain ⟨new, restDistinct⟩ := List.nodup_cons.1 distinct
      rw [unionChildren_cons, ih restDistinct]
      by_cases known : child ∈ first
      · simp [known]
      · have restNew : rest.filter (· ∉ first ++ [child]) = rest.filter (· ∉ first) := by
          apply List.filter_congr
          intro other member
          have different : other ≠ child := fun same => new (same ▸ member)
          simp [different]
        rw [if_neg known, restNew, List.filter_cons_of_pos (by simpa using known),
          List.append_assoc, List.singleton_append]

theorem unionChildren_eq_nil_iff {first second : List String} (distinct : second.Nodup) :
    unionChildren first second = [] ↔ first = [] ∧ second = [] := by
  rw [unionChildren_eq distinct, List.append_eq_nil_iff]
  constructor
  · rintro ⟨rfl, nothingNew⟩
    have allNew : second.filter (· ∉ []) = second :=
      List.filter_eq_self.2 fun _ _ => decide_eq_true List.not_mem_nil
    exact ⟨rfl, allNew.symm.trans nothingNew⟩
  · rintro ⟨rfl, rfl⟩
    exact ⟨rfl, rfl⟩

namespace Node

theorem kind_merge_eq_dir_iff (first second : Node) :
    (first.merge second).kind = .dir ↔ first.kind = .dir ∨ second.kind = .dir := by
  simp only [merge]
  split
  · simp_all
  · simp_all

end Node

namespace Index

theorem ids_mergedNodes (first second : Index) :
    (mergedNodes first second).keys = first.ids ++ second.ids.filter (· ∉ first.ids) := by
  simp only [mergedNodes, Table.keys, List.map_append, List.map_map]
  congr 1
  · exact List.map_congr_left fun node _ => id_compareNode second node
  · rw [ids, ids, Table.keys, Table.keys, List.filter_map]
    refine congrArg _ (List.filter_congr fun node _ => ?_)
    have unknown := @find?_isSome_iff first node.id
    cases found : first.find? node.id <;> simp_all [ids, Table.keys]

/-- The node of a path in a comparison. -/
theorem find?_mergedNodes (first second : Index) (id : String) :
    (mergedNodes first second).find? id =
      match first.find? id, second.find? id with
      | some node, some other => some (node.merge other)
      | some node, none => some (node.onlyOn .first)
      | none, some other => some (other.onlyOn .second)
      | none, none => none := by
  have ofFirst :
      (first.nodes.entries.map second.compareNode).find? (fun node => node.id = id) =
        (first.find? id).map second.compareNode := by
    rw [List.find?_map]
    simp only [Function.comp_def, id_compareNode]
    rfl
  rw [Table.find?, mergedNodes, List.find?_append, ofFirst]
  cases found : first.find? id with
  | some node =>
      simp only [Option.map_some, Option.some_or, compareNode, id_of_find? found]
      cases second.find? id <;> rfl
  | none =>
      have ofSecond :
          (second.nodes.entries.filter fun node => (first.find? node.id).isNone).find?
              (fun node => node.id = id) = second.find? id := by
        rw [List.find?_filter]
        refine congrArg (fun test => second.nodes.entries.find? test) (funext fun node => ?_)
        by_cases same : node.id = id <;> simp [same, found]
      rw [List.find?_map]
      simp only [Option.map_none, Option.none_or]
      have keepsIds :
          ((fun node : Node => decide (node.id = id)) ∘ fun node : Node => node.onlyOn .second) =
            fun node : Node => decide (node.id = id) := rfl
      rw [keepsIds, ofSecond]
      cases second.find? id <;> rfl

/-- Indices with the same root can be compared, and no others. -/
theorem merge_eq_ok_iff {first second merged : Index} :
    first.merge second = .ok merged ↔
      first.rootId = second.rootId ∧
        merged = ⟨first.rootId, mergedNodes first second, first.counts + second.counts, true⟩ := by
  unfold merge
  split
  · rename_i same
    simp [same, eq_comm]
  · rename_i different
    simp [different]

theorem ids_of_merge {first second merged : Index} (merges : first.merge second = .ok merged) :
    merged.ids = first.ids ++ second.ids.filter (· ∉ first.ids) := by
  rw [(merge_eq_ok_iff.1 merges).2]
  exact ids_mergedNodes first second

theorem find?_of_merge {first second merged : Index} (merges : first.merge second = .ok merged)
    (id : String) :
    merged.find? id =
      match first.find? id, second.find? id with
      | some node, some other => some (node.merge other)
      | some node, none => some (node.onlyOn .first)
      | none, some other => some (other.onlyOn .second)
      | none, none => none := by
  rw [(merge_eq_ok_iff.1 merges).2]
  exact find?_mergedNodes first second id

end Index

end ScanTree
