/-!
# Outcomes

A computation that may fail in several places succeeds only if each of its parts
does.
-/

namespace ScanTree

variable {α β ε : Type}

theorem exists_of_bind_eq_ok {first : Except ε α} {next : α → Except ε β} {result : β}
    (done : first >>= next = .ok result) :
    ∃ value, first = .ok value ∧ next value = .ok result := by
  cases first with
  | error error => simp [bind, Except.bind] at done
  | ok value => exact ⟨value, rfl, done⟩

theorem exists_bind_eq_ok {first : Except ε α} {next : α → Except ε β}
    (succeeds : ∃ value, first = .ok value)
    (goesOn : ∀ value, first = .ok value → ∃ result, next value = .ok result) :
    ∃ result, first >>= next = .ok result := by
  obtain ⟨value, rfl⟩ := succeeds
  exact goesOn value rfl

theorem error_cases_of_bind_eq_error {first : Except ε α} {next : α → Except ε β} {error : ε}
    (stops : first >>= next = .error error) :
    first = .error error ∨ ∃ value, first = .ok value ∧ next value = .error error := by
  cases first with
  | error other => exact Or.inl (congrArg _ (Except.error.inj stops))
  | ok value => exact Or.inr ⟨value, rfl, stops⟩

theorem exists_of_map_eq_ok {first : Except ε α} {change : α → β} {result : β}
    (done : first.map change = .ok result) :
    ∃ value, first = .ok value ∧ change value = result := by
  cases first with
  | error error => simp [Except.map] at done
  | ok value => exact ⟨value, rfl, Except.ok.inj done⟩

theorem exists_map_eq_ok_iff {first : Except ε α} {change : α → β} :
    (∃ result, first.map change = .ok result) ↔ ∃ value, first = .ok value := by
  cases first <;> simp [Except.map]

section MapError

variable {ε' : Type} (change : ε → ε')

@[simp]
theorem mapError_ok (value : α) : (Except.ok value : Except ε α).mapError change = .ok value :=
  rfl

@[simp]
theorem mapError_error (error : ε) :
    (Except.error error : Except ε α).mapError change = .error (change error) :=
  rfl

variable {change}

theorem mapError_eq_ok_iff {first : Except ε α} {value : α} :
    first.mapError change = .ok value ↔ first = .ok value := by
  cases first <;> simp

end MapError

theorem mapM_eq_ok {read : α → Except ε β} {result : α → β} {values : List α}
    (reads : ∀ value ∈ values, read value = .ok (result value)) :
    values.mapM read = .ok (values.map result) := by
  induction values with
  | nil => rfl
  | cons value rest ih =>
      rw [List.mapM_cons, reads value List.mem_cons_self,
        ih fun other member => reads other (List.mem_cons_of_mem value member)]
      rfl

theorem exists_mapM_eq_ok_iff {read : α → Except ε β} {values : List α} :
    (∃ results, values.mapM read = .ok results) ↔
      ∀ value ∈ values, ∃ result, read value = .ok result := by
  induction values with
  | nil => exact ⟨fun _ _ member => absurd member List.not_mem_nil, fun _ => ⟨[], rfl⟩⟩
  | cons value rest ih =>
      rw [List.mapM_cons, List.forall_mem_cons, ← ih]
      constructor
      · rintro ⟨results, done⟩
        obtain ⟨first, reads, done⟩ := exists_of_bind_eq_ok done
        obtain ⟨others, readsRest, -⟩ := exists_of_bind_eq_ok done
        exact ⟨⟨first, reads⟩, others, readsRest⟩
      · rintro ⟨reads, readsRest⟩
        exact exists_bind_eq_ok reads fun _ _ => exists_bind_eq_ok readsRest fun _ _ => ⟨_, rfl⟩

theorem exists_of_mapM_eq_ok {read : α → Except ε β} {values : List α} {results : List β}
    (done : values.mapM read = .ok results) {result : β} (member : result ∈ results) :
    ∃ value ∈ values, read value = .ok result := by
  induction values generalizing results with
  | nil =>
      obtain rfl := Except.ok.inj done
      exact absurd member List.not_mem_nil
  | cons value rest ih =>
      rw [List.mapM_cons] at done
      obtain ⟨first, reads, done⟩ := exists_of_bind_eq_ok done
      obtain ⟨others, readsRest, done⟩ := exists_of_bind_eq_ok done
      obtain rfl := Except.ok.inj done
      rcases List.mem_cons.1 member with rfl | inRest
      · exact ⟨value, List.mem_cons_self, reads⟩
      · obtain ⟨other, listed, readsOther⟩ := ih readsRest inRest
        exact ⟨other, List.mem_cons_of_mem value listed, readsOther⟩

end ScanTree
