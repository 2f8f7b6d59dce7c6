/-!
# Outcomes

What a computation that can fail gives where it succeeds, and what a list of them gives.
-/
namespace LayerAtlas

variable {ε α β γ : Type}

theorem exists_of_bind {first : Except ε α} {next : α → Except ε β} {result : β}
    (success : first >>= next = .ok result) : ∃ value, first = .ok value ∧ next value = .ok result := by
  cases first with
  | error fault => cases success
  | ok value => exact ⟨value, rfl, success⟩

theorem exists_of_isOk {outcome : Except ε α} (isOk : outcome.isOk = true) :
    ∃ result, outcome = .ok result := by
  cases outcome with
  | error fault => cases isOk
  | ok result => exact ⟨result, rfl⟩

/-- What is shown of an outcome is shown of its value. -/
theorem exists_of_map_toOption {outcome : Except ε α} {shown : α → β} {value : β}
    (seen : outcome.toOption.map shown = some value) :
    ∃ result, outcome = .ok result ∧ shown result = value := by
  cases outcome with
  | error fault => cases seen
  | ok result => exact ⟨result, rfl, Option.some.inj seen⟩

section Lists

variable {read : α → Except ε β}

/-- What is read keeps what it was read from, in its order. -/
theorem map_of_mapM {origin : α → γ} {known : β → γ} {items : List α} {results : List β}
    (keeps : ∀ item result, read item = .ok result → known result = origin item)
    (success : items.mapM read = .ok results) : results.map known = items.map origin := by
  induction items generalizing results with
  | nil =>
    cases success
    rfl
  | cons item items ih =>
    rw [List.mapM_cons] at success
    obtain ⟨first, here, success⟩ := exists_of_bind success
    obtain ⟨others, behind, success⟩ := exists_of_bind success
    cases success
    rw [List.map_cons, List.map_cons, keeps item first here, ih behind]

theorem exists_of_mem_mapM {items : List α} {results : List β} {result : β}
    (success : items.mapM read = .ok results) (member : result ∈ results) :
    ∃ item ∈ items, read item = .ok result := by
  induction items generalizing results with
  | nil =>
    cases success
    cases member
  | cons item items ih =>
    rw [List.mapM_cons] at success
    obtain ⟨first, here, success⟩ := exists_of_bind success
    obtain ⟨others, behind, success⟩ := exists_of_bind success
    cases success
    rcases List.mem_cons.mp member with rfl | further
    · exact ⟨item, List.mem_cons_self, here⟩
    · obtain ⟨found, listed, same⟩ := ih behind further
      exact ⟨found, List.mem_cons_of_mem item listed, same⟩

/-- A reading that fails reports the fault of one of the items. -/
theorem exists_of_mapM_error {items : List α} {fault : ε}
    (failed : items.mapM read = .error fault) : ∃ item ∈ items, read item = .error fault := by
  induction items with
  | nil => cases failed
  | cons item items ih =>
    rw [List.mapM_cons] at failed
    cases here : read item with
    | error reported =>
      rw [here] at failed
      cases failed
      exact ⟨item, List.mem_cons_self, here⟩
    | ok result =>
      rw [here] at failed
      cases behind : items.mapM read with
      | error reported =>
        rw [behind] at failed
        cases failed
        obtain ⟨found, listed, same⟩ := ih behind
        exact ⟨found, List.mem_cons_of_mem item listed, same⟩
      | ok results =>
        rw [behind] at failed
        cases failed

end Lists

end LayerAtlas
