import AppSupervisor.Registry

/-!
How the operations of the registry follow each other.
-/

namespace AppSupervisor.Registry

variable {α : Type}

theorem get?_eq_none_iff {r : Registry α} {id : String} : r.get? id = none ↔ id ∉ r.ids := by
  rw [get?, List.lookup_eq_none_iff]
  constructor
  · rintro hnone hmem
    obtain ⟨entry, hentry, rfl⟩ := List.mem_map.mp hmem
    exact absurd (hnone entry hentry) (by simp)
  · intro hmem entry hentry
    have hne : id ≠ entry.1 := fun heq => hmem (List.mem_map.mpr ⟨entry, hentry, heq.symm⟩)
    simpa using hne

theorem mem_ids_of_get? {r : Registry α} {id : String} {value : α} (h : r.get? id = some value) :
    id ∈ r.ids := by
  by_cases hmem : id ∈ r.ids
  · exact hmem
  · rw [get?_eq_none_iff.mpr hmem] at h
    contradiction

theorem get?_remove_self (r : Registry α) (id : String) : (r.remove id).get? id = none := by
  rw [get?_eq_none_iff, ids_remove]
  simp

theorem get?_remove_of_ne (r : Registry α) {id other : String} (h : other ≠ id) :
    (r.remove id).get? other = r.get? other := by
  unfold remove get?
  induction r.published with
  | nil => rfl
  | cons entry rest ih =>
      obtain ⟨key, value⟩ := entry
      by_cases hkey : key = id
      · have hother : (other == id) = false := by simpa using h
        simpa [hkey, List.lookup_cons, hother] using ih
      · by_cases hother : other = key <;> simp_all [List.lookup_cons]

theorem get?_remove_eq_none {r : Registry α} {id other : String} (h : r.get? other = none) :
    (r.remove id).get? other = none := by
  by_cases hother : other = id
  · rw [hother, get?_remove_self]
  · rw [get?_remove_of_ne r hother, h]

theorem remove_of_hidden {r : Registry α} {id : String} (h : r.get? id = none) :
    r.remove id = r := by
  have hkept : r.published.filter (·.1 != id) = r.published := by
    refine List.filter_eq_self.mpr fun entry hentry => ?_
    have hne : entry.1 ≠ id := by
      rintro rfl
      exact get?_eq_none_iff.mp h (List.mem_map_of_mem hentry)
    simpa using hne
  rw [remove, hkept]

/-- What becomes visible under a new id changes nothing else. -/
theorem get?_append {r : Registry α} {id other : String} {value found : α}
    (h : r.get? other = some found) :
    get? { r with published := r.published ++ [(id, value)] } other = some found := by
  unfold get? at h ⊢
  rw [List.lookup_append, h, Option.some_or]

theorem get?_append_self {r : Registry α} {id : String} (value : α) (h : id ∉ r.ids) :
    get? { r with published := r.published ++ [(id, value)] } id = some value := by
  have hnone : r.published.lookup id = none := get?_eq_none_iff.mpr h
  simp [get?, List.lookup_append, hnone]

theorem get?_append_of_ne {r : Registry α} {id other : String} (value : α) (h : other ≠ id) :
    get? { r with published := r.published ++ [(id, value)] } other = r.get? other := by
  have hmiss : (other == id) = false := by simpa using h
  simp [get?, List.lookup_append, List.lookup_cons, hmiss]

theorem contains_eq_false_iff {r : Registry α} {id : String} :
    r.contains id = false ↔ id ∉ r.ids := by
  rw [contains, Option.isSome_eq_false_iff, Option.isNone_iff_eq_none, get?_eq_none_iff]

/-- A claim is granted only on an id that is neither visible nor claimed. -/
theorem reserve_eq_ok_iff {r claimed : Registry α} {id : String} :
    r.reserve id = .ok claimed ↔
      id ∉ r.ids ∧ id ∉ r.reserved ∧ claimed = { r with reserved := id :: r.reserved } := by
  rw [reserve, ← contains_eq_false_iff]
  by_cases hvisible : r.contains id <;> by_cases hreserved : id ∈ r.reserved <;>
    simp [hvisible, hreserved, isReserved, eq_comm]

theorem reserve_eq_error_iff {r : Registry α} {id : String} {fault : Fault} :
    r.reserve id = .error fault ↔
      (id ∈ r.ids ∨ id ∈ r.reserved) ∧ fault = .alreadyDeployed id := by
  have hvisible : r.contains id = true ↔ id ∈ r.ids := by
    rw [← Bool.not_eq_false, contains_eq_false_iff, Decidable.not_not]
  rw [reserve, ← hvisible]
  by_cases hcontains : r.contains id <;> by_cases hreserved : id ∈ r.reserved <;>
    simp [hcontains, hreserved, isReserved, eq_comm]

/-- A claim that is dropped leaves no trace. -/
theorem release_claim {r : Registry α} {id : String} (h : id ∉ r.reserved) :
    release { r with reserved := id :: r.reserved } id = r := by
  have hkept : r.reserved.filter (· != id) = r.reserved := by
    refine List.filter_eq_self.mpr fun other hmem => ?_
    have hne : other ≠ id := fun heq => h (heq ▸ hmem)
    simpa using hne
  simp [release, hkept]

/-- A claim that is fulfilled adds one visible deployment and leaves no other trace. -/
theorem publish_claim {r : Registry α} {id : String} (value : α) (hvisible : id ∉ r.ids)
    (hreserved : id ∉ r.reserved) :
    publish { r with reserved := id :: r.reserved } id value =
      { r with published := r.published ++ [(id, value)] } := by
  have hcontains : contains { r with reserved := id :: r.reserved } id = false :=
    contains_eq_false_iff.mpr hvisible
  simp only [publish, hcontains, release_claim hreserved, Bool.false_eq_true, ↓reduceIte]

theorem get?_remove (r : Registry α) (id other : String) :
    (r.remove id).get? other = if other = id then none else r.get? other := by
  split
  · rename_i heq
    rw [heq, get?_remove_self]
  · rename_i hne
    exact get?_remove_of_ne r hne

theorem mem_reserved_release {r : Registry α} {id other : String} :
    other ∈ (r.release id).reserved ↔ other ≠ id ∧ other ∈ r.reserved := by
  simp [release, and_comm]

theorem mem_reserved_publish {r : Registry α} {id other : String} {value : α} :
    other ∈ (r.publish id value).reserved ↔ other ≠ id ∧ other ∈ r.reserved :=
  mem_reserved_release

theorem publish_of_mem {r : Registry α} {id : String} (value : α) (h : id ∈ r.ids) :
    (r.publish id value).published =
      r.published.map fun entry => if entry.1 == id then (id, value) else entry := by
  have hcontains : r.contains id = true :=
    Bool.of_not_eq_false fun hnone => contains_eq_false_iff.mp hnone h
  simp only [publish, hcontains, if_true]

theorem publish_of_not_mem {r : Registry α} {id : String} (value : α) (h : id ∉ r.ids) :
    (r.publish id value).published = r.published ++ [(id, value)] := by
  have hcontains : r.contains id = false := contains_eq_false_iff.mpr h
  simp only [publish, hcontains, Bool.false_eq_true, if_false]

theorem ids_publish (r : Registry α) (id : String) (value : α) :
    (r.publish id value).ids = if id ∈ r.ids then r.ids else r.ids ++ [id] := by
  split
  · rename_i hmem
    rw [ids, publish_of_mem value hmem, List.map_map]
    refine List.map_congr_left fun entry _ => ?_
    by_cases hkey : entry.1 = id <;> simp [hkey]
  · rename_i hnew
    simp [ids, publish_of_not_mem value hnew]

theorem lookup_replace (entries : List (String × α)) (id other : String) (value : α) :
    (entries.map fun entry => if entry.1 == id then (id, value) else entry).lookup other =
      if other = id then (entries.lookup other).map fun _ => value else entries.lookup other := by
  induction entries with
  | nil => simp
  | cons entry rest ih =>
      obtain ⟨key, old⟩ := entry
      by_cases hkey : key = id
      · by_cases hother : other = id
        · simp [hkey, hother]
        · have hmiss : (other == id) = false := by simpa using hother
          simp only [hkey, hother, if_false, beq_self_eq_true, if_true, List.map_cons,
            List.lookup_cons, hmiss] at ih ⊢
          exact ih
      · have hkept : (key == id) = false := by simpa using hkey
        by_cases hfound : other = key
        · simp [hfound, hkey]
        · have hmiss : (other == key) = false := by simpa using hfound
          simp only [List.map_cons, hkept, Bool.false_eq_true, if_false, List.lookup_cons,
            hmiss] at ih ⊢
          exact ih

/-- What is made visible is found under its own id, and nothing else changes. -/
theorem get?_publish (r : Registry α) (id other : String) (value : α) :
    (r.publish id value).get? other = if other = id then some value else r.get? other := by
  by_cases hmem : id ∈ r.ids
  · rw [get?, publish_of_mem value hmem, lookup_replace]
    split
    · rename_i heq
      obtain ⟨old, hold⟩ : ∃ old, r.get? other = some old := by
        rw [← Option.ne_none_iff_exists', heq]
        exact fun hnone => get?_eq_none_iff.mp hnone hmem
      rw [get?] at hold
      rw [hold, Option.map_some]
    · rfl
  · rw [get?, publish_of_not_mem value hmem, List.lookup_append]
    split
    · rename_i heq
      have hnone : r.published.lookup id = none := get?_eq_none_iff.mpr hmem
      simp [hnone, heq]
    · rename_i hne
      have hmiss : (other == id) = false := by simpa using hne
      simp [get?, List.lookup_cons, hmiss]

end AppSupervisor.Registry
