/-!
Lists of keys with values, in the order in which the keys first came.
-/

namespace DeclSchema.Association

variable {κ α : Type} [DecidableEq κ]

-- A key that is present keeps its place and gets the new value.
def put (key : κ) (value : α) : List (κ × α) → List (κ × α)
  | [] => [(key, value)]
  | entry :: rest => if entry.1 = key then (key, value) :: rest else entry :: put key value rest

-- One entry after the other.
def putAll (rows entries : List (κ × α)) : List (κ × α) :=
  rows.foldl (fun entries row => put row.1 row.2 entries) entries

theorem putAll_append (rows more entries : List (κ × α)) :
    putAll (rows ++ more) entries = putAll more (putAll rows entries) := List.foldl_append

section Lookup

variable [BEq κ] [LawfulBEq κ]

theorem lookup_put_self (key : κ) (value : α) (entries : List (κ × α)) :
    (put key value entries).lookup key = some value := by
  induction entries with
  | nil => simp [put]
  | cons entry rest ih =>
    obtain ⟨found, old⟩ := entry
    by_cases same : found = key
    · simp [put, same]
    · have miss : (key == found) = false := by simpa using fun h => same h.symm
      simp [put, same, List.lookup_cons, miss, ih]

theorem lookup_put_of_ne {key other : κ} (different : other ≠ key) (value : α)
    (entries : List (κ × α)) : (put key value entries).lookup other = entries.lookup other := by
  have miss : (other == key) = false := by simpa using different
  induction entries with
  | nil => simp [put, List.lookup_cons, miss]
  | cons entry rest ih =>
    obtain ⟨found, old⟩ := entry
    by_cases same : found = key
    · subst same
      simp [put, List.lookup_cons, miss]
    · simp [put, same, List.lookup_cons, ih]

-- Of several values under one key the last one stays.
theorem lookup_putAll (key : κ) (rows entries : List (κ × α)) :
    (putAll rows entries).lookup key = (rows.reverse.lookup key).or (entries.lookup key) := by
  induction rows generalizing entries with
  | nil => rfl
  | cons row rest ih =>
    obtain ⟨found, value⟩ := row
    have single : [(found, value)].lookup key = if key == found then some value else none := by
      rw [List.lookup_cons]
      cases key == found <;> rfl
    rw [putAll, List.foldl_cons, ← putAll, ih, List.reverse_cons, List.lookup_append, Option.or_assoc,
      single]
    by_cases same : key = found
    · subst same
      simp [lookup_put_self]
    · simp [lookup_put_of_ne same, same]

end Lookup

section Keys

theorem keys_put_known {key : κ} {entries : List (κ × α)} (known : key ∈ entries.map Prod.fst)
    (value : α) : (put key value entries).map Prod.fst = entries.map Prod.fst := by
  induction entries with
  | nil => cases known
  | cons entry rest ih =>
    by_cases same : entry.1 = key
    · simp [put, same]
    · have later : key ∈ rest.map Prod.fst := (List.mem_cons.mp known).resolve_left (Ne.symm same)
      rw [put, if_neg same, List.map_cons, ih later, List.map_cons]

theorem keys_put_new {key : κ} {entries : List (κ × α)} (new : key ∉ entries.map Prod.fst)
    (value : α) : (put key value entries).map Prod.fst = entries.map Prod.fst ++ [key] := by
  induction entries with
  | nil => rfl
  | cons entry rest ih =>
    obtain ⟨other, later⟩ := not_or.mp ((not_congr List.mem_cons).mp new)
    rw [put, if_neg (Ne.symm other), List.map_cons, ih later, List.map_cons, List.cons_append]

theorem keys_put_nodup {entries : List (κ × α)} (nodup : (entries.map Prod.fst).Nodup) (key : κ)
    (value : α) : ((put key value entries).map Prod.fst).Nodup := by
  by_cases known : key ∈ entries.map Prod.fst
  · rwa [keys_put_known known]
  · rw [keys_put_new known, List.nodup_append]
    refine ⟨nodup, by simp, ?_⟩
    rintro other member last single rfl
    rw [List.mem_singleton.mp single] at member
    exact known member

theorem keys_putAll_nodup {entries : List (κ × α)} (nodup : (entries.map Prod.fst).Nodup)
    (rows : List (κ × α)) : ((putAll rows entries).map Prod.fst).Nodup := by
  induction rows generalizing entries with
  | nil => exact nodup
  | cons row rest ih => exact ih (keys_put_nodup nodup row.1 row.2)

variable [BEq κ] [LawfulBEq κ]

-- New keys come behind the known ones, each once.
theorem keys_putAll (rows entries : List (κ × α)) :
    (putAll rows entries).map Prod.fst = entries.map Prod.fst ++
      ((rows.map Prod.fst).filter (· ∉ entries.map Prod.fst)).eraseDups := by
  induction rows generalizing entries with
  | nil => simp [putAll]
  | cons row rest ih =>
    rw [putAll, List.foldl_cons, ← putAll, ih, List.map_cons, List.filter_cons]
    by_cases known : row.1 ∈ entries.map Prod.fst
    · rw [keys_put_known known, if_neg (by simpa using known)]
    · have others : ((rest.map Prod.fst).filter (· ∉ entries.map Prod.fst ++ [row.1])) =
          ((rest.map Prod.fst).filter (· ∉ entries.map Prod.fst)).filter (!· == row.1) := by
        rw [List.filter_filter]
        congr 1
        funext key
        by_cases same : key = row.1 <;> simp [-List.mem_map, same]
      rw [keys_put_new known, if_pos (by simpa using known), List.eraseDups_cons, others,
        List.append_assoc, List.singleton_append]

end Keys

end DeclSchema.Association
