namespace SqlTemplate.Entries

variable {α : Type}

def Sorted (entries : List (String × α)) : Prop := entries.Pairwise (·.1 < ·.1)

def insert (name : String) (value : α) : List (String × α) → List (String × α)
  | [] => [(name, value)]
  | (n, v) :: rest =>
    if name < n then (name, value) :: (n, v) :: rest
    else if name = n then (name, value) :: rest
    else (n, v) :: insert name value rest

def ofList (pairs : List (String × α)) : List (String × α) :=
  pairs.foldl (fun entries (name, value) => insert name value entries) []

@[simp] theorem lookup_insert_self (name : String) (value : α) (entries : List (String × α)) :
    (insert name value entries).lookup name = some value := by
  induction entries with
  | nil => simp [insert]
  | cons entry rest ih =>
    obtain ⟨n, v⟩ := entry
    simp only [insert]
    split
    · simp
    · split
      · simp
      · next different => rw [List.lookup_cons, beq_false_of_ne different, ih]

theorem lookup_insert_of_ne {name other : String} (h : other ≠ name) (value : α)
    (entries : List (String × α)) :
    (insert name value entries).lookup other = entries.lookup other := by
  induction entries with
  | nil => simp [insert, List.lookup_cons, beq_false_of_ne h]
  | cons entry rest ih =>
    obtain ⟨n, v⟩ := entry
    simp only [insert]
    split
    · simp [List.lookup_cons, beq_false_of_ne h]
    · split
      · next same =>
        subst same
        simp [List.lookup_cons, beq_false_of_ne h]
      · simp [List.lookup_cons, ih]

theorem mem_insert {name : String} {value : α} {entries : List (String × α)} {e : String × α}
    (h : e ∈ insert name value entries) : e = (name, value) ∨ e ∈ entries := by
  induction entries with
  | nil => simpa [insert] using h
  | cons entry rest ih =>
    obtain ⟨n, v⟩ := entry
    simp only [insert] at h
    split at h
    · simpa using h
    · split at h
      · rcases List.mem_cons.1 h with rfl | h
        · exact .inl rfl
        · exact .inr (List.mem_cons_of_mem _ h)
      · rcases List.mem_cons.1 h with rfl | h
        · exact .inr (List.mem_cons_self ..)
        · rcases ih h with rfl | h
          · exact .inl rfl
          · exact .inr (List.mem_cons_of_mem _ h)

theorem sorted_insert {name : String} {value : α} {entries : List (String × α)}
    (h : Sorted entries) : Sorted (insert name value entries) := by
  induction entries with
  | nil => simp [insert, Sorted]
  | cons entry rest ih =>
    obtain ⟨n, v⟩ := entry
    obtain ⟨least, sorted⟩ := List.pairwise_cons.1 h
    simp only [insert]
    split
    · next before =>
      refine List.pairwise_cons.2 ⟨?_, h⟩
      intro e found
      rcases List.mem_cons.1 found with rfl | found
      · exact before
      · exact String.lt_trans before (least e found)
    · next notBefore =>
      split
      · next same =>
        subst same
        exact List.pairwise_cons.2 ⟨least, sorted⟩
      · next different =>
        refine List.pairwise_cons.2 ⟨?_, ih sorted⟩
        intro e found
        rcases mem_insert found with rfl | found
        · exact Std.lt_of_le_of_ne (String.not_lt.1 notBefore) (Ne.symm different)
        · exact least e found

theorem lookup_of_mem {name : String} {value : α} {entries : List (String × α)}
    (h : Sorted entries) (found : (name, value) ∈ entries) :
    entries.lookup name = some value := by
  induction entries with
  | nil => cases found
  | cons entry rest ih =>
    obtain ⟨least, sorted⟩ := List.pairwise_cons.1 h
    rcases List.mem_cons.1 found with rfl | found
    · exact List.lookup_cons_self
    · have different : name ≠ entry.1 := by
        rintro rfl
        exact String.lt_irrefl entry.1 (least (entry.1, value) found)
      rw [List.lookup_cons, beq_false_of_ne different]
      exact ih sorted found

theorem sorted_foldl (pairs : List (String × α)) {entries : List (String × α)}
    (h : Sorted entries) :
    Sorted (pairs.foldl (fun entries (name, value) => insert name value entries) entries) := by
  induction pairs generalizing entries with
  | nil => exact h
  | cons pair pairs ih => exact ih (sorted_insert h)

theorem sorted_ofList (pairs : List (String × α)) : Sorted (ofList pairs) :=
  sorted_foldl pairs List.Pairwise.nil

end SqlTemplate.Entries
