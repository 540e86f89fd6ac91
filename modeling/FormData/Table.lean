/-!
# Tables of Named Things

Things that are referred to by a name the caller chose.

A table holds at most one thing under a name. Putting something under a name
that is taken replaces what was there, and the caller learns what that was by
looking first. Everything about a table follows from what is found under each
name after each operation, which is what the lemmas say.

Sums over everything in a table need one thing more, that nothing is listed
twice. No operation lists a name again without taking it away first, so that
holds of every table that was begun empty (`Distinct`).

## Main definitions

* `Table`: Things by name.
* `Table.find?`, `set`, `erase`: Looking up, putting and taking away.
* `Table.values`: Everything in a table.
* `Table.Distinct`: No name is listed twice.

## Theorems

* `Table.find?_set_self`, `Table.find?_set_of_ne`: What is found after putting
  something under a name.
* `Table.find?_erase_self`, `Table.find?_erase_of_ne`: What is found after
  taking something away.
* `Table.values_perm`: Something that is found is one of the values, and the
  others are those that are left without it.
-/

namespace FormData

/-- Things by name. -/
structure Table (α : Type) where
  entries : List (String × α)

namespace Table

variable {α : Type}

/-- The table with nothing in it. -/
def empty : Table α := ⟨[]⟩

/-- What is found under a name. -/
def find? (table : Table α) (name : String) : Option α :=
  table.entries.lookup name

/-- Take away what is under a name. -/
def erase (table : Table α) (name : String) : Table α :=
  ⟨table.entries.filter (fun e => e.1 != name)⟩

/-- Put something under a name, in place of what was there. -/
def set (table : Table α) (name : String) (value : α) : Table α :=
  ⟨(name, value) :: (table.erase name).entries⟩

/-- Nothing is found under a name that was taken away. -/
@[simp] theorem find?_erase_self (table : Table α) (name : String) :
    (table.erase name).find? name = none := by
  rcases table with ⟨entries⟩
  simp only [find?, erase]
  induction entries with
  | nil => rfl
  | cons e rest ih =>
      rcases e with ⟨key, value⟩
      by_cases h : key = name
      · simp only [List.filter_cons, h, bne_self_eq_false, Bool.false_eq_true, if_false, ih]
      · simp only [List.filter_cons, bne_iff_ne.mpr h, if_true, List.lookup_cons,
          beq_false_of_ne (fun hc => h hc.symm), ih]

/-- Taking something away disturbs no other name. -/
theorem find?_erase_of_ne (table : Table α) (name other : String) (h : other ≠ name) :
    (table.erase name).find? other = table.find? other := by
  rcases table with ⟨entries⟩
  simp only [find?, erase]
  induction entries with
  | nil => rfl
  | cons e rest ih =>
      rcases e with ⟨key, value⟩
      by_cases hk : key = name
      · simp only [List.filter_cons, hk, bne_self_eq_false, Bool.false_eq_true, if_false, ih,
          List.lookup_cons, beq_false_of_ne h]
      · simp only [List.filter_cons, bne_iff_ne.mpr hk, if_true, List.lookup_cons, ih]

/-- What was put under a name is found there. -/
@[simp] theorem find?_set_self (table : Table α) (name : String) (value : α) :
    (table.set name value).find? name = some value := by
  rw [find?, set, List.lookup_cons, beq_self_eq_true]

/-- Putting something under a name disturbs no other name. -/
theorem find?_set_of_ne (table : Table α) (name other : String) (value : α)
    (h : other ≠ name) : (table.set name value).find? other = table.find? other := by
  have herase := find?_erase_of_ne table name other h
  rw [find?] at herase
  rw [find?, set, List.lookup_cons, beq_false_of_ne h]
  exact herase

theorem find?_of_find?_erase (table : Table α) (name other : String) (value : α)
    (h : (table.erase name).find? other = some value) : table.find? other = some value := by
  by_cases hother : other = name
  · rw [hother, find?_erase_self] at h
    cases h
  · rwa [find?_erase_of_ne _ _ _ hother] at h

/-- Everything in a table. -/
def values (table : Table α) : List α :=
  table.entries.map Prod.snd

/-- No name is listed twice. -/
def Distinct (table : Table α) : Prop :=
  (table.entries.map Prod.fst).Nodup

theorem distinct_empty : (empty : Table α).Distinct := List.nodup_nil

theorem distinct_erase (table : Table α) (name : String) (h : table.Distinct) :
    (table.erase name).Distinct :=
  h.sublist (List.filter_sublist.map Prod.fst)

theorem distinct_set (table : Table α) (name : String) (value : α) (h : table.Distinct) :
    (table.set name value).Distinct := by
  refine List.nodup_cons.mpr ⟨fun hmem => ?_, distinct_erase table name h⟩
  rcases List.mem_map.mp hmem with ⟨e, he, hname⟩
  have hne := (List.mem_filter.mp he).2
  rw [hname, bne_self_eq_false] at hne
  cases hne

/-- Taking away a name that leads nowhere changes nothing. -/
theorem erase_of_find?_eq_none (table : Table α) (name : String) (h : table.find? name = none) :
    table.erase name = table := by
  rcases table with ⟨entries⟩
  simp only [find?, erase, mk.injEq] at h ⊢
  refine List.filter_eq_self.mpr fun e he => bne_iff_ne.mpr fun hname => ?_
  have hno := List.lookup_eq_none_iff.mp h e he
  rw [hname, bne_self_eq_false] at hno
  cases hno

/-- What is found is one of the values, and the others are those that are left
    when it is taken away. -/
theorem values_perm (table : Table α) (name : String) (value : α) (hdistinct : table.Distinct)
    (h : table.find? name = some value) :
    table.values.Perm (value :: (table.erase name).values) := by
  rcases table with ⟨entries⟩
  simp only [find?, erase, values, Distinct] at h hdistinct ⊢
  induction entries with
  | nil => cases h
  | cons e rest ih =>
      rcases e with ⟨key, found⟩
      rcases List.nodup_cons.mp hdistinct with ⟨hnot, hrest⟩
      by_cases hkey : key = name
      · -- The name is at the head and nowhere behind it, so only the head is taken.
        rw [hkey, List.lookup_cons, beq_self_eq_true] at h
        have hclear : rest.filter (fun e => e.1 != name) = rest := by
          refine List.filter_eq_self.mpr fun e he => bne_iff_ne.mpr fun hname => hnot ?_
          exact List.mem_map.mpr ⟨e, he, hname.trans hkey.symm⟩
        rw [hkey, List.filter_cons, bne_self_eq_false, hclear, ← Option.some.inj h]
        exact List.Perm.refl _
      · rw [List.lookup_cons, beq_false_of_ne (fun hc => hkey hc.symm)] at h
        rw [List.filter_cons, bne_iff_ne.mpr hkey, if_pos rfl]
        exact ((ih hrest h).cons found).trans (List.Perm.swap _ _ _)

theorem mem_values_of_find? (table : Table α) (name : String) (value : α)
    (h : table.find? name = some value) : value ∈ table.values := by
  rcases List.lookup_eq_some_iff.mp h with ⟨before, after, hentries, -⟩
  rw [values, hentries]
  exact List.mem_map_of_mem (List.mem_append_right _ List.mem_cons_self)

theorem mem_values_of_erase (table : Table α) (name : String) (value : α)
    (h : value ∈ (table.erase name).values) : value ∈ table.values :=
  (List.filter_sublist.map Prod.snd).subset h

end Table

end FormData
