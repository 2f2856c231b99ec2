import JoinBench.Oracle.Files
import JoinBench.Proofs.Csv.RoundTrip

/-!
# Tables read back from CSV

A table that is written as CSV is read back as it was, and so are the records of a join.
-/

namespace JoinBench.Table

variable {text : String} {tables : List Table}

/-! ### Writing -/

theorem head?_writeRecord_keyColumn (columns : List String) :
  (Csv.writeRecord (keyColumn :: columns)).head? = some 'u'
  := by
  cases columns <;>
    simp [Csv.writeRecord, Csv.writeFields, Csv.writeField, Csv.needsQuotes, keyColumn]

/-- Records behind a header that starts with the column of keys are written and read back. -/
theorem exists_write (columns : List String) {rows : List (List String)}
    (hlength : ∀ row ∈ rows, row.length = columns.length + 1) :
  ∃ text, Csv.write (keyColumn :: columns) rows = .ok text
    ∧ (Csv.Input.ofContent text.toUTF8).uniform = .ok (keyColumn :: columns) :: rows.map .ok
  := by
  have hwrite : Csv.write (keyColumn :: columns) rows = .ok _ := Csv.write_eq_ok hlength
  refine ⟨_, hwrite, ?_⟩
  apply Csv.uniform_ofContent_write hwrite (head?_writeRecord_keyColumn columns) (by decide)
    (by simp) hlength

/-! ### Tables -/

/-- A table has each of its entries once, so it is the table of its entries. -/
theorem ofEntries_toList (t : Table) :
  ofEntries t.toList = t
  := by
  have hlist : ofEntries t.toList = Std.ExtTreeMap.ofList t.toList :=
    Std.ExtTreeMap.ofList_eq_foldl.symm
  rw [hlist]
  apply Std.ExtTreeMap.ext_getElem?
  intro key
  cases hkey : t[key]? with
  | some value =>
      apply Std.ExtTreeMap.getElem?_ofList_of_mem Std.ReflCmp.compare_self
        Std.ExtTreeMap.distinct_keys_toList
      apply Std.ExtTreeMap.mem_toList_iff_getElem?_eq_some.mpr hkey
  | none =>
      apply Std.ExtTreeMap.getElem?_ofList_of_contains_eq_false
      rw [Std.ExtTreeMap.map_fst_toList_eq_keys, List.contains_eq_mem, decide_eq_false_iff_not,
        Std.ExtTreeMap.mem_keys, Std.ExtTreeMap.mem_iff_isSome_getElem?, hkey]
      decide

/-- Without faults every record is entered. -/
theorem enterRecords_map_ok (tables : List Table) (rows : List (List String)) :
  enterRecords tables (rows.map .ok) = .ok (rows.foldl enterRecord tables)
  := by
  induction rows generalizing tables with
  | nil => rfl
  | cons row rest ih =>
      rw [List.map_cons, enterRecords, ih, List.foldl_cons]

/-- The entries of a table, one a record, make up the table. -/
theorem foldl_enterRecord (t : Table) (entries : List (String × String)) :
  (entries.map fun e => [e.1, e.2]).foldl enterRecord [t]
    = [entries.foldl (fun t e => t.insert e.1 e.2) t]
  := by
  induction entries generalizing t with
  | nil => rfl
  | cons e rest ih => apply ih

/-- A table is read back as it was written. -/
theorem exists_toCsv (t : Table) :
  ∃ text, t.toCsv = .ok text ∧ ofCsv (.ofContent text.toUTF8) 1 = .ok [t]
  := by
  have hlength : ∀ row ∈ t.toList.map (fun e => [e.1, e.2]), row.length = 1 + 1 := by
    intro row hrow
    obtain ⟨e, -, rfl⟩ := List.mem_map.mp hrow
    rfl
  obtain ⟨text, hwrite, hread⟩ := exists_write [valueColumn] hlength
  refine ⟨text, ?_, ?_⟩
  · rw [toCsv, hwrite]
    rfl
  · have hentered := enterRecords_map_ok [∅] (t.toList.map fun e => [e.1, e.2])
    rw [foldl_enterRecord] at hentered
    rw [ofCsv, hread]
    apply hentered.trans
    congr 2
    apply ofEntries_toList

/-! ### Joins -/

/-- A joined entry has a value of every table. -/
theorem length_of_mem_join {entry : String × List String} (h : entry ∈ join tables) :
  entry.2.length = tables.length
  := by
  cases tables with
  | nil => cases h
  | cons first rest =>
      obtain ⟨key, hkey, rfl⟩ := List.mem_map.mp h
      obtain ⟨hfirst, hrest⟩ := List.mem_filter.mp hkey
      rw [List.length_filterMap_eq_countP, List.countP_eq_length]
      intro t ht
      rw [← Std.ExtTreeMap.mem_iff_isSome_getElem?]
      rcases List.mem_cons.mp ht with rfl | ht
      · exact Std.ExtTreeMap.mem_keys.mp hfirst
      · apply Std.ExtTreeMap.contains_iff_mem.mp
        exact List.all_eq_true.mp hrest t ht

/-- The records of a join are read back as they were written. -/
theorem exists_joinToCsv {sources : List RoleId} (h : tables.length = sources.length) :
  ∃ text, joinToCsv sources (join tables) = .ok text
    ∧ (Csv.Input.ofContent text.toUTF8).uniform = .ok (keyColumn :: sources.map valueColumnOf)
        :: (join tables).map fun entry => .ok (entry.1 :: entry.2)
  := by
  have hlength : ∀ row ∈ (join tables).map (fun entry => entry.1 :: entry.2),
      row.length = (sources.map valueColumnOf).length + 1 := by
    intro row hrow
    obtain ⟨entry, hentry, rfl⟩ := List.mem_map.mp hrow
    rw [List.length_cons, length_of_mem_join hentry, List.length_map, h]
  obtain ⟨text, hwrite, hread⟩ := exists_write (sources.map valueColumnOf) hlength
  refine ⟨text, ?_, ?_⟩
  · rw [joinToCsv, hwrite]
    rfl
  · rw [hread, List.map_map]
    rfl

end JoinBench.Table
