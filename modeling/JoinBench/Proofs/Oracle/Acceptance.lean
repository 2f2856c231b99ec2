import JoinBench.Proofs.Oracle.Experiment
import JoinBench.Proofs.UnitFlags
import JoinBench.Statistics
import JoinBench.Topology

/-!
# Which results are accepted

The expected rows and the records of the receiver are compared as texts, with commas between the
values of a row and between the fields of a record.  Such a text tells the values, but not which of
them stood in one quoted field.  So exactly those records are accepted that are the rows of the
join once their fields are taken apart at the commas, and records without commas in their fields
are accepted only if they are the rows field by field.
-/

namespace JoinBench

/-! ### Records have fields -/

namespace Csv

variable {α : Type} {p : Progress α}

/-- Every record that was read has a field. -/
def Progress.IsFilled (p : Progress α) : Prop :=
  ∀ r ∈ p.records, r.fields ≠ []

theorem Progress.IsFilled.endRecord (h : p.IsFilled) :
  p.endRecord.IsFilled
  := by
  refine List.forall_mem_cons.mpr ⟨?_, h⟩
  simp

variable [DecidableEq α] [Symbol α]

theorem Progress.IsFilled.stepOpening (h : p.IsFilled) (c : α) :
  (p.stepOpening c).IsFilled
  := by
  rw [Progress.stepOpening]
  split_ifs
  · exact h
  · exact h
  · exact h.endRecord
  · exact h

theorem Progress.IsFilled.step (h : p.IsFilled) (c : α) :
  (p.step c).IsFilled
  := by
  have hadvance : (p.advance c).IsFilled := h
  rw [Progress.step]
  split
  · split_ifs
    · exact hadvance
    · exact hadvance.stepOpening c
  · exact hadvance.stepOpening c
  · split_ifs
    · exact hadvance
    · exact hadvance.endRecord
    · exact hadvance
  · split_ifs
    · exact hadvance
    · exact hadvance
  · split_ifs
    · exact hadvance
    · exact hadvance
    · exact hadvance.endRecord
    · exact hadvance

theorem fields_ne_nil_of_mem_rawRecords {skipped : Nat} {symbols : List α} {r : Raw α}
    (hr : r ∈ rawRecords skipped symbols) :
  r.fields ≠ []
  := by
  have hfilled : ∀ (symbols : List α) {p : Progress α}, p.IsFilled →
      (symbols.foldl Progress.step p).IsFilled := by
    intro symbols
    induction symbols with
    | nil => exact id
    | cons c symbols ih => exact fun hp => ih (hp.step c)
  have hend := hfilled symbols (p := .initial skipped) (List.forall_mem_nil _)
  rw [rawRecords, Progress.finish] at hr
  split at hr
  · exact hend r (List.mem_reverse.mp hr)
  · exact hend.endRecord r (List.mem_reverse.mp hr)

theorem fields_ne_nil_of_mem_textRecords {text : String} {r : TextRecord}
    (hr : r ∈ textRecords text) :
  r.fields ≠ []
  := by
  obtain ⟨raw, hraw, rfl⟩ := List.mem_map.mp hr
  rw [Ne, List.map_eq_nil_iff]
  split at hraw
  · exact fields_ne_nil_of_mem_rawRecords hraw
  · exact fields_ne_nil_of_mem_rawRecords hraw

end Csv

/-! ### Values in fields -/

variable {fields fields' values : List String} {output : String}

/-- The values in the fields of a record, with a comma between two values of one field. -/
def cells (fields : List String) : List String :=
  fields.flatMap fun field => (field.toList.splitOn ',').map String.ofList

/-- Without a comma inside a field. -/
def IsFlat (fields : List String) : Prop :=
  ∀ field ∈ fields, ',' ∉ field.toList

theorem cells_cons (field : String) (fields : List String) :
  cells (field :: fields) = (field.toList.splitOn ',').map String.ofList ++ cells fields
  := List.flatMap_cons

theorem IsFlat.cells_eq (h : IsFlat fields) :
  cells fields = fields
  := by
  induction fields with
  | nil => rfl
  | cons field fields ih =>
      obtain ⟨hfield, hfields⟩ := List.forall_mem_cons.mp h
      rw [cells_cons, List.splitOn_eq_singleton hfield, ih hfields, List.map_singleton,
        String.ofList_toList, List.singleton_append]

theorem one_lt_length_splitOn {cs : List Char} (h : ',' ∈ cs) :
  1 < (cs.splitOn ',').length
  := by
  obtain ⟨front, behind, rfl⟩ := List.append_of_mem h
  have hfront := List.length_pos_iff.mpr (List.splitOn_ne_nil ',' front)
  have hbehind := List.length_pos_iff.mpr (List.splitOn_ne_nil ',' behind)
  rw [List.splitOn_append_cons_self, List.length_append]
  omega

/-- A record has no more fields than values. -/
theorem length_le_length_cells (fields : List String) :
  fields.length ≤ (cells fields).length
  := by
  induction fields with
  | nil => exact Nat.le_refl 0
  | cons field fields ih =>
      have hfield := List.length_pos_iff.mpr (List.splitOn_ne_nil ',' field.toList)
      rw [cells_cons, List.length_append, List.length_map, List.length_cons]
      omega

/-- A record has as many fields as values just where no field has a comma. -/
theorem length_eq_length_cells_iff :
  fields.length = (cells fields).length ↔ IsFlat fields
  := by
  constructor
  · intro h field hfield hcomma
    induction fields with
    | nil => cases hfield
    | cons first fields ih =>
        have hfirst := List.length_pos_iff.mpr (List.splitOn_ne_nil ',' first.toList)
        have hle := length_le_length_cells fields
        rw [cells_cons, List.length_append, List.length_map, List.length_cons] at h
        obtain rfl | hfield := List.mem_cons.mp hfield
        · have hmore := one_lt_length_splitOn hcomma
          omega
        · exact ih (by omega) hfield
  · intro h
    rw [h.cells_eq]

theorem map_ofList_splitOn_row (hne : fields ≠ []) :
  ((Table.row fields).toList.splitOn ',').map String.ofList = cells fields
  := by
  induction fields with
  | nil => cases hne rfl
  | cons field fields ih =>
      cases fields with
      | nil =>
          rw [Table.row, String.intercalate_singleton, cells_cons]
          exact (List.append_nil _).symm
      | cons next fields =>
          have hrow : (Table.row (field :: next :: fields)).toList
              = field.toList ++ ',' :: (Table.row (next :: fields)).toList := by
            rw [Table.row, String.intercalate_cons_of_ne_nil (List.cons_ne_nil _ _), Table.row,
              String.append_assoc, String.toList_append, String.toList_append]
            rfl
          rw [hrow, List.splitOn_append_cons_self, List.map_append, ih (List.cons_ne_nil _ _),
            ← cells_cons]

/-- Rows are the same text just where they have the same values. -/
theorem row_eq_row_iff (hne : fields ≠ []) (hne' : fields' ≠ []) :
  Table.row fields = Table.row fields' ↔ cells fields = cells fields'
  := by
  rw [← map_ofList_splitOn_row hne, ← map_ofList_splitOn_row hne']
  constructor
  · intro h
    rw [h]
  · intro h
    have hsplit := List.map_injective_iff.mpr (fun _ _ => String.ofList_injective) h
    have htext := congrArg [','].intercalate hsplit
    rw [List.intercalate_splitOn, List.intercalate_splitOn] at htext
    exact String.toList_inj.mp htext

/-! ### Sets of rows -/

theorem verify_eq_ok {expected observed : RowSet} :
  verify expected observed = .ok () ↔ expected = observed
  := by
  rw [verify]
  split_ifs with heq
  · exact ⟨fun _ => heq, fun _ => rfl⟩
  · constructor
    · intro h
      cases h
    · intro h
      exact absurd h heq

/-- The fields of the records below the header. -/
def receivedRecords (output : String) : List (List String) :=
  ((Csv.textRecords output).drop 1).map (·.fields)

theorem mem_foldl_insert {β : Type} {text : β → String} {xs : List β} {found : RowSet}
    {row : String} :
  row ∈ xs.foldl (fun found x => found.insert (text x)) found
    ↔ row ∈ found ∨ ∃ x ∈ xs, text x = row
  := by
  induction xs generalizing found with
  | nil => simp
  | cons x xs ih => simp [ih, or_assoc, or_left_comm]

theorem mem_rows {joined : Joined} {row : String} :
  row ∈ Table.rows joined ↔ ∃ values ∈ joined.map Prod.snd, Table.row values = row
  := by
  simp only [Table.rows, mem_foldl_insert, Std.ExtTreeSet.not_mem_empty, false_or, List.mem_map,
    exists_exists_and_eq_and]

theorem mem_receivedRows {row : String} :
  row ∈ receivedRows output ↔ ∃ fields ∈ receivedRecords output, Table.row fields = row
  := by
  simp only [receivedRows, receivedRecords, mem_foldl_insert, Std.ExtTreeSet.not_mem_empty,
    false_or, List.mem_map, exists_exists_and_eq_and, Table.row]

theorem ne_nil_of_mem_receivedRecords (h : fields ∈ receivedRecords output) :
  fields ≠ []
  := by
  obtain ⟨r, hr, rfl⟩ := List.mem_map.mp h
  exact Csv.fields_ne_nil_of_mem_textRecords (List.mem_of_mem_drop hr)

/-- How records compare with the rows of `n` values that they are accepted for. -/
structure Match (n : Nat) (records rows : List (List String)) : Prop where
  mem_iff : ∀ values, values ∈ records.map cells ↔ values ∈ rows
  length_le : ∀ fields ∈ records, fields.length ≤ n
  length_eq_iff : ∀ fields ∈ records, fields.length = n ↔ IsFlat fields
  mem_of_isFlat : ∀ fields ∈ records, IsFlat fields → fields ∈ rows
  mem_iff_of_isFlat : (∀ fields ∈ records, IsFlat fields) → ∀ fields,
    fields ∈ records ↔ fields ∈ rows

theorem match_of_mem_iff {n : Nat} {records rows : List (List String)}
    (hrows : ∀ values ∈ rows, values.length = n)
    (hmem : ∀ values, values ∈ records.map cells ↔ values ∈ rows) :
  Match n records rows
  := by
  have hlength : ∀ fields ∈ records, (cells fields).length = n :=
    fun fields hfields => hrows _ ((hmem _).mp (List.mem_map_of_mem hfields))
  have hflat : ∀ fields ∈ records, IsFlat fields → fields ∈ rows := by
    intro fields hfields hflat
    rw [← hflat.cells_eq]
    exact (hmem _).mp (List.mem_map_of_mem hfields)
  refine ⟨hmem, ?_, ?_, hflat, ?_⟩
  · intro fields hfields
    rw [← hlength fields hfields]
    exact length_le_length_cells fields
  · intro fields hfields
    rw [← hlength fields hfields]
    exact length_eq_length_cells_iff
  · intro hall fields
    constructor
    · exact fun hfields => hflat fields hfields (hall fields hfields)
    · intro hfields
      obtain ⟨found, hfound, rfl⟩ := List.mem_map.mp ((hmem fields).mpr hfields)
      rw [(hall found hfound).cells_eq]
      exact hfound

/-- Where no value has a comma, just those records are accepted whose values are the rows. -/
theorem verify_rows_eq_ok_iff {joined : Joined}
    (hne : ∀ values ∈ joined.map Prod.snd, values ≠ [])
    (hflat : ∀ values ∈ joined.map Prod.snd, IsFlat values) :
  verify (Table.rows joined) (receivedRows output) = .ok ()
    ↔ ∀ values, values ∈ (receivedRecords output).map cells ↔ values ∈ joined.map Prod.snd
  := by
  have hrow : ∀ values ∈ joined.map Prod.snd, ∀ fields ∈ receivedRecords output,
      Table.row fields = Table.row values ↔ cells fields = values := by
    intro values hvalues fields hfields
    rw [row_eq_row_iff (ne_nil_of_mem_receivedRecords hfields) (hne values hvalues),
      (hflat values hvalues).cells_eq]
  rw [verify_eq_ok, Std.ExtTreeSet.ext_mem_iff]
  simp only [mem_rows, mem_receivedRows, List.mem_map (f := cells)]
  constructor
  · intro h values
    constructor
    · rintro ⟨fields, hfields, rfl⟩
      obtain ⟨values, hvalues, heq⟩ := (h _).mpr ⟨fields, hfields, rfl⟩
      rw [(hrow values hvalues fields hfields).mp heq.symm]
      exact hvalues
    · intro hvalues
      obtain ⟨fields, hfields, heq⟩ := (h _).mp ⟨values, hvalues, rfl⟩
      exact ⟨fields, hfields, (hrow values hvalues fields hfields).mp heq⟩
  · intro h row
    constructor
    · rintro ⟨values, hvalues, rfl⟩
      obtain ⟨fields, hfields, heq⟩ := (h values).mpr hvalues
      exact ⟨fields, hfields, (hrow values hvalues fields hfields).mpr heq⟩
    · rintro ⟨fields, hfields, rfl⟩
      have hvalues := (h _).mp ⟨fields, hfields, rfl⟩
      exact ⟨_, hvalues, ((hrow _ hvalues fields hfields).mpr rfl).symm⟩

namespace Experiment

open JoinBench.Random

variable {rows joinSize : Nat} {draw : Nat → Nat → Nat} {tables : List Table}
  {sources : List RoleId}

theorem comma_notMem_valueOf {source : RoleId} (h : ',' ∉ source.text.toList) (number : Nat) :
  ',' ∉ (valueOf source number).toList
  := by
  have hnumber : ',' ∉ Nat.toDigits 10 number := by
    intro hmem
    have hdigit := Nat.isDigit_of_mem_toDigits (by decide) (by decide) hmem
    revert hdigit
    decide
  simp [valueOf, h, hnumber]

theorem IsShrunk.length_of_mem (h : IsShrunk sources rows joinSize draw tables)
    {values : List String} (hvalues : values ∈ (Table.join tables).map Prod.snd) :
  values.length = sources.length
  := by
  obtain ⟨entry, hentry, rfl⟩ := List.mem_map.mp hvalues
  obtain ⟨i, -, rfl⟩ := h.of_mem_join entry hentry
  exact List.length_mapIdx

theorem IsShrunk.isFlat_of_mem (h : IsShrunk sources rows joinSize draw tables)
    (hsources : ∀ source ∈ sources, ',' ∉ source.text.toList)
    {values : List String} (hvalues : values ∈ (Table.join tables).map Prod.snd) :
  IsFlat values
  := by
  obtain ⟨entry, hentry, rfl⟩ := List.mem_map.mp hvalues
  obtain ⟨i, -, rfl⟩ := h.of_mem_join entry hentry
  intro value hvalue
  obtain ⟨k, hk, rfl⟩ := List.mem_mapIdx.mp hvalue
  exact comma_notMem_valueOf (hsources _ (List.getElem_mem hk)) _

theorem comma_notMem_of_mem_sourceIds {t : Topology} {id : RoleId} (h : id ∈ t.sourceIds) :
  ',' ∉ id.text.toList
  := by
  obtain ⟨role, -, rfl⟩ := List.mem_map.mp h
  intro hcomma
  exact absurd (Role.toNat_of_mem_id hcomma).1 (by decide)

/-- The receiver of an experiment is accepted just where its records, with the fields taken apart
at the commas, are the rows of the join.  Then a record has as many fields as there are sources
just where no field has a comma, and is a row of the join field by field. -/
theorem verify_expectedResult_spec (t : Topology) (hsources : 2 ≤ t.sourceIds.length)
    (hsize : joinSize < rows) (seed : Nat) (output : String) :
  ∃ tables expected, Experiment.tables t.sourceIds rows joinSize seed = .ok tables
    ∧ expectedResult t.sourceIds rows joinSize seed = .ok expected
    ∧ (verify expected (receivedRows output) = .ok ()
      ↔ Match t.sourceIds.length (receivedRecords output) ((Table.join tables).map Prod.snd))
  := by
  obtain ⟨draw, -, -, tables, htables, hshrunk⟩ :=
    exists_tablesFrom_eq_ok lawful_stream hsize hsources (.ofSeed seed)
  have hlength : ∀ values ∈ (Table.join tables).map Prod.snd,
      values.length = t.sourceIds.length :=
    fun _ => hshrunk.length_of_mem
  have hflat : ∀ values ∈ (Table.join tables).map Prod.snd, IsFlat values :=
    fun _ => hshrunk.isFlat_of_mem fun _ => comma_notMem_of_mem_sourceIds
  have hne : ∀ values ∈ (Table.join tables).map Prod.snd, values ≠ [] := by
    intro values hvalues
    apply List.ne_nil_of_length_pos
    rw [hlength values hvalues]
    omega
  refine ⟨tables, _, htables, expectedResult_eq_ok.mpr ⟨tables, htables, rfl⟩, ?_⟩
  rw [verify_rows_eq_ok_iff hne hflat]
  exact ⟨match_of_mem_iff hlength, Match.mem_iff⟩

/-- Two sources. -/
def pair : Topology :=
  ⟨[⟨"localhost"⟩, ⟨"localhost"⟩], ⟨"localhost"⟩, ⟨"localhost"⟩⟩

/-- Tables of two sources that share one of two keys. -/
def pairTables : List Table :=
  [Table.ofEntries [("key_0", "val_source_0_802"), ("key_1", "val_source_0_556")],
    Table.ofEntries [("key_0", "val_source_1_732"), ("removed_key_1", "val_source_1_774")]]

theorem tables_pair :
  Experiment.tables pair.sourceIds 2 1 0 = .ok pairTables
  := by
  decide +kernel

theorem expectedResult_pair :
  expectedResult pair.sourceIds 2 1 0 = .ok (Table.rows (Table.join pairTables))
  := expectedResult_eq_ok.mpr ⟨pairTables, tables_pair, rfl⟩

theorem map_snd_join_pairTables :
  (Table.join pairTables).map Prod.snd = [["val_source_0_802", "val_source_1_732"]]
  := by
  decide +kernel

/-- The row in quotes and without. -/
def printedTwice : String :=
  "h\nval_source_0_802,val_source_1_732\r\n\"val_source_0_802\",val_source_1_732"

theorem verify_expectedResult_spec_pair :
  2 ≤ pair.sourceIds.length ∧ 1 < 2
    ∧ expectedResult pair.sourceIds 2 1 0 = .ok (Table.rows (Table.join pairTables))
    ∧ verify (Table.rows (Table.join pairTables)) (receivedRows printedTwice) = .ok ()
    ∧ Match 2 (receivedRecords printedTwice) [["val_source_0_802", "val_source_1_732"]]
  := by
  have htwo : 2 ≤ pair.sourceIds.length := by
    decide
  have hok : verify (Table.rows (Table.join pairTables)) (receivedRows printedTwice) = .ok () := by
    rw [verify_eq_ok]
    decide +kernel
  obtain ⟨tables, expected, htables, hexpected, hverify⟩ :=
    verify_expectedResult_spec pair htwo (show 1 < 2 by decide) 0 printedTwice
  obtain rfl := Except.ok.inj (htables.symm.trans tables_pair)
  obtain rfl := Except.ok.inj (hexpected.symm.trans expectedResult_pair)
  rw [map_snd_join_pairTables] at hverify
  exact ⟨htwo, by decide, expectedResult_pair, hok, hverify.mp hok⟩

/-- A row that was printed as one quoted field is accepted, although it has one field and not two,
and is not the row of the join. -/
theorem exists_verify_quoted :
  ∃ output, verify (Table.rows (Table.join pairTables)) (receivedRows output) = .ok ()
    ∧ expectedResult pair.sourceIds 2 1 0 = .ok (Table.rows (Table.join pairTables))
    ∧ receivedRecords output = [["val_source_0_802,val_source_1_732"]]
    ∧ pair.sourceIds.length = 2
    ∧ (Table.join pairTables).map Prod.snd = [["val_source_0_802", "val_source_1_732"]]
  := by
  use "h\n\"val_source_0_802,val_source_1_732\"\n"
  refine ⟨?_, expectedResult_pair, ?_, rfl, map_snd_join_pairTables⟩
  · rw [verify_eq_ok]
    decide +kernel
  · decide +kernel

end Experiment

end JoinBench
