import JoinBench.Proofs.Oracle.Files
import Mathlib.Tactic.Common

/-!
# The columns of a join

Reading a CSV table column by column makes a table of every column.  The columns of a join that was
written are the joined tables again, each restricted to the keys that all of them share.  Names,
keys and values may be any texts, also empty ones and ones with commas, quotes and line ends.
-/

namespace JoinBench.Table

variable {tables : List Table} {i : Nat}

/-- The entries of a table whose keys are in all of the tables. -/
def shared (tables : List Table) (t : Table) : Table :=
  t.filter fun key _ => tables.all (·.contains key)

theorem getElem?_shared (tables : List Table) (t : Table) (key : String) :
  (shared tables t)[key]? = if ∀ other ∈ tables, key ∈ other then t[key]? else none
  := by
  rw [shared, Std.ExtTreeMap.getElem?_filter']
  split_ifs with hall
  · have hkept : tables.all (·.contains key) = true := by
      simpa using hall
    cases t[key]? <;> simp [Option.filter, hkept]
  · have hgone : tables.all (·.contains key) = false := by
      rw [Bool.eq_false_iff]
      simpa using hall
    cases t[key]? <;> simp [Option.filter, hgone]

/-! ### Entering records -/

/-- Entering the records of several keys, each with its values, enters in every table the values of
its own column. -/
theorem getElem?_foldl_enterRecord (values : String → List String) (keys : List String)
    (tables : List Table) (i : Nat) :
  ((keys.map fun key => key :: values key).foldl enterRecord tables)[i]?
    = tables[i]?.map fun t => keys.foldl (fun t key => t.insert key ((values key)[i]?.getD "")) t
  := by
  induction keys generalizing tables with
  | nil => simp
  | cons key rest ih =>
      rw [List.map_cons, List.foldl_cons, ih, enterRecord, List.getElem?_mapIdx, Option.map_map]
      rfl

/-- Of the entries of several keys each is there, and so are those that were there before under other
keys. -/
theorem getElem?_foldl_insert (value : String → String) (keys : List String) (t : Table)
    (key : String) :
  (keys.foldl (fun t key => t.insert key (value key)) t)[key]?
    = if key ∈ keys then some (value key) else t[key]?
  := by
  induction keys generalizing t with
  | nil => simp
  | cons first rest ih =>
      rw [List.foldl_cons, ih, Std.ExtTreeMap.getElem?_insert]
      by_cases hrest : key ∈ rest
      · simp [hrest]
      · by_cases hfirst : first = key
        · simp [hfirst]
        · simp [hrest, hfirst, Ne.symm hfirst]

/-! ### Joins -/

/-- The keys that all tables share, in ascending order. -/
def sharedKeys : List Table → List String
  | [] => []
  | first :: rest => first.keys.filter fun key => rest.all (·.contains key)

/-- The values of a key in the tables that have it. -/
def valuesOf (tables : List Table) (key : String) : List String :=
  tables.filterMap (·[key]?)

theorem join_eq (tables : List Table) :
  join tables = (sharedKeys tables).map fun key => (key, valuesOf tables key)
  := by
  cases tables <;> rfl

theorem mem_sharedKeys {key : String} {t : Table} (ht : t ∈ tables) :
  key ∈ sharedKeys tables ↔ ∀ other ∈ tables, key ∈ other
  := by
  cases tables with
  | nil => cases ht
  | cons first rest =>
      rw [sharedKeys, List.mem_filter, Std.ExtTreeMap.mem_keys, List.forall_mem_cons]
      simp

/-- A key that all tables share has a value of each of them, in their order. -/
theorem getElem?_valuesOf {key : String} (h : ∀ t ∈ tables, key ∈ t) (i : Nat) :
  (valuesOf tables key)[i]? = tables[i]?.bind (·[key]?)
  := by
  induction tables generalizing i with
  | nil => rfl
  | cons first rest ih =>
      obtain ⟨hfirst, hrest⟩ := List.forall_mem_cons.mp h
      obtain ⟨value, hvalue⟩ := Option.isSome_iff_exists.mp
        (Std.ExtTreeMap.mem_iff_isSome_getElem?.mp hfirst)
      rw [valuesOf, List.filterMap_cons, hvalue]
      cases i with
      | zero => exact hvalue.symm
      | succ i => apply ih hrest

/-- The columns of a join are the tables restricted to the keys that all of them share. -/
theorem foldl_enterRecord_join (tables : List Table) :
  ((join tables).map fun entry => entry.1 :: entry.2).foldl enterRecord
      (List.replicate tables.length ∅)
    = tables.map (shared tables)
  := by
  apply List.ext_getElem?
  intro i
  rw [join_eq, List.map_map]
  apply (getElem?_foldl_enterRecord (valuesOf tables) (sharedKeys tables) _ i).trans
  rw [List.getElem?_map]
  by_cases hi : i < tables.length
  · have hmem : tables[i] ∈ tables := List.getElem_mem hi
    rw [List.getElem?_replicate_of_lt hi, List.getElem?_eq_getElem hi, Option.map_some,
      Option.map_some, Option.some_inj]
    apply Std.ExtTreeMap.ext_getElem?
    intro key
    rw [getElem?_foldl_insert, getElem?_shared]
    by_cases hall : ∀ other ∈ tables, key ∈ other
    · obtain ⟨value, hvalue⟩ := Option.isSome_iff_exists.mp
        (Std.ExtTreeMap.mem_iff_isSome_getElem?.mp (hall _ hmem))
      rw [if_pos ((mem_sharedKeys hmem).mpr hall), if_pos hall, getElem?_valuesOf hall,
        List.getElem?_eq_getElem hi, Option.bind_some, hvalue, Option.getD_some]
    · rw [if_neg (mt (mem_sharedKeys hmem).mp hall), if_neg hall]
      apply Std.ExtTreeMap.getElem?_empty
  · rw [List.getElem?_eq_none (Nat.le_of_not_lt hi), List.getElem?_eq_none (by simpa using hi)]
    rfl

/-- What was written is read back: a table as it was, and a join as its tables, each restricted to
the keys that all of them share. -/
theorem ofCsv_written (t : Table) {tables : List Table} {sources : List RoleId}
    (h : tables.length = sources.length) :
  (∃ text, t.toCsv = .ok text ∧ ofCsv (.ofContent text.toUTF8) 1 = .ok [t])
    ∧ ∃ text, joinToCsv sources (join tables) = .ok text
      ∧ ofCsv (.ofContent text.toUTF8) tables.length = .ok (tables.map (shared tables))
  := by
  constructor
  · apply exists_toCsv
  · obtain ⟨text, hwrite, hread⟩ := exists_joinToCsv h
    use text, hwrite
    have hcolumns : ¬ (keyColumn :: sources.map valueColumnOf).length - 1 < tables.length := by
      simp [h]
    have hentered := enterRecords_map_ok (List.replicate tables.length ∅)
      ((join tables).map fun entry => entry.1 :: entry.2)
    rw [foldl_enterRecord_join, List.map_map] at hentered
    simp only [ofCsv, hread, if_neg hcolumns]
    exact hentered

/-- A table with a key and a value that are both in need of quotes. -/
def awkward : Table :=
  (∅ : Table).insert "a,\"b\"" "\r\n"

/-- Texts in need of quotes, an empty key and an empty name are no hindrance. -/
theorem ofCsv_written_awkward :
  [awkward, awkward.insert "" ""].length = ([⟨""⟩, ⟨"x\ny"⟩] : List RoleId).length
    ∧ (∃ text, awkward.toCsv = .ok text ∧ ofCsv (.ofContent text.toUTF8) 1 = .ok [awkward])
    ∧ ∃ text, joinToCsv [⟨""⟩, ⟨"x\ny"⟩] (join [awkward, awkward.insert "" ""]) = .ok text
      ∧ ofCsv (.ofContent text.toUTF8) 2
        = .ok ([awkward, awkward.insert "" ""].map (shared [awkward, awkward.insert "" ""]))
  := ⟨rfl, ofCsv_written awkward rfl⟩

end JoinBench.Table
