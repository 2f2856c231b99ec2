import JoinBench.Proofs.Oracle.Columns
import JoinBench.Proofs.Oracle.Renaming
import Mathlib.Data.List.Dedup

/-!
# The size of a join of columns

The columns of a CSV table share their keys, so the size of their join can be controlled.  The keys
may be any texts, and the new name of a key that is taken out of the join may be the key of another
record.  Where none of the keys taken out has such a name the join gets the wanted size and no value
is lost.
-/

namespace JoinBench.Table

/-! ### The keys of columns -/

/-- The first fields of records, up to faults. -/
def firstFields (records : List (Except Csv.Fault (List String))) : List String :=
  records.filterMap fun record => record.toOption.bind List.head?

/-- The keys of the records of a CSV table, each once. -/
def recordedKeys (input : Csv.Input) : List String :=
  (firstFields (input.uniform.drop 1)).dedup

variable {tables tables' : List Table} {records : List (Except Csv.Fault (List String))}

theorem exists_of_mem_enterRecord {fields : List String} {t : Table}
    (h : t ∈ enterRecord tables fields) :
  ∃ old ∈ tables, ∀ key, key ∈ t ↔ key ∈ old ∨ fields.head? = some key
  := by
  cases fields with
  | nil =>
      refine ⟨t, h, ?_⟩
      simp
  | cons first values =>
      obtain ⟨i, hi, rfl⟩ := List.mem_mapIdx.mp h
      refine ⟨tables[i], List.getElem_mem hi, ?_⟩
      intro key
      rw [Std.ExtTreeMap.mem_insert, Std.LawfulEqCmp.compare_eq_iff_eq, List.head?_cons,
        Option.some_inj, or_comm]

/-- Entering records gives every table their keys. -/
theorem exists_of_mem_enterRecords (h : enterRecords tables records = .ok tables') :
  tables'.length = tables.length
    ∧ ∀ t ∈ tables', ∃ old ∈ tables, ∀ key, key ∈ t ↔ key ∈ old ∨ key ∈ firstFields records
  := by
  induction records generalizing tables with
  | nil =>
      cases h
      refine ⟨rfl, ?_⟩
      intro t ht
      refine ⟨t, ht, ?_⟩
      simp [firstFields]
  | cons record rest ih =>
      cases record with
      | error fault => cases h
      | ok fields =>
          obtain ⟨hlength, hrest⟩ := ih h
          constructor
          · rw [hlength]
            cases fields with
            | nil => rfl
            | cons first values => exact List.length_mapIdx
          · intro t ht
            obtain ⟨between, hbetween, hkeys⟩ := hrest t ht
            obtain ⟨old, hold, hfirst⟩ := exists_of_mem_enterRecord hbetween
            refine ⟨old, hold, ?_⟩
            intro key
            rw [hkeys, hfirst, or_assoc]
            cases hhead : fields.head? with
            | none => simp [firstFields, Except.toOption, hhead]
            | some first => simp [firstFields, Except.toOption, hhead, eq_comm]

/-- The columns of a CSV table all have the keys of its records. -/
theorem keys_perm_of_ofCsv {input : Csv.Input} {n : Nat} (h : ofCsv input n = .ok tables) :
  tables.length = n ∧ ∀ t ∈ tables, t.keys.Perm (recordedKeys input)
  := by
  have hentered : enterRecords (List.replicate n ∅) (input.uniform.drop 1) = .ok tables := by
    rw [ofCsv] at h
    cases huniform : input.uniform with
    | nil =>
        simp only [huniform] at h
        split_ifs at h
        exact h
    | cons header records =>
        cases header with
        | error fault =>
            simp only [huniform] at h
            cases h
        | ok columns =>
            simp only [huniform] at h
            split_ifs at h
            exact h
  obtain ⟨hlength, hkeys⟩ := exists_of_mem_enterRecords hentered
  rw [List.length_replicate] at hlength
  refine ⟨hlength, ?_⟩
  intro t ht
  apply (List.perm_ext_iff_of_nodup Std.ExtTreeMap.nodup_keys (List.nodup_dedup _)).mpr
  intro key
  obtain ⟨old, hold, hkeys⟩ := hkeys t ht
  obtain rfl := List.eq_of_mem_replicate hold
  rw [Std.ExtTreeMap.mem_keys, hkeys, List.mem_dedup]
  simp

theorem nodup_sharedKeys (tables : List Table) :
  (sharedKeys tables).Nodup
  := by
  cases tables with
  | nil => exact List.nodup_nil
  | cons first rest => exact Std.ExtTreeMap.nodup_keys.filter _

end JoinBench.Table

namespace JoinBench.Experiment

open JoinBench.Random

/-! ### Tables with renamed entries -/

/-- The tables that are left of tables with the given keys when those in `removed` were taken out of
the join.  The other keys stay shared; further keys are shared only where they were taken out and
are the new names of keys taken out.  A value is lost only where a new name is one of the keys. -/
structure IsNarrowed (keys : List String) (joinSize : Nat) (removed : List String)
    (tables tables' : List Table) : Prop where
  nodup : removed.Nodup
  mem_keys : ∀ key ∈ removed, key ∈ keys
  length_removed : removed.length + joinSize = keys.length
  length_eq : tables'.length = tables.length
  shared_of_notMem : ∀ key ∈ keys, key ∉ removed → key ∈ Table.sharedKeys tables'
  of_mem_shared : ∀ key ∈ Table.sharedKeys tables',
    key ∈ keys ∧ (key ∈ removed → ∃ other ∈ removed, key = removedKey other)
  le_length_shared : joinSize ≤ (Table.sharedKeys tables').length
  length_shared : (∀ key ∈ removed, removedKey key ∉ removed) →
    (Table.sharedKeys tables').length = joinSize
  held_le : ∀ {k : Nat} {t t' : Table}, tables[k]? = some t → tables'[k]? = some t' →
    t'.size ≤ keys.length ∧ Table.held t' ≤ Table.held t
  held_eq : (∀ key ∈ removed, removedKey key ∉ keys) →
    ∀ {k : Nat} {t t' : Table}, tables[k]? = some t → tables'[k]? = some t' →
      t'.size = keys.length ∧ Table.held t' = Table.held t

variable {keys removed : List String} {joinSize : Nat} {tables tables' : List Table}
  {moved : Nat → List String} {key : String}

/-- Tables with the same keys, each key renamed by some of them, but not by all. -/
structure IsRenamed (keys removed : List String) (moved : Nat → List String)
    (tables tables' : List Table) : Prop where
  pos : 0 < tables.length
  keys_perm : ∀ t ∈ tables, t.keys.Perm keys
  isSpread : IsSpread tables.length removed moved
  getElem?_eq : ∀ k : Nat, tables'[k]? = tables[k]?.map (renamed (moved k))

namespace IsRenamed

theorem length_eq (h : IsRenamed keys removed moved tables tables') :
  tables'.length = tables.length
  := by
  apply Nat.le_antisymm
  · rw [← List.getElem?_eq_none_iff, h.getElem?_eq, List.getElem?_eq_none (Nat.le_refl _)]
    rfl
  · rw [← List.getElem?_eq_none_iff, ← Option.map_eq_none_iff, ← h.getElem?_eq,
      List.getElem?_eq_none (Nat.le_refl _)]

theorem mem_iff (h : IsRenamed keys removed moved tables tables') {t : Table} (ht : t ∈ tables) :
  key ∈ t ↔ key ∈ keys
  := by
  rw [← Std.ExtTreeMap.mem_keys, (h.keys_perm t ht).mem_iff]

theorem size_eq (h : IsRenamed keys removed moved tables tables') {t : Table} (ht : t ∈ tables) :
  t.size = keys.length
  := by
  rw [← Std.ExtTreeMap.length_keys, (h.keys_perm t ht).length_eq]

theorem eq_renamed (h : IsRenamed keys removed moved tables tables') {k : Nat} {t t' : Table}
    (ht : tables[k]? = some t) (ht' : tables'[k]? = some t') :
  t' = renamed (moved k) t
  := by
  rw [h.getElem?_eq, ht, Option.map_some, Option.some_inj] at ht'
  exact ht'.symm

/-- A shared name is in every table an old one that was kept or a new one. -/
theorem of_mem_sharedKeys (h : IsRenamed keys removed moved tables tables')
    (hkey : key ∈ Table.sharedKeys tables') {k : Nat} (hk : k < tables.length) :
  (key ∈ keys ∧ key ∉ moved k) ∨ ∃ other ∈ moved k, key = removedKey other
  := by
  have ht := h.getElem?_eq k
  rw [List.getElem?_eq_getElem hk, Option.map_some] at ht
  have hmem := List.mem_of_getElem? ht
  rw [← h.mem_iff (List.getElem_mem hk)]
  exact of_mem_renamed ((Table.mem_sharedKeys hmem).mp hkey _ hmem)

theorem mem_sharedKeys (h : IsRenamed keys removed moved tables tables') (hkey : key ∈ keys)
    (hkept : key ∉ removed) :
  key ∈ Table.sharedKeys tables'
  := by
  have hmem : ∀ t ∈ tables', key ∈ t := by
    intro t ht
    obtain ⟨k, hk⟩ := List.mem_iff_getElem?.mp ht
    rw [h.getElem?_eq] at hk
    obtain ⟨old, hold, rfl⟩ := Option.map_eq_some_iff.mp hk
    apply mem_renamed_of_notMem ((h.mem_iff (List.mem_of_getElem? hold)).mpr hkey)
    exact mt (h.isSpread.sublist k).mem hkept
  obtain ⟨t, ht⟩ := List.exists_mem_of_length_pos (Nat.lt_of_lt_of_eq h.pos h.length_eq.symm)
  exact (Table.mem_sharedKeys ht).mpr hmem

/-- A new name is not shared, since the tables that kept the old one do not have it. -/
theorem mem_keys (h : IsRenamed keys removed moved tables tables')
    (hkey : key ∈ Table.sharedKeys tables') :
  key ∈ keys
  := by
  obtain ⟨hkeys, -⟩ | ⟨other, hother, hname⟩ := h.of_mem_sharedKeys hkey h.pos
  · exact hkeys
  · obtain ⟨k, hk, hkept⟩ :=
      h.isSpread.exists_notMem other ((h.isSpread.sublist 0).mem hother)
    obtain ⟨hkeys, -⟩ | ⟨another, hanother, hname'⟩ := h.of_mem_sharedKeys hkey hk
    · exact hkeys
    · rw [hname, removedKey_inj] at hname'
      subst hname'
      exact absurd hanother hkept

/-- A key that was taken out is shared again only as the new name of another one. -/
theorem exists_eq_removedKey (h : IsRenamed keys removed moved tables tables')
    (hkey : key ∈ Table.sharedKeys tables') (hremoved : key ∈ removed) :
  ∃ other ∈ removed, key = removedKey other
  := by
  obtain ⟨k, hk, hmoved⟩ := h.isSpread.exists_mem key hremoved
  obtain ⟨-, hkept⟩ | ⟨other, hother, hname⟩ := h.of_mem_sharedKeys hkey hk
  · exact absurd hmoved hkept
  · exact ⟨other, (h.isSpread.sublist k).mem hother, hname⟩

theorem sharedKeys_perm (h : IsRenamed keys removed moved tables tables') (hkeys : keys.Nodup)
    (hfree : ∀ key ∈ removed, removedKey key ∉ removed) :
  (Table.sharedKeys tables').Perm (keys.filter (· ∉ removed))
  := by
  apply (List.perm_ext_iff_of_nodup (Table.nodup_sharedKeys tables') (hkeys.filter _)).mpr
  intro key
  rw [List.mem_filter, decide_eq_true_iff]
  constructor
  · intro hkey
    refine ⟨h.mem_keys hkey, ?_⟩
    intro hremoved
    obtain ⟨other, hother, rfl⟩ := h.exists_eq_removedKey hkey hremoved
    exact hfree other hother hremoved
  · rintro ⟨hkey, hkept⟩
    exact h.mem_sharedKeys hkey hkept

theorem isNarrowed (h : IsRenamed keys removed moved tables tables') (hkeys : keys.Nodup)
    (hnodup : removed.Nodup) (hmem : ∀ key ∈ removed, key ∈ keys)
    (hlength : removed.length + joinSize = keys.length) :
  IsNarrowed keys joinSize removed tables tables'
  where
    nodup := hnodup
    mem_keys := hmem
    length_removed := hlength
    length_eq := h.length_eq
    shared_of_notMem := fun _ => h.mem_sharedKeys
    of_mem_shared := fun _ hkey => ⟨h.mem_keys hkey, h.exists_eq_removedKey hkey⟩
    le_length_shared := by
      have hkept : keys.filter (· ∉ removed) ⊆ Table.sharedKeys tables' := by
        intro key hkey
        rw [List.mem_filter, decide_eq_true_iff] at hkey
        exact h.mem_sharedKeys hkey.1 hkey.2
      have hle := ((hkeys.filter _).subperm hkept).length_le
      have hcount := length_filter_notMem hkeys hnodup hmem
      omega
    length_shared := by
      intro hfree
      have hcount := length_filter_notMem hkeys hnodup hmem
      rw [(h.sharedKeys_perm hkeys hfree).length_eq]
      omega
    held_le := by
      intro k t t' ht ht'
      rw [h.eq_renamed ht ht', ← h.size_eq (List.mem_of_getElem? ht), ← Table.card_held,
        ← Table.card_held]
      have hle := held_renamed_le (moved k) t
      exact ⟨Multiset.card_le_card hle, hle⟩
    held_eq := by
      intro hfree k t t' ht ht'
      have hmem := List.mem_of_getElem? ht
      have heq : Table.held (renamed (moved k) t) = Table.held t := by
        apply held_renamed ((h.isSpread.sublist k).nodup hnodup)
        intro key hkey
        rw [h.mem_iff hmem]
        exact hfree key ((h.isSpread.sublist k).mem hkey)
      rw [h.eq_renamed ht ht', ← h.size_eq hmem, ← Table.card_held, ← Table.card_held, heq]
      exact ⟨rfl, rfl⟩

end IsRenamed

/-! ### Columns of a CSV table -/

variable {σ : Type} {random : Source σ}

/-- The columns of a CSV table share the keys of its records, and their join can be shrunk to any
smaller size. -/
theorem controlJoinSize_ofCsv (hlawful : random.Lawful) {input : Csv.Input} {n : Nat} (hn : 2 ≤ n)
    (hread : Table.ofCsv input n = .ok tables)
    (hsize : joinSize < (Table.recordedKeys input).length) (s : σ) :
  (tables.length = n ∧ ∀ t ∈ tables, t.keys.Perm (Table.recordedKeys input))
    ∧ ∃ tables' s' removed, controlJoinSize random joinSize tables s = .ok (tables', s')
      ∧ IsNarrowed (Table.recordedKeys input) joinSize removed tables tables'
  := by
  obtain ⟨hlength, hkeys⟩ := Table.keys_perm_of_ofCsv hread
  refine ⟨⟨hlength, hkeys⟩, ?_⟩
  rw [← hlength] at hn
  have hrecorded := List.nodup_dedup (Table.firstFields (input.uniform.drop 1))
  obtain ⟨removed, s', hok, hnodup, hcount, hmem⟩ :=
    exists_controlJoinSize hlawful hn hkeys hrecorded hsize s
  obtain ⟨moved, hspread, hmoved⟩ := exists_removeKeys hlawful hn hnodup s'
  refine ⟨_, _, removed, hok, ?_⟩
  have hrenamed : IsRenamed (Table.recordedKeys input) removed moved tables _ :=
    ⟨by omega, hkeys, hspread, hmoved⟩
  exact hrenamed.isNarrowed hrecorded hnodup hmem hcount

/-- The columns `a` and `b` of two records whose keys have nothing to do with one another. -/
def unrelated : Csv.Input :=
  .ofContent "uid,a,b\nk,1,2\nremoved_l,3,4\n".toUTF8

def unrelatedColumns : List Table :=
  [Table.ofEntries [("k", "1"), ("removed_l", "3")],
    Table.ofEntries [("k", "2"), ("removed_l", "4")]]

/-- A key that merely looks like a new name is no hindrance. -/
theorem controlJoinSize_ofCsv_unrelated :
  2 ≤ 2 ∧ Table.ofCsv unrelated 2 = .ok unrelatedColumns
    ∧ 1 < (Table.recordedKeys unrelated).length
    ∧ ∃ tables' s', controlJoinSize stream 1 unrelatedColumns (.ofSeed 2) = .ok (tables', s')
      ∧ (Table.sharedKeys tables').length = 1
      ∧ ∀ {k : Nat} {t t' : Table}, unrelatedColumns[k]? = some t → tables'[k]? = some t' →
        t'.size = 2 ∧ Table.held t' = Table.held t
  := by
  have hread : Table.ofCsv unrelated 2 = .ok unrelatedColumns := by decide +kernel
  have hkeys : Table.recordedKeys unrelated = ["k", "removed_l"] := by decide +kernel
  have hsize : 1 < (Table.recordedKeys unrelated).length := by
    rw [hkeys]
    decide
  refine ⟨Nat.le_refl 2, hread, hsize, ?_⟩
  obtain ⟨-, tables', s', removed, hok, hnarrowed⟩ :=
    controlJoinSize_ofCsv lawful_stream (Nat.le_refl 2) hread hsize (.ofSeed 2)
  rw [hkeys] at hnarrowed
  have hfree : ∀ key ∈ removed, removedKey key ∉ ["k", "removed_l"] := by
    intro key hkey
    exact (by decide : ∀ key ∈ ["k", "removed_l"], removedKey key ∉ ["k", "removed_l"]) key
      (hnarrowed.mem_keys key hkey)
  refine ⟨tables', s', hok, ?_, hnarrowed.held_eq hfree⟩
  apply hnarrowed.length_shared
  intro key hkey hname
  exact hfree key hkey (hnarrowed.mem_keys _ hname)

/-- The columns `a` and `b` of two records of which one has the new name of the other's key. -/
def clashing : Csv.Input :=
  .ofContent "uid,a,b\nk,1,2\nremoved_k,3,4\n".toUTF8

def clashingColumns : List Table :=
  [Table.ofEntries [("k", "1"), ("removed_k", "3")],
    Table.ofEntries [("k", "2"), ("removed_k", "4")]]

/-- With one seed a key that was taken out comes back as the new name of the other one, with another
seed it takes the place of a value. -/
theorem exists_length_sharedKeys_ne :
  Table.ofCsv clashing 2 = .ok clashingColumns
    ∧ Table.recordedKeys clashing = ["k", "removed_k"]
    ∧ (controlJoinSize stream 0 clashingColumns (.ofSeed 2)).map (fun r => Table.sharedKeys r.1)
      = .ok ["removed_k"]
    ∧ (controlJoinSize stream 0 clashingColumns (.ofSeed 0)).map (fun r => r.1.map (·.size))
      = .ok [2, 1]
  := by
  refine ⟨?_, ?_, ?_, ?_⟩ <;> decide +kernel

/-! ### Draws that lose a value -/

/-- The numbers below a length, starting with a favourite where it is one of them. -/
def favouriteFirst (favourite length : Nat) : List Nat :=
  if favourite < length then favourite :: (List.range length).erase favourite
  else List.range length

theorem favouriteFirst_perm (favourite length : Nat) :
  (favouriteFirst favourite length).Perm (List.range length)
  := by
  rw [favouriteFirst]
  split_ifs with hlt
  · exact (List.perm_cons_erase (List.mem_range.mpr hlt)).symm
  · exact List.Perm.refl _

/-- A source that draws its favourite first wherever it can. -/
def favouring (favourite : Nat) : Source Unit where
  between low _ s := (low, s)
  sample length amount s := ((favouriteFirst favourite length).take amount, s)

theorem lawful_favouring (favourite : Nat) :
  (favouring favourite).Lawful
  where
    low_le_between := fun _ _ => Nat.le_refl _
    between_le_high := fun _ h => h
    length_sample := by
      intro length amount s h
      rw [favouring, List.length_take, (favouriteFirst_perm favourite length).length_eq,
        List.length_range, Nat.min_eq_left h]
    nodup_sample := by
      intro length amount s _
      apply (List.take_sublist _ _).nodup
      exact (favouriteFirst_perm favourite length).nodup_iff.mpr List.nodup_range
    lt_of_mem_sample := by
      intro length amount s _ i hi
      have hmem := List.mem_of_mem_take hi
      exact List.mem_range.mp ((favouriteFirst_perm favourite length).mem_iff.mp hmem)

/-- Where the new name of the first key taken out is itself a key, some table loses a value. -/
theorem IsRenamed.exists_size_lt {rest : List String}
    (h : IsRenamed keys (key :: rest) moved tables tables') (hnodup : (key :: rest).Nodup)
    (hkey : key ∈ keys) (hname : removedKey key ∈ keys) :
  ∃ t ∈ tables', t.size < keys.length
  := by
  obtain ⟨k, hk, hmoved⟩ := h.isSpread.exists_mem key List.mem_cons_self
  have hmem := List.getElem_mem hk
  have ht := h.getElem?_eq k
  rw [List.getElem?_eq_getElem hk, Option.map_some] at ht
  refine ⟨_, List.mem_of_getElem? ht, ?_⟩
  -- The table renames the key before any other.
  obtain ⟨others, hothers⟩ : ∃ others, moved k = key :: others := by
    have hsublist := h.isSpread.sublist k
    generalize moved k = names at hsublist hmoved
    cases hsublist with
    | cons _ hsublist => exact absurd (hsublist.mem hmoved) (List.nodup_cons.mp hnodup).1
    | cons_cons _ _ => exact ⟨_, rfl⟩
  rw [hothers, renamed_cons]
  have hrest := Multiset.card_le_card
    (held_renamed_le others (tables[k].rename key (removedKey key)))
  rw [Table.card_held, Table.card_held] at hrest
  have hfirst := Table.size_rename_lt ((h.mem_iff hmem).mpr hkey) ((h.mem_iff hmem).mpr hname)
    (ne_removedKey key)
  rw [h.size_eq hmem] at hfirst
  exact Nat.lt_of_le_of_lt hrest hfirst

/-- Where one key of the records is the new name of another, some draws lose a value. -/
theorem exists_lawful_size_lt {input : Csv.Input} {n : Nat} (hn : 2 ≤ n)
    (hread : Table.ofCsv input n = .ok tables)
    (hsize : joinSize < (Table.recordedKeys input).length)
    (hkey : key ∈ Table.recordedKeys input) (hname : removedKey key ∈ Table.recordedKeys input) :
  ∃ random : Source Unit, random.Lawful
    ∧ ∃ tables' s', controlJoinSize random joinSize tables () = .ok (tables', s')
      ∧ ∃ t ∈ tables', t.size < (Table.recordedKeys input).length
  := by
  obtain ⟨hlength, hkeys⟩ := Table.keys_perm_of_ofCsv hread
  rw [← hlength] at hn
  have hrecorded := List.nodup_dedup (Table.firstFields (input.uniform.drop 1))
  obtain ⟨order, horder, hok⟩ := exists_controlJoinSize_eq hn hkeys hsize
  obtain ⟨i, hi, rfl⟩ := List.mem_iff_getElem.mp (horder.mem_iff.mpr hkey)
  refine ⟨favouring i, lawful_favouring i, _, _, hok (favouring i) (), ?_⟩
  -- The favourite is sampled first.
  obtain ⟨amount, hamount⟩ : ∃ amount, (Table.recordedKeys input).length - joinSize = amount + 1 :=
    Nat.exists_eq_add_one.mpr (by omega)
  have hlt := hi
  rw [horder.length_eq] at hlt
  have hsample : ((favouring i).sample (Table.recordedKeys input).length
      ((Table.recordedKeys input).length - joinSize) ()).1
    = i :: ((List.range (Table.recordedKeys input).length).erase i).take amount := by
    simp only [favouring, favouriteFirst, if_pos hlt, hamount, List.take_succ_cons]
  have hle := Nat.sub_le (Table.recordedKeys input).length joinSize
  have hnodup := (filterMap_getElem? (horder.nodup_iff.mpr hrecorded)
    ((lawful_favouring i).nodup_sample () hle) (by
      rw [horder.length_eq]
      exact (lawful_favouring i).lt_of_mem_sample () hle)).2.1
  rw [hsample, List.filterMap_cons_some (List.getElem?_eq_getElem hi)] at hnodup ⊢
  obtain ⟨moved, hspread, hmoved⟩ := exists_removeKeys (lawful_favouring i) hn hnodup ()
  have hrenamed : IsRenamed (Table.recordedKeys input) _ moved tables _ :=
    ⟨by omega, hkeys, hspread, hmoved⟩
  exact hrenamed.exists_size_lt hnodup hkey hname

end JoinBench.Experiment
