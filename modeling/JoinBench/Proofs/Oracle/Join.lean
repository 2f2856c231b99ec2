import JoinBench.Proofs.Oracle.Arrangement

/-!
# The join of arranged tables

Where every row is moved by no table or by some, but not by all, the join of the tables has the
rows that are moved by none, each under its key with the values of all tables.
-/

namespace JoinBench.Experiment

/-- Where the items of a list have their values by position, so has the list of all values. -/
theorem filterMap_eq_map_range {α β : Type} {l : List α} {f : α → Option β} {g : Nat → β}
    (h : ∀ {k a}, l[k]? = some a → f a = some (g k)) :
  l.filterMap f = (List.range l.length).map g
  := by
  induction l generalizing g with
  | nil => rfl
  | cons a rest ih =>
      have hfirst : (a :: rest)[0]? = some a := rfl
      rw [List.filterMap_cons_some (h hfirst), List.length_cons, List.range_succ_eq_map,
        List.map_cons, List.map_map]
      congr 1
      apply ih
      intro k b hb
      apply h
      rw [List.getElem?_cons_succ, hb]

variable {n rows : Nat} {value : Nat → Nat → String} {moved : Nat → Nat → Bool}
  {tables : List Table} {i : Nat}

/-- None of `n` tables has moved the row. -/
def stays (n : Nat) (moved : Nat → Nat → Bool) (i : Nat) : Bool :=
  (List.range n).all fun k => !moved k i

theorem stays_iff :
  stays n moved i = true ↔ ∀ k < n, moved k i = false
  := by
  simp [stays]

theorem not_stays_of_isSplit (h : IsSplit n moved i) :
  stays n moved i = false
  := by
  obtain ⟨⟨k, hk, hmoved⟩, -⟩ := h
  rw [Bool.eq_false_iff, Ne, stays_iff]
  intro hall
  rw [hall k hk] at hmoved
  cases hmoved

namespace Arranged

theorem exists_table (h : Arranged n rows value moved tables) {k : Nat} (hk : k < n) :
  ∃ t, tables[k]? = some t ∧ t ∈ tables ∧ Keeps rows (value k) (moved k) t
  := by
  rw [← h.length_eq] at hk
  have ht := List.getElem?_eq_getElem hk
  exact ⟨tables[k], ht, List.getElem_mem hk, h.keeps ht⟩

theorem exists_keeps (h : Arranged n rows value moved tables) {t : Table} (ht : t ∈ tables) :
  ∃ k < n, tables[k]? = some t ∧ Keeps rows (value k) (moved k) t
  := by
  obtain ⟨k, hk⟩ := List.mem_iff_getElem?.mp ht
  have hlt : k < n := by
    rw [← h.length_eq]
    exact (List.getElem?_eq_some_iff.mp hk).1
  exact ⟨k, hlt, hk, h.keeps hk⟩

/-- The keys that all tables share are those of the rows that no table has moved. -/
theorem forall_mem_iff (h : Arranged n rows value moved tables) (hn : 0 < n)
    (hmoved : ∀ i < rows, stays n moved i = true ∨ IsSplit n moved i) {key : String} :
  (∀ t ∈ tables, key ∈ t) ↔ ∃ i < rows, stays n moved i = true ∧ key = keyOf i
  := by
  constructor
  · intro hall
    obtain ⟨first, -, hmem, hkeeps⟩ := h.exists_table hn
    obtain ⟨i, hi, rfl⟩ := hkeeps.mem_iff.mp (hall first hmem)
    -- Every table holds the row under the name that the first one gives it.
    have hsame : ∀ k < n, moved k i = moved 0 i := by
      intro k hk
      obtain ⟨t, -, ht, hkeeps⟩ := h.exists_table hk
      obtain ⟨j, -, hname⟩ := hkeeps.mem_iff.mp (hall t ht)
      obtain ⟨hmoved, rfl⟩ := nameOf_inj.mp hname
      exact hmoved.symm
    obtain hstays | ⟨⟨k, hk, htrue⟩, ⟨l, hl, hfalse⟩⟩ := hmoved i hi
    · refine ⟨i, hi, hstays, ?_⟩
      rw [stays_iff.mp hstays 0 hn]
      rfl
    · rw [hsame k hk] at htrue
      rw [hsame l hl, htrue] at hfalse
      cases hfalse
  · rintro ⟨i, hi, hstays, rfl⟩ t ht
    obtain ⟨k, hk, -, hkeeps⟩ := h.exists_keeps ht
    rw [hkeeps.mem_iff]
    use i, hi
    rw [stays_iff.mp hstays k hk]
    rfl

/-- The entries of a row that no table has moved are the values of all tables. -/
theorem filterMap_keyOf (h : Arranged n rows value moved tables) (hi : i < rows)
    (hstays : stays n moved i = true) :
  tables.filterMap (·[keyOf i]?) = (List.range n).map (value · i)
  := by
  rw [← h.length_eq]
  apply filterMap_eq_map_range
  intro k t ht
  have hk : k < n := by
    rw [← h.length_eq]
    exact (List.getElem?_eq_some_iff.mp ht).1
  have hget := (h.keeps ht).getElem?_nameOf hi
  rw [stays_iff.mp hstays k hk] at hget
  exact hget

/-- The join of the tables has the rows that no table has moved. -/
theorem join_perm (h : Arranged n rows value moved tables) (hn : 0 < n)
    (hmoved : ∀ i < rows, stays n moved i = true ∨ IsSplit n moved i) :
  (Table.join tables).Perm
    (((List.range rows).filter (stays n moved)).map
      fun i => (keyOf i, (List.range n).map (value · i)))
  := by
  obtain ⟨first, rest, rfl⟩ : ∃ first rest, tables = first :: rest := by
    cases tables with
    | nil =>
        rw [← h.length_eq] at hn
        cases hn
    | cons first rest => exact ⟨first, rest, rfl⟩
  have hkeys : (first.keys.filter fun key => rest.all (·.contains key)).Perm
      (((List.range rows).filter (stays n moved)).map keyOf) := by
    apply (List.perm_ext_iff_of_nodup _ _).mpr
    · intro key
      have hiff : (∀ t ∈ first :: rest, key ∈ t)
        ↔ ∃ i < rows, stays n moved i = true ∧ key = keyOf i := h.forall_mem_iff hn hmoved
      rw [List.forall_mem_cons] at hiff
      simp only [List.mem_filter, List.all_eq_true, Std.ExtTreeMap.contains_iff_mem,
        Std.ExtTreeMap.mem_keys, hiff, List.mem_map, List.mem_range, and_assoc,
        eq_comm (a := key)]
    · apply List.Nodup.filter
      exact Std.ExtTreeMap.nodup_keys
    · apply List.Nodup.map
      · intro i j hij
        exact keyOf_inj.mp hij
      · exact List.nodup_range.filter _
  have hvalues : ((List.range rows).filter (stays n moved)).map
        (fun i => (keyOf i, (List.range n).map (value · i)))
      = (((List.range rows).filter (stays n moved)).map keyOf).map
        fun key => (key, (first :: rest).filterMap (·[key]?)) := by
    rw [List.map_map]
    apply List.map_congr_left
    intro i hi
    obtain ⟨hi, hstays⟩ := List.mem_filter.mp hi
    rw [Function.comp, h.filterMap_keyOf (List.mem_range.mp hi) hstays]
  rw [hvalues]
  exact hkeys.map _

end Arranged

end JoinBench.Experiment
