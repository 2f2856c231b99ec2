import JoinBench.Proofs.Oracle.Generation
import JoinBench.Proofs.Oracle.Join

/-!
# The tables of an experiment

Whatever the source of randomness draws, as long as it keeps its promises, the tables of an
experiment hold all generated values and have a join of exactly the wanted size.
-/

namespace JoinBench.Experiment

open JoinBench.Random

variable {σ : Type} {random : Source σ}

/-! ### Controlling the size of the join -/

theorem exists_map_keyOf {keys : List String} {rows : Nat}
    (h : ∀ key ∈ keys, ∃ i < rows, key = keyOf i) :
  ∃ removed : List Nat, keys = removed.map keyOf ∧ ∀ i ∈ removed, i < rows
  := by
  induction keys with
  | nil =>
      refine ⟨[], rfl, ?_⟩
      intro i hi
      cases hi
  | cons key rest ih =>
      obtain ⟨⟨i, hi, rfl⟩, hrest⟩ := List.forall_mem_cons.mp h
      obtain ⟨removed, rfl, hremoved⟩ := ih hrest
      exact ⟨i :: removed, rfl, List.forall_mem_cons.mpr ⟨hi, hremoved⟩⟩

/-- Moving rows out of the join leaves the others. -/
theorem length_filter_stays {n rows : Nat} {moved : Nat → Nat → Bool} {removed : List Nat}
    (hnodup : removed.Nodup) (hremoved : ∀ i ∈ removed, i < rows)
    (hstays : ∀ i, stays n moved i = true ↔ i ∉ removed) :
  ((List.range rows).filter (stays n moved)).length = rows - removed.length
  := by
  have hfilter : (List.range rows).filter (stays n moved)
    = (List.range rows).filter (· ∉ removed) := by
    apply List.filter_congr
    intro i _
    rw [Bool.eq_iff_iff, hstays, decide_eq_true_iff]
  have hcount := length_filter_notMem List.nodup_range hnodup
    fun i hi => List.mem_range.mpr (hremoved i hi)
  rw [hfilter]
  rw [List.length_range] at hcount
  omega

/-- The size of the join of several tables that share their rows is brought to the wanted one by
moving the other rows out of it. -/
theorem Arranged.controlJoinSize {n rows joinSize : Nat} {value : Nat → Nat → String}
    {tables : List Table} (h : Arranged n rows value noneMoved tables) (hlawful : random.Lawful)
    (hn : 2 ≤ n) (hsize : joinSize < rows) (s : σ) :
  ∃ tables' s' moved, Experiment.controlJoinSize random joinSize tables s = .ok (tables', s')
    ∧ Arranged n rows value moved tables'
    ∧ (∀ i < rows, stays n moved i = true ∨ IsSplit n moved i)
    ∧ ((List.range rows).filter (stays n moved)).length = joinSize
  := by
  have hkeys : ∀ t ∈ tables, t.keys.Perm ((List.range rows).map keyOf) := by
    intro t ht
    obtain ⟨k, -, -, hkeeps⟩ := h.exists_keeps ht
    exact hkeeps.keys_perm
  have hdistinct : ((List.range rows).map keyOf).Nodup :=
    List.Nodup.map (fun _ _ => keyOf_inj.mp) List.nodup_range
  have hlength : ((List.range rows).map keyOf).length = rows := by
    rw [List.length_map, List.length_range]
  obtain ⟨keys, s', hok, hnodup, hcount, hmem⟩ := exists_controlJoinSize hlawful
    (Nat.le_trans hn (Nat.le_of_eq h.length_eq.symm)) hkeys hdistinct (by rw [hlength]; exact hsize)
    s
  -- The keys taken out are those of different rows.
  obtain ⟨removed, rfl, hrows⟩ := exists_map_keyOf (by
    intro key hkey
    obtain ⟨i, hi, rfl⟩ := List.mem_map.mp (hmem key hkey)
    exact ⟨i, List.mem_range.mp hi, rfl⟩)
  have hnodup := hnodup.of_map
  rw [List.length_map, hlength] at hcount
  obtain ⟨moved, harranged, hkept, hsplit⟩ :=
    h.removeKeys hlawful hn hnodup hrows (fun _ _ _ => rfl) s'
  have hstays : ∀ i, stays n moved i = true ↔ i ∉ removed := by
    intro i
    constructor
    · intro hstays hi
      rw [not_stays_of_isSplit (hsplit i hi)] at hstays
      cases hstays
    · intro hi
      rw [stays_iff]
      intro k _
      rw [hkept i hi k]
      rfl
  refine ⟨_, _, moved, hok, harranged, ?_, ?_⟩
  · intro i _
    by_cases hi : i ∈ removed
    · exact .inr (hsplit i hi)
    · exact .inl ((hstays i).mpr hi)
  · rw [length_filter_stays hnodup hrows hstays]
    omega

/-! ### Experiments -/

/-- There is a table for each source, and table `k` holds the value that was drawn for row `i`
with the number `draw k i` under the key of the row, for every row, and nothing else. -/
structure IsGenerated (sources : List RoleId) (rows : Nat) (draw : Nat → Nat → Nat)
    (tables : List Table) : Prop where
  length_eq : tables.length = sources.length
  getElem?_iff : ∀ {k : Nat} {t : Table} {source : RoleId}, tables[k]? = some t →
    sources[k]? = some source → ∀ {key v : String},
      t[key]? = some v ↔ ∃ i < rows, key = keyOf i ∧ v = valueOf source (draw k i)

/-- There is a table for each source, and table `k` holds the value that was drawn for row `i`
with the number `draw k i`, for every row, and nothing else, under one of the two names of the
row.  Some table has the row under its key, all tables have so for exactly `joinSize` rows, and
these are the rows of the join. -/
structure IsShrunk (sources : List RoleId) (rows joinSize : Nat) (draw : Nat → Nat → Nat)
    (tables : List Table) : Prop where
  length_eq : tables.length = sources.length
  size_eq : ∀ t ∈ tables, t.size = rows
  exists_of_mem : ∀ t ∈ tables, ∀ key ∈ t, ∃ i < rows, key = keyOf i ∨ key = removedKey (keyOf i)
  held : ∀ {k : Nat} {t : Table} {source : RoleId}, tables[k]? = some t →
    sources[k]? = some source → ∀ i < rows,
      (t[keyOf i]? = some (valueOf source (draw k i)) ∧ t[removedKey (keyOf i)]? = none)
        ∨ t[keyOf i]? = none ∧ t[removedKey (keyOf i)]? = some (valueOf source (draw k i))
  exists_held : ∀ i < rows, ∃ t ∈ tables, keyOf i ∈ t
  length_shared :
    ((List.range rows).filter fun i => tables.all (·.contains (keyOf i))).length = joinSize
  length_join : (Table.join tables).length = joinSize
  nodup_join : ((Table.join tables).map (·.1)).Nodup
  of_mem_join : ∀ entry ∈ Table.join tables, ∃ i < rows,
    entry = (keyOf i, sources.mapIdx fun k source => valueOf source (draw k i))

variable {sources : List RoleId} {draw : Nat → Nat → Nat} {rows joinSize : Nat}
  {tables : List Table}

theorem valueAt_eq {k : Nat} {source : RoleId} (h : sources[k]? = some source) (i : Nat) :
  valueAt sources draw k i = valueOf source (draw k i)
  := by
  rw [valueAt, List.getD_eq_getElem?_getD, h, Option.getD_some]

theorem map_valueAt (i : Nat) :
  (List.range sources.length).map (valueAt sources draw · i)
    = sources.mapIdx fun k source => valueOf source (draw k i)
  := by
  apply List.ext_getElem
  · simp
  · intro k hk hk'
    rw [List.length_mapIdx] at hk'
    rw [List.getElem_map, List.getElem_range, List.getElem_mapIdx]
    apply valueAt_eq (List.getElem?_eq_getElem hk')

theorem Arranged.isGenerated
    (h : Arranged sources.length rows (valueAt sources draw) noneMoved tables) :
  IsGenerated sources rows draw tables
  where
    length_eq := h.length_eq
    getElem?_iff := by
      intro k t source ht hsource key v
      have hiff : t[key]? = some v
        ↔ ∃ i < rows, key = nameOf false i ∧ v = valueAt sources draw k i :=
        (h.keeps ht).getElem?_iff
      simpa only [valueAt_eq hsource, nameOf, Bool.false_eq_true, if_false] using hiff

/-- Tables whose arrangement leaves as many rows as wanted are shrunk to this size. -/
theorem Arranged.isShrunk {moved : Nat → Nat → Bool}
    (h : Arranged sources.length rows (valueAt sources draw) moved tables)
    (hsources : 0 < sources.length)
    (hmoved : ∀ i < rows, stays sources.length moved i = true ∨ IsSplit sources.length moved i)
    (hcount : ((List.range rows).filter (stays sources.length moved)).length = joinSize) :
  IsShrunk sources rows joinSize draw tables
  := by
  have hjoin := h.join_perm hsources hmoved
  constructor
  · exact h.length_eq
  · intro t ht
    obtain ⟨k, -, -, hkeeps⟩ := h.exists_keeps ht
    apply hkeeps.size_eq
  · intro t ht key hkey
    obtain ⟨k, -, -, hkeeps⟩ := h.exists_keeps ht
    obtain ⟨i, hi, rfl⟩ := hkeeps.mem_iff.mp hkey
    use i, hi
    cases moved k i with
    | true => exact .inr rfl
    | false => exact .inl rfl
  · intro k t source ht hsource i hi
    have hkeeps := h.keeps ht
    have hheld := hkeeps.getElem?_nameOf hi
    have hother := Std.ExtTreeMap.getElem?_eq_none (hkeeps.notMem_nameOf i)
    rw [valueAt_eq hsource] at hheld
    cases hm : moved k i with
    | true =>
        rw [hm] at hheld hother
        exact .inr ⟨hother, hheld⟩
    | false =>
        rw [hm] at hheld hother
        exact .inl ⟨hheld, hother⟩
  · intro i hi
    obtain ⟨k, hk, hfree⟩ : ∃ k < sources.length, moved k i = false := by
      obtain hstays | ⟨-, hfree⟩ := hmoved i hi
      · exact ⟨0, hsources, stays_iff.mp hstays 0 hsources⟩
      · exact hfree
    obtain ⟨t, -, ht, hkeeps⟩ := h.exists_table hk
    use t, ht
    rw [hkeeps.mem_iff]
    use i, hi
    rw [hfree]
    rfl
  · rw [← hcount]
    congr 1
    apply List.filter_congr
    intro i hi
    have hiff : (∀ t ∈ tables, keyOf i ∈ t) ↔ _ := h.forall_mem_iff hsources hmoved
    rw [Bool.eq_iff_iff, List.all_eq_true]
    simp only [Std.ExtTreeMap.contains_iff_mem]
    rw [hiff]
    constructor
    · rintro ⟨j, -, hstays, hkey⟩
      rw [keyOf_inj.mp hkey]
      exact hstays
    · intro hstays
      exact ⟨i, List.mem_range.mp hi, hstays, rfl⟩
  · rw [hjoin.length_eq, List.length_map, hcount]
  · apply (hjoin.map Prod.fst).nodup_iff.mpr
    rw [List.map_map]
    apply List.Nodup.map
    · intro i j hij
      exact keyOf_inj.mp hij
    · exact List.nodup_range.filter _
  · intro entry hentry
    obtain ⟨i, hi, rfl⟩ := List.mem_map.mp (hjoin.mem_iff.mp hentry)
    use i, List.mem_range.mp (List.mem_filter.mp hi).1
    rw [map_valueAt]

/-- Without enough rows or without a second source there are no tables. -/
theorem exists_tablesFrom_eq_error (hlawful : random.Lawful) (hsources : sources ≠ [])
    (hfew : rows ≤ joinSize ∨ sources.length = 1) (s : σ) :
  ∃ problem, tablesFrom random sources rows joinSize s = .error (.config problem)
  := by
  obtain ⟨draw, -, h⟩ := exists_generate hlawful sources rows s
  have htables : tablesFrom random sources rows joinSize s
    = (controlJoinSize random joinSize (generate random sources rows s).1
        (generate random sources rows s).2).map (·.1) := rfl
  rw [htables]
  generalize generate random sources rows s = generated at h ⊢
  obtain ⟨first, rest, hfirst⟩ : ∃ first rest, generated.1 = first :: rest := by
    apply List.exists_cons_of_length_pos
    rw [h.length_eq]
    apply List.length_pos_iff.mpr hsources
  rw [hfirst] at h ⊢
  have hkeys := (h.keeps (show (first :: rest)[0]? = some first from rfl)).keys_perm
  have hlength : first.keys.length = rows := by
    rw [hkeys.length_eq, List.length_map, List.length_range]
  simp only [controlJoinSize, List.size_toArray, hlength]
  by_cases hsize : rows ≤ joinSize
  · rw [if_pos hsize]
    exact ⟨_, rfl⟩
  · rw [if_neg hsize]
    obtain hsize' | hone := hfew
    · exact absurd hsize' hsize
    · rw [h.length_eq, hone, if_pos (by decide)]
      exact ⟨_, rfl⟩

/-- With more rows than wanted and several sources there are tables, and they are shrunk to the
wanted size. -/
theorem exists_tablesFrom_eq_ok (hlawful : random.Lawful) (hsize : joinSize < rows)
    (hsources : 2 ≤ sources.length) (s : σ) :
  ∃ draw : Nat → Nat → Nat, (∀ k i, 1 ≤ draw k i ∧ draw k i ≤ maxDraw)
    ∧ IsGenerated sources rows draw (generate random sources rows s).1
    ∧ ∃ tables, tablesFrom random sources rows joinSize s = .ok tables
      ∧ IsShrunk sources rows joinSize draw tables
  := by
  obtain ⟨draw, hdraw, h⟩ := exists_generate hlawful sources rows s
  obtain ⟨tables, s', moved, hok, harranged, hmoved, hcount⟩ :=
    h.controlJoinSize hlawful hsources hsize (generate random sources rows s).2
  have htables : tablesFrom random sources rows joinSize s
    = (controlJoinSize random joinSize (generate random sources rows s).1
        (generate random sources rows s).2).map (·.1) := rfl
  refine ⟨draw, hdraw, h.isGenerated, tables, ?_, ?_⟩
  · rw [htables, hok]
    rfl
  · apply harranged.isShrunk (by omega) hmoved hcount

/-- Drawing the tables of an experiment fails exactly where the wanted size does not leave a row
out or where there is but one source; else the tables hold what was generated, and are shrunk
to the wanted size. -/
theorem tablesFrom_spec (hlawful : random.Lawful) (hsources : sources ≠ []) (rows joinSize : Nat)
    (s : σ) :
  (rows ≤ joinSize ∨ sources.length = 1 →
    ∃ problem, tablesFrom random sources rows joinSize s = .error (.config problem))
  ∧ (joinSize < rows → sources.length ≠ 1 →
    ∃ draw : Nat → Nat → Nat, (∀ k i, 1 ≤ draw k i ∧ draw k i ≤ 1000)
      ∧ IsGenerated sources rows draw (generate random sources rows s).1
      ∧ ∃ tables, tablesFrom random sources rows joinSize s = .ok tables
        ∧ IsShrunk sources rows joinSize draw tables)
  := by
  constructor
  · intro hfew
    apply exists_tablesFrom_eq_error hlawful hsources hfew
  · intro hsize hone
    have hpos := List.length_pos_iff.mpr hsources
    apply exists_tablesFrom_eq_ok hlawful hsize (by omega)

theorem tablesFrom_spec_stream :
  (∃ problem, tablesFrom stream [⟨"a"⟩, ⟨"b"⟩] 3 3 (.ofSeed 7) = .error (.config problem))
  ∧ ∃ draw : Nat → Nat → Nat, (∀ k i, 1 ≤ draw k i ∧ draw k i ≤ 1000)
    ∧ IsGenerated [⟨"a"⟩, ⟨"b"⟩] 3 draw (generate stream [⟨"a"⟩, ⟨"b"⟩] 3 (.ofSeed 7)).1
    ∧ ∃ tables, tablesFrom stream [⟨"a"⟩, ⟨"b"⟩] 3 1 (.ofSeed 7) = .ok tables
      ∧ IsShrunk [⟨"a"⟩, ⟨"b"⟩] 3 1 draw tables
  := by
  constructor
  · apply (tablesFrom_spec lawful_stream (by decide) 3 3 _).1 (.inl (Nat.le_refl 3))
  · apply (tablesFrom_spec lawful_stream (by decide) 3 1 _).2 (by decide) (by decide)

/-! ### The expected result -/

theorem exists_expectedResult_eq_error (hsources : sources ≠ [])
    (hfew : rows ≤ joinSize ∨ sources.length = 1) (seed : Nat) :
  ∃ problem, expectedResult sources rows joinSize seed = .error (.config problem)
  := by
  obtain ⟨problem, hproblem⟩ :=
    exists_tablesFrom_eq_error lawful_stream hsources hfew (.ofSeed seed)
  use problem
  rw [expectedResult, Experiment.tables, hproblem]
  rfl

theorem exists_expectedResult_eq_ok (hsize : joinSize < rows) (hsources : 2 ≤ sources.length)
    (seed : Nat) :
  ∃ expected, expectedResult sources rows joinSize seed = .ok expected
  := by
  obtain ⟨-, -, -, tables, htables, -⟩ :=
    exists_tablesFrom_eq_ok lawful_stream hsize hsources (.ofSeed seed)
  use Table.rows (Table.join tables)
  rw [expectedResult, Experiment.tables, htables]
  rfl

theorem expectedResult_eq_ok {seed : Nat} {expected : RowSet} :
  expectedResult sources rows joinSize seed = .ok expected
    ↔ ∃ tables, Experiment.tables sources rows joinSize seed = .ok tables
      ∧ Table.rows (Table.join tables) = expected
  := by
  rw [expectedResult]
  cases Experiment.tables sources rows joinSize seed <;> simp [Except.map]

theorem expectedResult_eq_error {seed : Nat} {e : Error} :
  expectedResult sources rows joinSize seed = .error e
    ↔ Experiment.tables sources rows joinSize seed = .error e
  := by
  rw [expectedResult]
  cases Experiment.tables sources rows joinSize seed <;> simp [Except.map]

theorem enterRows_nil (row : Nat) (values : List (List String)) :
  enterRows row values [] = []
  := by
  induction values generalizing row with
  | nil => rfl
  | cons first rest ih => apply ih

/-- Without sources there are no tables, whatever the size of the join. -/
theorem tables_nil (rows joinSize seed : Nat) :
  Experiment.tables [] rows joinSize seed = .ok []
  := by
  have htables : Experiment.tables [] rows joinSize seed
    = (controlJoinSize stream joinSize
        (enterRows 0 (drawRows stream [] [] rows (.ofSeed seed)).1 [])
        (drawRows stream [] [] rows (.ofSeed seed)).2).map (·.1) := rfl
  rw [htables, enterRows_nil]
  rfl

theorem expectedResult_nil (rows joinSize seed : Nat) :
  expectedResult [] rows joinSize seed = .ok ∅
  := expectedResult_eq_ok.mpr ⟨[], tables_nil rows joinSize seed, rfl⟩

theorem length_of_tables {seed : Nat}
    (h : Experiment.tables sources rows joinSize seed = .ok tables) :
  tables.length = sources.length
  := by
  by_cases hsources : sources = []
  · subst hsources
    rw [tables_nil] at h
    cases h
    rfl
  · by_cases hfew : rows ≤ joinSize ∨ sources.length = 1
    · obtain ⟨problem, hproblem⟩ :=
        exists_tablesFrom_eq_error lawful_stream hsources hfew (.ofSeed seed)
      cases hproblem.symm.trans h
    · have hlength := List.length_pos_iff.mpr hsources
      have hsize : joinSize < rows := by omega
      have htwo : 2 ≤ sources.length := by omega
      obtain ⟨_, -, -, tables', htables, hshrunk⟩ :=
        exists_tablesFrom_eq_ok lawful_stream hsize htwo (.ofSeed seed)
      cases htables.symm.trans h
      exact hshrunk.length_eq

end JoinBench.Experiment
