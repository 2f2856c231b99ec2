import JoinBench.Proofs.Oracle.Renaming
import Mathlib.Data.List.Nodup
import Mathlib.Logic.Function.Basic
import Mathlib.Tactic.Common
import Std.Data.String.ToNat

/-!
# Arrangements of the rows

While the join of tables is shrunk every table holds every row under one of its two names, the
key of the row or the name of a key that was taken out.  Which of them it is, for every table and
every row, is the arrangement of the rows; everything about the tables is read off it.
-/

namespace JoinBench.Experiment

/-! ### The names of a row -/

/-- The name of a row in a table, which has moved the row out of the join or not. -/
def nameOf (moved : Bool) (row : Nat) : String :=
  if moved then removedKey (keyOf row) else keyOf row

theorem keyOf_inj {row other : Nat} :
  keyOf row = keyOf other ↔ row = other
  := by
  rw [keyOf, keyOf, String.append_right_inj, Nat.repr_inj]

theorem keyOf_ne_removedKey (row : Nat) (key : String) :
  keyOf row ≠ removedKey key
  := by
  intro h
  have hhead := congrArg (fun name => name.toList.head?) h
  simp [keyOf, removedKey] at hhead

theorem nameOf_inj {moved moved' : Bool} {row other : Nat} :
  nameOf moved row = nameOf moved' other ↔ moved = moved' ∧ row = other
  := by
  cases moved with
  | false =>
      cases moved' with
      | false => simp [nameOf, keyOf_inj]
      | true => simp [nameOf, keyOf_ne_removedKey]
  | true =>
      cases moved' with
      | false => simp [nameOf, (keyOf_ne_removedKey _ _).symm]
      | true =>
          simp only [nameOf, if_true, removedKey, String.append_right_inj, keyOf_inj, true_and]

/-! ### One table -/

/-- The table holds the values of the rows below `rows`, and nothing else, each under the name
that `moved` tells. -/
structure Keeps (rows : Nat) (value : Nat → String) (moved : Nat → Bool) (t : Table) : Prop where
  getElem?_iff : ∀ {key v : String},
    t[key]? = some v ↔ ∃ i < rows, key = nameOf (moved i) i ∧ v = value i

namespace Keeps

variable {rows : Nat} {value : Nat → String} {moved : Nat → Bool} {t : Table}

theorem getElem?_nameOf (h : Keeps rows value moved t) {i : Nat} (hi : i < rows) :
  t[nameOf (moved i) i]? = some (value i)
  := h.getElem?_iff.mpr ⟨i, hi, rfl, rfl⟩

theorem mem_iff (h : Keeps rows value moved t) {key : String} :
  key ∈ t ↔ ∃ i < rows, key = nameOf (moved i) i
  := by
  rw [Std.ExtTreeMap.mem_iff_isSome_getElem?, Option.isSome_iff_exists]
  constructor
  · rintro ⟨v, hv⟩
    obtain ⟨i, hi, hkey, -⟩ := h.getElem?_iff.mp hv
    use i, hi
  · rintro ⟨i, hi, rfl⟩
    use value i, h.getElem?_nameOf hi

theorem notMem_nameOf (h : Keeps rows value moved t) (i : Nat) :
  nameOf (!moved i) i ∉ t
  := by
  rw [h.mem_iff]
  rintro ⟨j, -, hname⟩
  obtain ⟨hmoved, rfl⟩ := nameOf_inj.mp hname
  cases hi : moved i <;> simp [hi] at hmoved

theorem keys_perm (h : Keeps rows value moved t) :
  t.keys.Perm ((List.range rows).map fun i => nameOf (moved i) i)
  := by
  apply (List.perm_ext_iff_of_nodup Std.ExtTreeMap.nodup_keys _).mpr
  · intro key
    rw [Std.ExtTreeMap.mem_keys, h.mem_iff]
    simp [eq_comm]
  · apply List.Nodup.map _ List.nodup_range
    intro i j hname
    exact (nameOf_inj.mp hname).2

theorem size_eq (h : Keeps rows value moved t) :
  t.size = rows
  := by
  rw [← Std.ExtTreeMap.length_keys, h.keys_perm.length_eq, List.length_map, List.length_range]

theorem empty :
  Keeps 0 value moved ∅
  := by
  constructor
  intro key v
  simp

/-- A further row is entered under its key. -/
theorem insert (h : Keeps rows value (fun _ => false) t) :
  Keeps (rows + 1) value (fun _ => false) (t.insert (keyOf rows) (value rows))
  := by
  constructor
  intro key v
  rw [Std.ExtTreeMap.getElem?_insert]
  by_cases hkey : keyOf rows = key
  · subst hkey
    rw [if_pos Std.ReflCmp.compare_self]
    constructor
    · intro hv
      cases hv
      exact ⟨rows, Nat.lt_succ_self rows, rfl, rfl⟩
    · rintro ⟨i, -, hname, rfl⟩
      obtain rfl := keyOf_inj.mp hname
      rfl
  · rw [if_neg (by simpa using hkey), h.getElem?_iff]
    constructor
    · rintro ⟨i, hi, hname⟩
      exact ⟨i, Nat.lt_succ_of_lt hi, hname⟩
    · rintro ⟨i, hi, rfl, rfl⟩
      have hne : i ≠ rows := by
        rintro rfl
        exact hkey rfl
      exact ⟨i, by omega, rfl, rfl⟩

/-- A row that is held under its key is moved out of the join. -/
theorem rename (h : Keeps rows value moved t) {i : Nat} (hi : i < rows) (hfree : moved i = false) :
  Keeps rows value (Function.update moved i true) (t.rename (keyOf i) (removedKey (keyOf i)))
  := by
  have hget : t[keyOf i]? = some (value i) := by
    have hheld := h.getElem?_nameOf hi
    rw [hfree] at hheld
    exact hheld
  constructor
  intro key v
  rw [Table.rename_eq hget, Std.ExtTreeMap.getElem?_insert, Std.ExtTreeMap.getElem?_erase]
  by_cases hremoved : removedKey (keyOf i) = key
  · subst hremoved
    rw [if_pos Std.ReflCmp.compare_self]
    constructor
    · intro hv
      cases hv
      exact ⟨i, hi, by simp [nameOf], rfl⟩
    · rintro ⟨j, -, hname, rfl⟩
      rw [show removedKey (keyOf i) = nameOf true i from rfl, nameOf_inj] at hname
      rw [hname.2]
  · rw [if_neg (by simpa using hremoved)]
    by_cases hkey : keyOf i = key
    · subst hkey
      rw [if_pos Std.ReflCmp.compare_self]
      constructor
      · intro hv
        cases hv
      · rintro ⟨j, -, hname, -⟩
        rw [show keyOf i = nameOf false i from rfl, nameOf_inj] at hname
        obtain ⟨hmoved, rfl⟩ := hname
        simp at hmoved
    · rw [if_neg (by simpa using hkey), h.getElem?_iff]
      have hother : ∀ {j : Nat}, key = nameOf (moved j) j → j ≠ i := by
        rintro j hname rfl
        rw [hfree] at hname
        exact hkey hname.symm
      have hother' : ∀ {j : Nat}, key = nameOf (Function.update moved i true j) j → j ≠ i := by
        rintro j hname rfl
        rw [Function.update_self] at hname
        exact hremoved hname.symm
      constructor
      · rintro ⟨j, hj, hname, rfl⟩
        rw [← Function.update_of_ne (hother hname) true moved] at hname
        exact ⟨j, hj, hname, rfl⟩
      · rintro ⟨j, hj, hname, rfl⟩
        rw [Function.update_of_ne (hother' hname)] at hname
        exact ⟨j, hj, hname, rfl⟩

/-- Several rows that are held under their keys are moved out of the join. -/
theorem renamed {keys : List String} (h : Keeps rows value moved t) (hnodup : keys.Nodup)
    (hkeys : ∀ key ∈ keys, ∃ i < rows, moved i = false ∧ key = keyOf i) :
  Keeps rows value (fun i => moved i || decide (keyOf i ∈ keys)) (renamed keys t)
  := by
  induction keys generalizing moved t with
  | nil =>
      simp only [List.not_mem_nil, decide_false, Bool.or_false]
      exact h
  | cons first rest ih =>
      obtain ⟨hnotMem, hrestNodup⟩ := List.nodup_cons.mp hnodup
      obtain ⟨⟨i, hi, hfree, rfl⟩, hrest⟩ := List.forall_mem_cons.mp hkeys
      have hne : ∀ {j}, keyOf j ∈ rest → j ≠ i := by
        rintro j hj rfl
        exact hnotMem hj
      have hmoved : (fun j => moved j || decide (keyOf j ∈ keyOf i :: rest))
        = fun j => Function.update moved i true j || decide (keyOf j ∈ rest) := by
        funext j
        by_cases hj : j = i
        · simp [hj]
        · simp [hj, keyOf_inj]
      rw [hmoved]
      apply ih (h.rename hi hfree) hrestNodup
      intro key hkey
      obtain ⟨j, hj, hfree, rfl⟩ := hrest key hkey
      refine ⟨j, hj, ?_, rfl⟩
      rw [Function.update_of_ne (hne hkey), hfree]

end Keeps

/-! ### All tables -/

/-- The tables, `n` of them, hold the values of the rows as the arrangement tells: `moved k i`
says whether table `k` has moved row `i` out of the join. -/
structure Arranged (n rows : Nat) (value : Nat → Nat → String) (moved : Nat → Nat → Bool)
    (tables : List Table) : Prop where
  length_eq : tables.length = n
  keeps : ∀ {k : Nat} {t : Table}, tables[k]? = some t → Keeps rows (value k) (moved k) t

/-- A row is moved by some of `n` tables, but not by all of them. -/
def IsSplit (n : Nat) (moved : Nat → Nat → Bool) (i : Nat) : Prop :=
  (∃ k < n, moved k i = true) ∧ ∃ k < n, moved k i = false

/-! ### Taking rows out of the join -/

namespace Arranged

open JoinBench.Random

variable {σ : Type} {random : Source σ} {n rows : Nat} {value : Nat → Nat → String}
  {moved : Nat → Nat → Bool} {tables : List Table}

/-- Of several rows that no table has moved each is moved by some tables, but not by all. -/
theorem removeKeys {removed : List Nat} (h : Arranged n rows value moved tables)
    (hlawful : random.Lawful) (hn : 2 ≤ n) (hnodup : removed.Nodup)
    (hremoved : ∀ i ∈ removed, i < rows) (hfree : ∀ i ∈ removed, ∀ k, moved k i = false) (s : σ) :
  ∃ moved', Arranged n rows value moved' (removeKeys random (removed.map keyOf) tables s).1
    ∧ (∀ i, i ∉ removed → ∀ k, moved' k i = moved k i) ∧ ∀ i ∈ removed, IsSplit n moved' i
  := by
  have hkeys := (List.nodup_map_iff fun _ _ => keyOf_inj.mp).mpr hnodup
  have hmem : ∀ i, keyOf i ∈ removed.map keyOf ↔ i ∈ removed := by
    intro i
    simp [keyOf_inj]
  obtain ⟨keys, hspread, hrenamed⟩ :=
    exists_removeKeys hlawful (Nat.le_trans hn (Nat.le_of_eq h.length_eq.symm)) hkeys s
  rw [h.length_eq] at hspread
  refine ⟨fun k i => moved k i || decide (keyOf i ∈ keys k), ⟨?_, ?_⟩, ?_, ?_⟩
  · rw [length_removeKeys, h.length_eq]
  · intro k t ht
    rw [hrenamed] at ht
    obtain ⟨old, hold, rfl⟩ := Option.map_eq_some_iff.mp ht
    apply (h.keeps hold).renamed ((hspread.sublist k).nodup hkeys)
    intro key hkey
    obtain ⟨i, hi, rfl⟩ := List.mem_map.mp ((hspread.sublist k).mem hkey)
    exact ⟨i, hremoved i hi, hfree i hi k, rfl⟩
  · intro i hi k
    have hnotMem : keyOf i ∉ keys k := mt (hspread.sublist k).mem (mt (hmem i).mp hi)
    simp [hnotMem]
  · intro i hi
    obtain ⟨k, hk, hmoved⟩ := hspread.exists_mem (keyOf i) ((hmem i).mpr hi)
    obtain ⟨l, hl, hkept⟩ := hspread.exists_notMem (keyOf i) ((hmem i).mpr hi)
    refine ⟨⟨k, hk, ?_⟩, l, hl, ?_⟩
    · simp [hmoved]
    · simp [hkept, hfree i hi l]

end Arranged

end JoinBench.Experiment
