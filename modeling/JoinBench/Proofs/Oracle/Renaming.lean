import JoinBench.Oracle.Experiment
import JoinBench.Proofs.Random.Stream
import Mathlib.Data.Multiset.ZeroCons
import Mathlib.Tactic.Common
import Mathlib.Tactic.SplitIfs

/-!
# Renaming entries

Taking keys out of the join comes down to one thing for every table: it gives new names to the
entries of some of the keys, one after the other.  Which keys these are differs from table to table,
but each of the keys is renamed by some table and kept by another.  A new name may be the key of
another entry, which is then lost.
-/

namespace JoinBench.Table

variable {t : Table} {key target : String}

/-! ### The values of a table -/

/-- The values that a table holds, each as often as it holds it. -/
def held (t : Table) : Multiset String :=
  (t.toList.map Prod.snd : List String)

theorem card_held (t : Table) :
  (held t).card = t.size
  := by
  rw [held, Multiset.coe_card, List.length_map, Std.ExtTreeMap.length_toList]

theorem nodup_toList (t : Table) :
  t.toList.Nodup
  := by
  apply List.Pairwise.imp _ Std.ExtTreeMap.distinct_keys_toList
  rintro entry _ hne rfl
  exact hne Std.ReflCmp.compare_self

/-- Tables whose entries differ in one entry differ in its value. -/
theorem held_eq_cons {t t' : Table} (entry : String × String) (hnotMem : entry ∉ t'.toList)
    (hmem : ∀ other, other ∈ t.toList ↔ other = entry ∨ other ∈ t'.toList) :
  held t = entry.2 ::ₘ held t'
  := by
  have hperm : t.toList.Perm (entry :: t'.toList) := by
    apply (List.perm_ext_iff_of_nodup t.nodup_toList _).mpr
    · intro other
      rw [hmem, List.mem_cons]
    · exact List.nodup_cons.mpr ⟨hnotMem, t'.nodup_toList⟩
  rw [held, held, Multiset.cons_coe, Multiset.coe_eq_coe]
  exact hperm.map Prod.snd

theorem held_insert (t : Table) (key value : String) :
  held (t.insert key value) = value ::ₘ held (t.erase key)
  := by
  apply held_eq_cons (key, value)
  · rw [Std.ExtTreeMap.mem_toList_iff_getElem?_eq_some, Std.ExtTreeMap.getElem?_erase_self]
    simp
  · rintro ⟨other, v⟩
    rw [Std.ExtTreeMap.mem_toList_iff_getElem?_eq_some,
      Std.ExtTreeMap.mem_toList_iff_getElem?_eq_some, Std.ExtTreeMap.getElem?_insert,
      Std.ExtTreeMap.getElem?_erase, Prod.mk.injEq]
    by_cases hother : key = other
    · simp [hother, eq_comm]
    · simp [hother, Ne.symm hother]

theorem held_eq_cons_erase {value : String} (h : t[key]? = some value) :
  held t = value ::ₘ held (t.erase key)
  := by
  apply held_eq_cons (key, value)
  · rw [Std.ExtTreeMap.mem_toList_iff_getElem?_eq_some, Std.ExtTreeMap.getElem?_erase_self]
    simp
  · rintro ⟨other, v⟩
    rw [Std.ExtTreeMap.mem_toList_iff_getElem?_eq_some,
      Std.ExtTreeMap.mem_toList_iff_getElem?_eq_some, Std.ExtTreeMap.getElem?_erase,
      Prod.mk.injEq]
    by_cases hother : key = other
    · subst hother
      simp [h, eq_comm]
    · simp [hother, Ne.symm hother]

theorem erase_of_notMem (h : key ∉ t) :
  t.erase key = t
  := by
  apply Std.ExtTreeMap.ext_getElem?
  intro other
  rw [Std.ExtTreeMap.getElem?_erase]
  split_ifs with hother
  · rw [Std.LawfulEqCmp.compare_eq_iff_eq] at hother
    subst hother
    exact (Std.ExtTreeMap.getElem?_eq_none h).symm
  · rfl

theorem held_erase_le (t : Table) (key : String) :
  held (t.erase key) ≤ held t
  := by
  by_cases hkey : key ∈ t
  · rw [held_eq_cons_erase (Std.ExtTreeMap.getElem?_eq_some_getElem hkey)]
    apply Multiset.le_cons_self
  · rw [erase_of_notMem hkey]

/-! ### One new name -/

theorem rename_eq {value : String} (h : t[key]? = some value) (target : String) :
  t.rename key target = (t.erase key).insert target value
  := by
  rw [rename, h]

theorem rename_of_notMem (h : key ∉ t) (target : String) :
  t.rename key target = t
  := by
  rw [rename, Std.ExtTreeMap.getElem?_eq_none h]

theorem mem_rename {other : String} :
  other ∈ t.rename key target ↔ (key ∈ t ∧ other = target) ∨ (other ≠ key ∧ other ∈ t)
  := by
  by_cases hkey : key ∈ t
  · rw [rename_eq (Std.ExtTreeMap.getElem?_eq_some_getElem hkey), Std.ExtTreeMap.mem_insert,
      Std.ExtTreeMap.mem_erase, Std.LawfulEqCmp.compare_eq_iff_eq, Ne,
      Std.LawfulEqCmp.compare_eq_iff_eq]
    simp [hkey, eq_comm]
  · rw [rename_of_notMem hkey]
    constructor
    · intro hother
      refine .inr ⟨?_, hother⟩
      rintro rfl
      exact hkey hother
    · rintro (⟨hmem, -⟩ | ⟨-, hother⟩)
      · exact absurd hmem hkey
      · exact hother

theorem held_rename_le (t : Table) (key target : String) :
  held (t.rename key target) ≤ held t
  := by
  by_cases hkey : key ∈ t
  · have hvalue := Std.ExtTreeMap.getElem?_eq_some_getElem hkey
    rw [rename_eq hvalue, held_insert, held_eq_cons_erase hvalue]
    apply Multiset.cons_le_cons
    apply held_erase_le
  · rw [rename_of_notMem hkey]

/-- A new name that is not yet there costs no value. -/
theorem held_rename (h : target ∉ t) (key : String) :
  held (t.rename key target) = held t
  := by
  by_cases hkey : key ∈ t
  · have hvalue := Std.ExtTreeMap.getElem?_eq_some_getElem hkey
    have hfree : target ∉ t.erase key := mt Std.ExtTreeMap.mem_of_mem_erase h
    rw [rename_eq hvalue, held_insert, held_eq_cons_erase hvalue, erase_of_notMem hfree]
  · rw [rename_of_notMem hkey]

/-- A new name that is already there costs the entry that has it. -/
theorem size_rename_lt (hkey : key ∈ t) (htarget : target ∈ t) (hne : key ≠ target) :
  (t.rename key target).size < t.size
  := by
  have hvalue := Std.ExtTreeMap.getElem?_eq_some_getElem hkey
  have hother : target ∈ t.erase key := by
    rw [Std.ExtTreeMap.mem_erase, Ne, Std.LawfulEqCmp.compare_eq_iff_eq]
    exact ⟨hne, htarget⟩
  rw [← card_held, ← card_held, rename_eq hvalue, held_insert, held_eq_cons_erase hvalue,
    held_eq_cons_erase (Std.ExtTreeMap.getElem?_eq_some_getElem hother), Multiset.card_cons,
    Multiset.card_cons, Multiset.card_cons]
  omega

end JoinBench.Table

namespace JoinBench.Experiment

open JoinBench.Random

/-! ### New names in one table -/

theorem removedKey_inj {key other : String} :
  removedKey key = removedKey other ↔ key = other
  := by
  rw [removedKey, removedKey, String.append_right_inj]

theorem ne_removedKey (key : String) :
  key ≠ removedKey key
  := by
  intro h
  have hlength := congrArg String.length h
  rw [removedKey, String.length_append] at hlength
  have hprefix : "removed_".length = 8 := rfl
  omega

/-- The table after its entries of the given keys got their new names, one after the other. -/
def renamed (keys : List String) (t : Table) : Table :=
  keys.foldl (fun t key => t.rename key (removedKey key)) t

variable {keys : List String} {t : Table} {key : String}

theorem renamed_cons (first : String) (rest : List String) (t : Table) :
  renamed (first :: rest) t = renamed rest (t.rename first (removedKey first))
  := rfl

theorem renamed_append (keys others : List String) (t : Table) :
  renamed (keys ++ others) t = renamed others (renamed keys t)
  := List.foldl_append

/-- The entries of the other keys keep their names. -/
theorem mem_renamed_of_notMem (h : key ∈ t) (hkeys : key ∉ keys) :
  key ∈ renamed keys t
  := by
  induction keys generalizing t with
  | nil => exact h
  | cons first rest ih =>
      rw [List.mem_cons, not_or] at hkeys
      apply ih _ hkeys.2
      exact Table.mem_rename.mpr (.inr ⟨hkeys.1, h⟩)

/-- A name is an old one that was kept or a new one. -/
theorem of_mem_renamed (h : key ∈ renamed keys t) :
  (key ∈ t ∧ key ∉ keys) ∨ ∃ other ∈ keys, key = removedKey other
  := by
  induction keys generalizing t with
  | nil => exact .inl ⟨h, List.not_mem_nil⟩
  | cons first rest ih =>
      obtain ⟨hmem, hrest⟩ | ⟨other, hother, hkey⟩ := ih h
      · obtain ⟨-, hkey⟩ | ⟨hne, hmem⟩ := Table.mem_rename.mp hmem
        · exact .inr ⟨first, List.mem_cons_self, hkey⟩
        · exact .inl ⟨hmem, List.not_mem_cons_of_ne_of_not_mem hne hrest⟩
      · exact .inr ⟨other, List.mem_cons_of_mem first hother, hkey⟩

theorem held_renamed_le (keys : List String) (t : Table) :
  Table.held (renamed keys t) ≤ Table.held t
  := by
  induction keys generalizing t with
  | nil => exact le_refl _
  | cons first rest ih =>
      exact le_trans (ih _) (t.held_rename_le first (removedKey first))

/-- New names that are not yet there cost no value. -/
theorem held_renamed (hnodup : keys.Nodup) (hfree : ∀ key ∈ keys, removedKey key ∉ t) :
  Table.held (renamed keys t) = Table.held t
  := by
  induction keys generalizing t with
  | nil => rfl
  | cons first rest ih =>
      obtain ⟨hnotMem, hnodup⟩ := List.nodup_cons.mp hnodup
      obtain ⟨hfirst, hrest⟩ := List.forall_mem_cons.mp hfree
      rw [renamed_cons, ih hnodup _, Table.held_rename hfirst]
      intro key hkey hmem
      obtain ⟨-, hname⟩ | ⟨-, hmem⟩ := Table.mem_rename.mp hmem
      · rw [removedKey_inj.mp hname] at hkey
        exact hnotMem hkey
      · exact hrest key hkey hmem

/-! ### New names in several tables -/

/-- The keys that are taken out of the join of `n` tables, spread over the tables: each is renamed
by some table and kept by another one. -/
structure IsSpread (n : Nat) (removed : List String) (moved : Nat → List String) : Prop where
  sublist : ∀ k, (moved k).Sublist removed
  exists_mem : ∀ key ∈ removed, ∃ k < n, key ∈ moved k
  exists_notMem : ∀ key ∈ removed, ∃ k < n, key ∉ moved k

theorem isSpread_nil (n : Nat) :
  IsSpread n [] fun _ => []
  where
    sublist := fun _ => List.Sublist.refl []
    exists_mem := List.forall_mem_nil _
    exists_notMem := List.forall_mem_nil _

/-- One more key is renamed first, by the chosen tables. -/
theorem IsSpread.cons {n : Nat} {removed : List String} {moved : Nat → List String}
    (h : IsSpread n removed moved) (hkey : key ∉ removed) {chosen : List Nat}
    (hmem : ∃ k < n, k ∈ chosen) (hnotMem : ∃ k < n, k ∉ chosen) :
  IsSpread n (key :: removed) fun k => (if k ∈ chosen then [key] else []) ++ moved k
  where
    sublist := by
      intro k
      split_ifs
      · exact (h.sublist k).cons_cons key
      · exact (h.sublist k).cons key
    exists_mem := by
      rw [List.forall_mem_cons]
      constructor
      · obtain ⟨k, hk, hchosen⟩ := hmem
        refine ⟨k, hk, ?_⟩
        simp [hchosen]
      · intro other hother
        obtain ⟨k, hk, hmoved⟩ := h.exists_mem other hother
        exact ⟨k, hk, List.mem_append_right _ hmoved⟩
    exists_notMem := by
      rw [List.forall_mem_cons]
      constructor
      · obtain ⟨k, hk, hchosen⟩ := hnotMem
        refine ⟨k, hk, ?_⟩
        rw [if_neg hchosen, List.nil_append]
        exact mt (h.sublist k).mem hkey
      · intro other hother
        obtain ⟨k, hk, hmoved⟩ := h.exists_notMem other hother
        have hne : other ≠ key := by
          rintro rfl
          exact hkey hother
        refine ⟨k, hk, ?_⟩
        split_ifs <;> simp [hne, hmoved]

theorem getElem?_foldl_modify {α : Type} (f : α → α) {chosen : List Nat} (hnodup : chosen.Nodup)
    (l : List α) (k : Nat) :
  (chosen.foldl (fun l i => l.modify i f) l)[k]? = l[k]?.map (if k ∈ chosen then f else id)
  := by
  induction chosen generalizing l with
  | nil => simp
  | cons first rest ih =>
      obtain ⟨hnotMem, hnodup⟩ := List.nodup_cons.mp hnodup
      rw [List.foldl_cons, ih hnodup, List.getElem?_modify]
      by_cases hk : first = k
      · subst hk
        simp [hnotMem]
      · simp [hk, Ne.symm hk]

section

variable {σ : Type} {random : Source σ} {tables : List Table}

/-- Taking a key out of the join lets each of the sampled tables give it another name. -/
theorem fst_removeKey (key : String) (tables : List Table) (s : σ) :
  (removeKey random key tables s).1
    = (random.sample tables.length (random.between 1 (tables.length - 1) s).1
        (random.between 1 (tables.length - 1) s).2).1.foldl
      (fun ts k => ts.modify k (·.rename key (removedKey key))) tables
  := rfl

theorem length_removeKey (key : String) (tables : List Table) (s : σ) :
  (removeKey random key tables s).1.length = tables.length
  := by
  rw [fst_removeKey]
  generalize (random.sample _ _ _).1 = chosen
  induction chosen generalizing tables with
  | nil => rfl
  | cons first rest ih => rw [List.foldl_cons, ih, List.length_modify]

/-- A key is renamed by some of the tables, but not by all. -/
theorem exists_removeKey (hlawful : random.Lawful) (hn : 2 ≤ tables.length) (key : String) (s : σ) :
  ∃ chosen : List Nat, (∃ k < tables.length, k ∈ chosen) ∧ (∃ k < tables.length, k ∉ chosen)
    ∧ ∀ k : Nat, (removeKey random key tables s).1[k]?
      = tables[k]?.map (renamed (if k ∈ chosen then [key] else []))
  := by
  have hlow := hlawful.low_le_between s (show 1 ≤ tables.length - 1 by omega)
  have hhigh := hlawful.between_le_high s (show 1 ≤ tables.length - 1 by omega)
  rw [fst_removeKey]
  generalize random.between 1 (tables.length - 1) s = drawn at hlow hhigh ⊢
  have hle : drawn.1 ≤ tables.length := Nat.le_trans hhigh (Nat.sub_le _ 1)
  have hlength := hlawful.length_sample drawn.2 hle
  have hnodup := hlawful.nodup_sample drawn.2 hle
  have hlt := hlawful.lt_of_mem_sample drawn.2 hle
  generalize (random.sample tables.length drawn.1 drawn.2).1 = chosen at hlength hnodup hlt ⊢
  refine ⟨chosen, ?_, ?_, ?_⟩
  · obtain ⟨k, hk⟩ := List.exists_mem_of_length_pos (by omega : 0 < chosen.length)
    exact ⟨k, hlt k hk, hk⟩
  · exact exists_notMem_of_length_lt (by omega)
  · intro k
    rw [getElem?_foldl_modify _ hnodup]
    congr 1
    split_ifs <;> rfl

theorem length_removeKeys (removed : List String) (tables : List Table) (s : σ) :
  (removeKeys random removed tables s).1.length = tables.length
  := by
  induction removed generalizing tables s with
  | nil => rfl
  | cons key rest ih => rw [removeKeys, ih, length_removeKey]

/-- Several keys are renamed, each by some of the tables, but not by all. -/
theorem exists_removeKeys (hlawful : random.Lawful) {removed : List String}
    (hn : 2 ≤ tables.length) (hnodup : removed.Nodup) (s : σ) :
  ∃ moved, IsSpread tables.length removed moved
    ∧ ∀ k : Nat, (removeKeys random removed tables s).1[k]? = tables[k]?.map (renamed (moved k))
  := by
  induction removed generalizing tables s with
  | nil =>
      refine ⟨fun _ => [], isSpread_nil _, ?_⟩
      intro k
      exact Option.map_id'.symm
  | cons key rest ih =>
      obtain ⟨hnotMem, hnodup⟩ := List.nodup_cons.mp hnodup
      obtain ⟨chosen, hchosen, hspared, hfirst⟩ := exists_removeKey hlawful hn key s
      have hlength : (removeKey random key tables s).1.length = tables.length :=
        length_removeKey key tables s
      obtain ⟨moved, hspread, hrest⟩ :=
        ih (Nat.le_trans hn (Nat.le_of_eq hlength.symm)) hnodup (removeKey random key tables s).2
      rw [hlength] at hspread
      refine ⟨_, hspread.cons hnotMem hchosen hspared, ?_⟩
      intro k
      rw [removeKeys, hrest, hfirst, Option.map_map]
      congr 1
      funext t
      exact (renamed_append _ _ t).symm

/-! ### Controlling the size of the join -/

/-- Different places of a list without repetitions hold different items, as many as there are
places. -/
theorem filterMap_getElem? {keys : List String} (hkeys : keys.Nodup) {chosen : List Nat}
    (hchosen : chosen.Nodup) (hlt : ∀ c ∈ chosen, c < keys.length) :
  (chosen.filterMap (keys[·]?)).length = chosen.length
    ∧ (chosen.filterMap (keys[·]?)).Nodup ∧ ∀ key ∈ chosen.filterMap (keys[·]?), key ∈ keys
  := by
  refine ⟨?_, ?_, ?_⟩
  · rw [List.length_filterMap_eq_countP, List.countP_eq_length]
    intro c hc
    rw [List.getElem?_eq_getElem (hlt c hc)]
    rfl
  · apply List.Nodup.filterMap _ hchosen
    intro c d key hc hd
    obtain ⟨hc, rfl⟩ := List.getElem?_eq_some_iff.mp hc
    obtain ⟨hd, heq⟩ := List.getElem?_eq_some_iff.mp hd
    exact (hkeys.getElem_inj_iff.mp heq).symm
  · intro key hkey
    obtain ⟨c, -, hc⟩ := List.mem_filterMap.mp hkey
    apply List.mem_of_getElem? hc

/-- Taking different items out of a list leaves the others. -/
theorem length_filter_notMem {α : Type} [DecidableEq α] {l removed : List α} (hl : l.Nodup)
    (hnodup : removed.Nodup) (hmem : ∀ a ∈ removed, a ∈ l) :
  removed.length + (l.filter (· ∉ removed)).length = l.length
  := by
  have hperm : (l.filter (· ∈ removed)).Perm removed := by
    apply (List.perm_ext_iff_of_nodup (hl.filter _) hnodup).mpr
    intro a
    rw [List.mem_filter, decide_eq_true_iff]
    exact and_iff_right_of_imp (hmem a)
  have hlength := List.length_eq_length_filter_add (l := l) (fun a => decide (a ∈ removed))
  rw [hperm.length_eq] at hlength
  simpa using hlength.symm

/-- Where there are tables and keys enough, keys are sampled from the first table. -/
theorem exists_controlJoinSize_eq {keys : List String} {joinSize : Nat} (hn : 2 ≤ tables.length)
    (hkeys : ∀ t ∈ tables, t.keys.Perm keys) (hsize : joinSize < keys.length) :
  ∃ order : List String, order.Perm keys ∧ ∀ {σ : Type} (random : Source σ) (s : σ),
    controlJoinSize random joinSize tables s
      = .ok (removeKeys random
          ((random.sample keys.length (keys.length - joinSize) s).1.filterMap (order[·]?)) tables
          (random.sample keys.length (keys.length - joinSize) s).2)
  := by
  obtain ⟨first, rest, rfl⟩ : ∃ first rest, tables = first :: rest :=
    List.exists_cons_of_length_pos (by omega)
  have hfirst := hkeys first List.mem_cons_self
  refine ⟨first.keys, hfirst, ?_⟩
  intro σ random s
  rw [← hfirst.length_eq] at hsize ⊢
  simp only [controlJoinSize, List.size_toArray, if_neg (Nat.not_le.mpr hsize),
    if_neg (Nat.not_lt.mpr hn), List.getElem?_toArray]

/-- To shrink the join, as many different keys as needed are taken out. -/
theorem exists_controlJoinSize (hlawful : random.Lawful) {keys : List String} {joinSize : Nat}
    (hn : 2 ≤ tables.length) (hkeys : ∀ t ∈ tables, t.keys.Perm keys) (hnodup : keys.Nodup)
    (hsize : joinSize < keys.length) (s : σ) :
  ∃ removed s',
    controlJoinSize random joinSize tables s = .ok (removeKeys random removed tables s')
    ∧ removed.Nodup ∧ removed.length + joinSize = keys.length ∧ ∀ key ∈ removed, key ∈ keys
  := by
  obtain ⟨order, horder, hok⟩ := exists_controlJoinSize_eq hn hkeys hsize
  have hle : keys.length - joinSize ≤ keys.length := Nat.sub_le _ joinSize
  have hlt : ∀ i ∈ (random.sample keys.length (keys.length - joinSize) s).1, i < order.length := by
    rw [horder.length_eq]
    exact hlawful.lt_of_mem_sample s hle
  obtain ⟨hcount, hdistinct, hmem⟩ :=
    filterMap_getElem? (horder.nodup_iff.mpr hnodup) (hlawful.nodup_sample s hle) hlt
  refine ⟨_, _, hok random s, hdistinct, ?_, ?_⟩
  · rw [hcount, hlawful.length_sample s hle]
    omega
  · intro key hkey
    exact horder.mem_iff.mp (hmem key hkey)

end

end JoinBench.Experiment
