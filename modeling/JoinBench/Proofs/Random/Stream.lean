import JoinBench.Random.Sample
import Mathlib.Data.List.Nodup
import Mathlib.Tactic.Common

/-!
# The stream keeps its promises

Numbers drawn from the stream lie between their bounds, and each of the three methods of sampling
yields as many different numbers below the length as were asked for.
-/

namespace JoinBench.Random

open ChaCha

/-! ### Numbers between two bounds -/

theorem next_lt (s : Stream) :
  s.next.1 < wordRange
  := by
  rw [Stream.next]
  split
  · apply UInt32.toNat_lt
  · split
    · apply UInt32.toNat_lt
    · exact (by decide : 0 < wordRange)

/-- The whole part of a word times a number of values is one of the values. -/
theorem whole_lt {x range : Nat} (hx : x < wordRange) (hrange : 0 < range) :
  x * range / wordRange < range
  := by
  rw [Nat.div_lt_iff_lt_mul (by decide), Nat.mul_comm range]
  apply Nat.mul_lt_mul_of_pos_right hx hrange

/-- Where the fraction could carry, the whole part is not yet the last value. -/
theorem succ_whole_lt {x range : Nat} (hx : x < wordRange)
    (hcarry : wordRange - range < x * range % wordRange) :
  x * range / wordRange + 1 < range
  := by
  have hrange : 0 < range := by
    rw [Nat.pos_iff_ne_zero]
    rintro rfl
    simp at hcarry
  have hwhole := whole_lt hx hrange
  by_contra hlast
  have hlast : x * range / wordRange = range - 1 := by omega
  have hsplit := Nat.div_add_mod (x * range) wordRange
  rw [hlast] at hsplit
  have hle : x * range ≤ (wordRange - 1) * range := Nat.mul_le_mul_right range (by omega)
  rw [Nat.sub_mul, Nat.one_mul] at hle
  rw [Nat.mul_sub, Nat.mul_one] at hsplit
  have hbound : wordRange ≤ wordRange * range := Nat.le_mul_of_pos_right wordRange hrange
  have hbound' : range ≤ wordRange * range := Nat.le_mul_of_pos_left range (by decide)
  omega

theorem le_drawBetween (low high : Nat) (s : Stream) :
  low ≤ (drawBetween low high s).1
  := by
  simp only [drawBetween]
  split
  · rw [Nat.add_assoc]
    apply Nat.le_add_right
  · apply Nat.le_add_right

theorem drawBetween_le {low high : Nat} (h : low ≤ high) (s : Stream) :
  (drawBetween low high s).1 ≤ high
  := by
  have hx := next_lt s
  have hwhole := whole_lt hx (show 0 < high - low + 1 by omega)
  simp only [drawBetween]
  split
  · have hsucc := succ_whole_lt hx (by assumption)
    generalize s.next.1 * (high - low + 1) / wordRange = whole at hwhole hsucc ⊢
    split
    · omega
    · omega
  · generalize s.next.1 * (high - low + 1) / wordRange = whole at hwhole ⊢
    simp only
    omega

/-! ### Samples -/

/-- Different numbers below a length, so many of them. -/
structure IsSample (length amount : Nat) (drawn : List Nat) : Prop where
  length_eq : drawn.length = amount
  nodup : drawn.Nodup
  lt_of_mem : ∀ i ∈ drawn, i < length

namespace IsSample

variable {length amount : Nat} {drawn : List Nat}

theorem reverse (h : IsSample length amount drawn) :
  IsSample length amount drawn.reverse
  where
    length_eq := by rw [List.length_reverse, h.length_eq]
    nodup := List.nodup_reverse.mpr h.nodup
    lt_of_mem := by
      intro i hi
      apply h.lt_of_mem i (List.mem_reverse.mp hi)

theorem cons (h : IsSample length amount drawn) {i : Nat} (hi : i < length) (hfresh : i ∉ drawn) :
  IsSample length (amount + 1) (i :: drawn)
  where
    length_eq := by rw [List.length_cons, h.length_eq]
    nodup := List.nodup_cons.mpr ⟨hfresh, h.nodup⟩
    lt_of_mem := List.forall_mem_cons.mpr ⟨hi, h.lt_of_mem⟩

/-- A number that was drawn before leaves its place to the first number beyond the length. -/
theorem replace (h : IsSample length amount drawn) (t : Nat) :
  IsSample (length + 1) amount (drawn.map fun d => if d = t then length else d)
    ∧ (t ≤ length → t ∉ drawn.map fun d => if d = t then length else d)
  := by
  constructor
  · constructor
    · rw [List.length_map, h.length_eq]
    · apply List.Nodup.map_on _ h.nodup
      intro d hd d' hd' heq
      have hlt := h.lt_of_mem d hd
      have hlt' := h.lt_of_mem d' hd'
      split_ifs at heq <;> omega
    · intro i hi
      obtain ⟨d, hd, rfl⟩ := List.mem_map.mp hi
      have hlt := h.lt_of_mem d hd
      split_ifs <;> omega
  · intro ht hmem
    obtain ⟨d, hd, heq⟩ := List.mem_map.mp hmem
    have hlt := h.lt_of_mem d hd
    split_ifs at heq <;> omega

end IsSample

theorem isSample_drawGrowing {next k : Nat} {drawn : List Nat} (h : IsSample next k drawn)
    (amount : Nat) (s : Stream) :
  IsSample (next + amount) (k + amount) (drawGrowing next drawn amount s).1
  := by
  induction amount generalizing next k drawn s with
  | zero => exact h.reverse
  | succ amount ih =>
      have ht := drawBetween_le (Nat.zero_le next) s
      obtain ⟨hreplaced, hfresh⟩ := h.replace (drawBetween 0 next s).1
      have hstep := ih (hreplaced.cons (Nat.lt_succ_of_le ht) (hfresh ht)) (drawBetween 0 next s).2
      rw [Nat.add_assoc, Nat.add_comm 1, Nat.add_assoc, Nat.add_comm 1] at hstep
      exact hstep

theorem perm_swapForward (length i : Nat) (places : Array Nat) (amount : Nat) (s : Stream) :
  (swapForward length i places amount s).1.toList.Perm places.toList
  := by
  induction amount generalizing i places s with
  | zero => exact List.Perm.refl _
  | succ amount ih =>
      apply (ih (i + 1) (places.swapIfInBounds i (drawBetween i (length - 1) s).1)
        (drawBetween i (length - 1) s).2).trans
      rw [Array.swapIfInBounds_def]
      split_ifs
      · apply Array.Perm.toList
        apply Array.swap_perm
      · exact List.Perm.refl _
      · exact List.Perm.refl _

/-- Fewer numbers than a length leave one below it out. -/
theorem exists_notMem_of_length_lt {length : Nat} {drawn : List Nat}
    (hlength : drawn.length < length) :
  ∃ i < length, i ∉ drawn
  := by
  by_contra hall
  push Not at hall
  have hsubset : List.range length ⊆ drawn := by
    intro i hi
    apply hall i (List.mem_range.mp hi)
  have hle := List.nodup_range.length_le_of_subset hsubset
  rw [List.length_range] at hle
  omega

theorem drawFresh_spec {length : Nat} {taken : Std.ExtTreeSet Nat}
    (hfree : ∃ i < length, i ∉ taken) (rounds : Nat) (s : Stream) :
  (drawFresh length taken rounds s).1 < length ∧ (drawFresh length taken rounds s).1 ∉ taken
  := by
  induction rounds generalizing s with
  | zero =>
      rw [drawFresh]
      cases hfind : (List.range length).find? fun i => !taken.contains i with
      | none =>
          obtain ⟨i, hi, htaken⟩ := hfree
          have hno := List.find?_eq_none.mp hfind i (List.mem_range.mpr hi)
          simp [htaken] at hno
      | some i =>
          have hmem := List.mem_range.mp (List.mem_of_find?_eq_some hfind)
          have hyes := List.find?_some hfind
          use hmem
          simpa [← Std.ExtTreeSet.contains_iff_mem] using hyes
  | succ rounds ih =>
      simp only [drawFresh]
      split
      · apply ih
      · rename_i hkept
        obtain ⟨i, hi, -⟩ := hfree
        use whole_lt (next_lt s) (Nat.zero_lt_of_lt hi)
        rw [Bool.or_eq_true, not_or, Std.ExtTreeSet.contains_iff_mem] at hkept
        exact hkept.2

theorem isSample_drawDistinct {length k : Nat} {taken : Std.ExtTreeSet Nat} {drawn : List Nat}
    (h : IsSample length k drawn) (htaken : ∀ i, i ∈ taken ↔ i ∈ drawn) {amount : Nat}
    (hle : k + amount ≤ length) (s : Stream) :
  IsSample length (k + amount) (drawDistinct length taken drawn amount s).1
  := by
  induction amount generalizing k taken drawn s with
  | zero => exact h.reverse
  | succ amount ih =>
      have hfree : ∃ i < length, i ∉ taken := by
        obtain ⟨i, hi, hnotMem⟩ := exists_notMem_of_length_lt
          (show drawn.length < length by rw [h.length_eq]; omega)
        use i, hi
        rw [htaken]
        exact hnotMem
      obtain ⟨hlt, hfresh⟩ := drawFresh_spec hfree 1000 s
      have htaken' : ∀ i, i ∈ taken.insert (drawFresh length taken 1000 s).1
          ↔ i ∈ (drawFresh length taken 1000 s).1 :: drawn := by
        intro i
        rw [Std.ExtTreeSet.mem_insert, List.mem_cons, htaken, Std.LawfulEqCmp.compare_eq_iff_eq,
          eq_comm]
      have hstep := ih (h.cons hlt ((htaken _).not.mp hfresh)) htaken' (by omega)
        (drawFresh length taken 1000 s).2
      rw [Nat.add_assoc, Nat.add_comm 1] at hstep
      exact hstep

theorem isSample_drawSample {length amount : Nat} (h : amount ≤ length) (s : Stream) :
  IsSample length amount (drawSample length amount s).1
  := by
  have hnil : ∀ n, IsSample n 0 [] := by
    intro n
    refine ⟨rfl, List.nodup_nil, ?_⟩
    intro i hi
    cases hi
  rw [drawSample]
  split
  · have hsample := isSample_drawGrowing (hnil (length - amount)) amount s
    rw [Nat.sub_add_cancel h, Nat.zero_add] at hsample
    exact hsample
  · have hperm := perm_swapForward length 0 (Array.range length) amount s
    rw [Array.toList_range] at hperm
    generalize swapForward length 0 (Array.range length) amount s = swapped at hperm ⊢
    obtain ⟨places, s'⟩ := swapped
    have htake : (places.take amount).toList = places.toList.take amount := by
      simp
    show IsSample length amount (places.take amount).toList
    rw [htake]
    constructor
    · rw [List.length_take, hperm.length_eq, List.length_range, Nat.min_eq_left h]
    · apply (List.take_sublist _ _).nodup (hperm.nodup_iff.mpr List.nodup_range)
    · intro i hi
      exact List.mem_range.mp (hperm.mem_iff.mp (List.mem_of_mem_take hi))
  · have htaken : ∀ i, i ∈ (∅ : Std.ExtTreeSet Nat) ↔ i ∈ ([] : List Nat) := by
      simp
    have hsample := isSample_drawDistinct (hnil length) htaken
      (show 0 + amount ≤ length by omega) s
    rw [Nat.zero_add] at hsample
    exact hsample

/-- The stream keeps the promises of every source. -/
theorem lawful_stream :
  stream.Lawful
  where
    low_le_between := fun s _ => le_drawBetween _ _ s
    between_le_high := fun s h => drawBetween_le h s
    length_sample := fun s h => (isSample_drawSample h s).length_eq
    nodup_sample := fun s h => (isSample_drawSample h s).nodup
    lt_of_mem_sample := fun s h => (isSample_drawSample h s).lt_of_mem

end JoinBench.Random
