import JoinBench.Proofs.Oracle.Arrangement

/-!
# Generated tables

Whatever is drawn, the generated tables hold every row under its key, each with a value of the
source of the table and a number that was drawn for it.
-/

namespace JoinBench.Experiment

open JoinBench.Random

variable {σ : Type} {random : Source σ}

/-! ### Drawing values -/

/-- The numbers can be drawn for the values of a row. -/
def IsDrawn (sources : List RoleId) (draws : List Nat) : Prop :=
  draws.length = sources.length ∧ ∀ d ∈ draws, 1 ≤ d ∧ d ≤ maxDraw

theorem exists_drawRow (hlawful : random.Lawful) (sources : List RoleId) (s : σ) :
  ∃ draws, IsDrawn sources draws
    ∧ (drawRow random sources s).1 = List.zipWith valueOf sources draws
  := by
  induction sources generalizing s with
  | nil =>
      refine ⟨[], ⟨rfl, ?_⟩, rfl⟩
      intro d hd
      cases hd
  | cons source rest ih =>
      have hlow := hlawful.low_le_between s (show 1 ≤ maxDraw by decide)
      have hhigh := hlawful.between_le_high s (show 1 ≤ maxDraw by decide)
      obtain ⟨draws, ⟨hlength, hrange⟩, hvalues⟩ := ih (random.between 1 maxDraw s).2
      refine ⟨(random.between 1 maxDraw s).1 :: draws, ⟨?_, ?_⟩, ?_⟩
      · rw [List.length_cons, hlength, List.length_cons]
      · exact List.forall_mem_cons.mpr ⟨⟨hlow, hhigh⟩, hrange⟩
      · rw [List.zipWith_cons_cons, ← hvalues]
        rfl

theorem exists_drawRows (hlawful : random.Lawful) (sources : List RoleId)
    (drawn : List (List String)) (count : Nat) (s : σ) :
  ∃ rows : List (List Nat), rows.length = count ∧ (∀ draws ∈ rows, IsDrawn sources draws)
    ∧ (drawRows random sources drawn count s).1
      = drawn.reverse ++ rows.map (List.zipWith valueOf sources)
  := by
  induction count generalizing drawn s with
  | zero =>
      refine ⟨[], rfl, ?_, ?_⟩
      · intro draws hdraws
        cases hdraws
      · rw [List.map_nil, List.append_nil]
        rfl
  | succ count ih =>
      obtain ⟨draws, hdraws, hvalues⟩ := exists_drawRow hlawful sources s
      obtain ⟨rows, hlength, hrows, hdrawn⟩ :=
        ih ((drawRow random sources s).1 :: drawn) (drawRow random sources s).2
      refine ⟨draws :: rows, ?_, ?_, ?_⟩
      · rw [List.length_cons, hlength]
      · exact List.forall_mem_cons.mpr ⟨hdraws, hrows⟩
      · rw [List.map_cons, ← hvalues, List.append_cons, ← List.reverse_cons, ← hdrawn]
        rfl

/-! ### Entering values -/

variable {n row : Nat} {value : Nat → Nat → String} {tables : List Table}

/-- No row has been moved out of the join. -/
def noneMoved : Nat → Nat → Bool :=
  fun _ _ => false

theorem Arranged.enterRow (h : Arranged n row value noneMoved tables) {values : List String}
    (hlength : values.length = n) (hvalues : ∀ {k v}, values[k]? = some v → v = value k row) :
  Arranged n (row + 1) value noneMoved (enterRow row values tables)
  where
    length_eq := by
      rw [Experiment.enterRow, List.length_zipWith, h.length_eq, hlength, Nat.min_self]
    keeps := by
      intro k t ht
      obtain ⟨old, v, hold, hv, rfl⟩ := List.getElem?_zipWith_eq_some.mp ht
      rw [hvalues hv]
      apply (h.keeps hold).insert

theorem Arranged.enterRows (h : Arranged n row value noneMoved tables)
    {rows : List (List String)}
    (hrows : ∀ {j values}, rows[j]? = some values →
      values.length = n ∧ ∀ {k v}, values[k]? = some v → v = value k (row + j)) :
  Arranged n (row + rows.length) value noneMoved (enterRows row rows tables)
  := by
  induction rows generalizing row tables with
  | nil => exact h
  | cons values rest ih =>
      have hfirst : (values :: rest)[0]? = some values := rfl
      obtain ⟨hlength, hvalues⟩ := hrows hfirst
      rw [List.length_cons, Nat.add_comm rest.length, ← Nat.add_assoc]
      apply ih (h.enterRow hlength hvalues)
      intro j others hothers
      rw [Nat.add_assoc, Nat.add_comm 1]
      apply hrows
      rw [List.getElem?_cons_succ, hothers]

/-! ### Generated tables -/

/-- The number that was drawn for a table in a row; where none was drawn any number will do. -/
def drawAt (drawn : List (List Nat)) (k i : Nat) : Nat :=
  (((drawn[i]?).getD [])[k]?).getD 1

theorem drawAt_range {sources : List RoleId} {drawn : List (List Nat)}
    (h : ∀ draws ∈ drawn, IsDrawn sources draws) (k i : Nat) :
  1 ≤ drawAt drawn k i ∧ drawAt drawn k i ≤ maxDraw
  := by
  rw [drawAt]
  cases hrow : drawn[i]? with
  | none =>
      rw [Option.getD_none, List.getElem?_nil]
      decide
  | some draws =>
      rw [Option.getD_some]
      cases hd : draws[k]? with
      | none => decide
      | some d => apply (h draws (List.mem_of_getElem? hrow)).2 d (List.mem_of_getElem? hd)

/-- The value of a table in a row, given the numbers that were drawn. -/
def valueAt (sources : List RoleId) (draw : Nat → Nat → Nat) (k i : Nat) : String :=
  valueOf (sources.getD k ⟨""⟩) (draw k i)

theorem arranged_empty (sources : List RoleId) (value : Nat → Nat → String) :
  Arranged sources.length 0 value noneMoved (sources.map fun _ => (∅ : Table))
  where
    length_eq := List.length_map _
    keeps := by
      intro k t ht
      obtain ⟨_, -, rfl⟩ := List.getElem?_eq_some_iff.mp ht
      rw [List.getElem_map]
      apply Keeps.empty

/-- The generated tables hold every row under its key, with a value that was drawn for it. -/
theorem exists_generate (hlawful : random.Lawful) (sources : List RoleId) (rows : Nat) (s : σ) :
  ∃ draw : Nat → Nat → Nat, (∀ k i, 1 ≤ draw k i ∧ draw k i ≤ maxDraw)
    ∧ Arranged sources.length rows (valueAt sources draw) noneMoved
        (generate random sources rows s).1
  := by
  obtain ⟨drawn, hlength, hdrawn, hvalues⟩ := exists_drawRows hlawful sources [] rows s
  use drawAt drawn, drawAt_range hdrawn
  have hgenerate : (generate random sources rows s).1
    = enterRows 0 (drawn.map (List.zipWith valueOf sources)) (sources.map fun _ => ∅) := by
    rw [← List.nil_append (drawn.map _), ← List.reverse_nil, ← hvalues]
    rfl
  have hrows : rows = 0 + (drawn.map (List.zipWith valueOf sources)).length := by
    rw [List.length_map, hlength, Nat.zero_add]
  rw [hgenerate, hrows]
  apply (arranged_empty sources _).enterRows
  intro j values hj
  rw [List.getElem?_map] at hj
  obtain ⟨draws, hdraws, rfl⟩ := Option.map_eq_some_iff.mp hj
  constructor
  · rw [List.length_zipWith, (hdrawn draws (List.mem_of_getElem? hdraws)).1, Nat.min_self]
  · intro k v hv
    obtain ⟨source, d, hsource, hd, rfl⟩ := List.getElem?_zipWith_eq_some.mp hv
    rw [valueAt, drawAt, Nat.zero_add, hdraws, Option.getD_some, hd, Option.getD_some,
      List.getD_eq_getElem?_getD, hsource, Option.getD_some]

end JoinBench.Experiment
