import JoinBench.Proofs.Environment

/-!
# The points of a grid

A grid combines every number of sources with every pair of sizes, and repeats each combination.  So
what a point combines can be read off its position, which counts repetitions first, then pairs, then
numbers of sources.  Starting again at a number leaves out the points in front of it, and changes
none of the others.
-/

namespace JoinBench

/-- In a list of parts of one length a position tells the part and the position in it. -/
theorem getElem?_flatMap_of_length {α β : Type} {n : Nat} (hn : 0 < n) {f : α → List β}
    (hf : ∀ a, (f a).length = n) (l : List α) (i : Nat) :
  (l.flatMap f)[i]? = l[i / n]?.bind fun a => (f a)[i % n]?
  := by
  induction l generalizing i with
  | nil => rfl
  | cons a rest ih =>
      rw [List.flatMap_cons]
      obtain hlt | hle := Nat.lt_or_ge i n
      · rw [List.getElem?_append_left (by rw [hf]; exact hlt), Nat.div_eq_of_lt hlt,
          Nat.mod_eq_of_lt hlt]
        rfl
      · rw [List.getElem?_append_right (by rw [hf]; exact hle), hf, ih, Nat.div_eq_sub_div hn hle,
          Nat.mod_eq_sub_mod hle, List.getElem?_cons_succ]

theorem length_flatMap_of_length {α β : Type} {n : Nat} {f : α → List β}
    (hf : ∀ a, (f a).length = n) (l : List α) :
  (l.flatMap f).length = l.length * n
  := by
  simp [List.length_flatMap, hf]

namespace Grid

variable {grid : Grid} {points : List Point} {i : Nat}

/-- What the point at a position is. -/
structure IsPointAt (grid : Grid) (i : Nat) (point : Point) : Prop where
  index_eq : point.index = i
  seed_eq : point.seed = i
  number_eq : point.number = i + 1
  nSources_eq : grid.nSources[i / (grid.setSize.length * grid.rep)]? = some point.nSources
  setSize_eq : grid.setSize[i / grid.rep % grid.setSize.length]? = some point.setSize
  joinSize_eq : grid.joinSize[i / grid.rep % grid.setSize.length]? = some point.joinSize
  rep_eq : point.rep = i % grid.rep

/-- The repetitions of a pair of sizes. -/
def repetitions (grid : Grid) (nSources : Nat) (sizes : Nat × Nat) :
    List (Nat × Nat × Nat × Nat) :=
  (List.range grid.rep).map fun rep => (nSources, sizes.1, sizes.2, rep)

theorem combinations_eq (grid : Grid) :
  grid.combinations = grid.nSources.flatMap fun nSources =>
    (grid.setSize.zip grid.joinSize).flatMap (grid.repetitions nSources)
  := rfl

theorem length_repetitions (nSources : Nat) (sizes : Nat × Nat) :
  (grid.repetitions nSources sizes).length = grid.rep
  := by
  simp [repetitions]

section Paired

variable (h : grid.setSize.length = grid.joinSize.length)
include h

theorem length_zip_eq :
  (grid.setSize.zip grid.joinSize).length = grid.setSize.length
  := by
  simp [← h]

theorem length_flatMap_repetitions (nSources : Nat) :
  ((grid.setSize.zip grid.joinSize).flatMap (grid.repetitions nSources)).length
    = grid.setSize.length * grid.rep
  := by
  rw [length_flatMap_of_length (length_repetitions nSources), length_zip_eq h]

theorem length_combinations :
  grid.combinations.length = grid.nSources.length * grid.setSize.length * grid.rep
  := by
  rw [combinations_eq, length_flatMap_of_length (length_flatMap_repetitions h), Nat.mul_assoc]

theorem getElem?_combinations
    (hi : i < grid.nSources.length * grid.setSize.length * grid.rep) :
  grid.combinations[i]?
    = grid.nSources[i / (grid.setSize.length * grid.rep)]?.bind fun nSources =>
      (grid.setSize.zip grid.joinSize)[i / grid.rep % grid.setSize.length]?.bind fun sizes =>
        some (nSources, sizes.1, sizes.2, i % grid.rep)
  := by
  have hrep : 0 < grid.rep := Nat.pos_of_lt_mul_left hi
  have hpart : 0 < grid.setSize.length * grid.rep := by
    rw [Nat.mul_assoc] at hi
    exact Nat.pos_of_lt_mul_left hi
  rw [combinations_eq, getElem?_flatMap_of_length hpart (length_flatMap_repetitions h)]
  congr 1
  funext nSources
  rw [getElem?_flatMap_of_length hrep (length_repetitions nSources), Nat.mod_mul_left_div_self,
    Nat.mod_mul_left_mod]
  congr 1
  funext sizes
  simp [repetitions, Nat.mod_lt i hrep]

theorem points_eq :
  grid.points = .ok (grid.combinations.mapIdx fun index c =>
    ⟨index, c.1, c.2.1, c.2.2.1, c.2.2.2⟩)
  := by
  rw [points, if_neg (not_not.mpr h)]

end Paired

theorem points_eq_error (h : grid.setSize.length ≠ grid.joinSize.length) :
  grid.points = .error (.config (.unpairedSizes grid.setSize.length grid.joinSize.length))
  := if_pos h

/-- The points of a grid are as many as there are combinations, and each tells its own. -/
theorem points_eq_ok (h : grid.points = .ok points) :
  points.length = grid.nSources.length * grid.setSize.length * grid.rep
    ∧ ∀ i (hi : i < points.length), grid.IsPointAt i points[i]
  := by
  have hpaired : grid.setSize.length = grid.joinSize.length := by
    by_contra hne
    rw [points_eq_error hne] at h
    cases h
  rw [points_eq hpaired] at h
  cases h
  have hlength := length_combinations hpaired
  refine ⟨by rw [List.length_mapIdx, hlength], ?_⟩
  intro i hi
  rw [List.length_mapIdx] at hi
  have hget := getElem?_combinations hpaired (hlength ▸ hi)
  rw [List.getElem?_eq_getElem hi] at hget
  obtain ⟨nSources, hsources, hget⟩ := Option.bind_eq_some_iff.mp hget.symm
  obtain ⟨⟨setSize, joinSize⟩, hsizes, hget⟩ := Option.bind_eq_some_iff.mp hget
  obtain ⟨hset, hjoin⟩ := List.getElem?_zip_eq_some.mp hsizes
  rw [List.getElem_mapIdx, ← Option.some_inj.mp hget]
  exact ⟨rfl, rfl, rfl, hsources, hset, hjoin, rfl⟩

end Grid

/-! ### Starting again -/

/-- Of points that are numbered one after the other those in front of a number are left out. -/
theorem resumeFrom_eq_drop {points : List Point} {start : Nat}
    (h : ∀ i (hi : i < points.length), points[i].index = start + i) (skipTo : Nat) :
  resumeFrom points skipTo = points.drop (skipTo - 1 - start)
  := by
  induction points generalizing start with
  | nil => simp [resumeFrom]
  | cons point rest ih =>
      have hindex : point.index = start := h 0 (Nat.succ_pos _)
      have hrest : resumeFrom rest skipTo = rest.drop (skipTo - 1 - (start + 1)) := by
        apply ih
        intro i hi
        rw [Nat.add_right_comm]
        exact h (i + 1) (Nat.succ_lt_succ hi)
      rw [resumeFrom, List.filter_cons, ← resumeFrom, hrest, Point.number, hindex]
      simp only [decide_eq_true_eq]
      split_ifs with hkeep
      · have hnone : skipTo - 1 - start = 0 := by omega
        have hnone' : skipTo - 1 - (start + 1) = 0 := by omega
        rw [hnone, hnone', List.drop_zero, List.drop_zero]
      · have hskip : skipTo - 1 - start = skipTo - 1 - (start + 1) + 1 := by omega
        rw [hskip, List.drop_succ_cons]

/-! ### Plans -/

theorem map_find?_eq_lookup {α : Type} (l : List (String × α)) (name : String) :
  (l.find? (·.1 = name)).map (·.2) = l.lookup name
  := by
  induction l with
  | nil => rfl
  | cons entry rest ih =>
      rw [List.find?_cons, List.lookup_cons, ← ih]
      by_cases heq : entry.1 = name
      · simp [heq]
      · have hne : (name == entry.1) = false := beq_false_of_ne (Ne.symm heq)
        simp [heq, hne]

namespace Environment

variable {env : Environment} {name : String} {grid : Grid}

/-- The grid that a name selects: that of the environment, or else one that is always there. -/
inductive Selects (env : Environment) (name : String) : Grid → Prop where
  | own {grid : Grid} (h : env.grids.lookup name = some grid) : Selects env name grid
  | builtin {grid : Grid} (hown : name ∉ env.grids.map (·.1))
    (h : Grid.builtins.lookup name = some grid) : Selects env name grid

theorem grid?_eq (env : Environment) (name : String) :
  env.grid? name = (env.grids.lookup name).or (Grid.builtins.lookup name)
  := by
  rw [grid?, Grid.builtin?, map_find?_eq_lookup, map_find?_eq_lookup]

theorem lookup_eq_none_iff {α : Type} {l : List (String × α)} :
  l.lookup name = none ↔ name ∉ l.map (·.1)
  := by
  rw [← map_find?_eq_lookup, Option.map_eq_none_iff, List.find?_eq_none]
  simp only [List.mem_map, decide_eq_true_eq, not_exists, not_and]

theorem grid?_eq_some_iff :
  env.grid? name = some grid ↔ env.Selects name grid
  := by
  rw [grid?_eq, Option.or_eq_some_iff, lookup_eq_none_iff]
  constructor
  · rintro (hown | ⟨hown, hbuiltin⟩)
    · exact .own hown
    · exact .builtin hown hbuiltin
  · rintro (hown | ⟨hown, hbuiltin⟩)
    · exact .inl hown
    · exact .inr ⟨hown, hbuiltin⟩

theorem grid?_eq_none_iff :
  env.grid? name = none ↔ name ∉ env.grids.map (·.1) ∧ name ∉ Grid.builtins.map (·.1)
  := by
  rw [grid?_eq, Option.or_eq_none_iff, lookup_eq_none_iff, lookup_eq_none_iff]

theorem plan_eq_error_iff {skipTo : Nat} {e : Error} :
  env.plan name skipTo = .error e
    ↔ ((name ∉ env.grids.map (·.1) ∧ name ∉ Grid.builtins.map (·.1))
        ∧ e = .config (.unknownGrid name env.gridNames))
      ∨ ∃ grid, env.Selects name grid ∧ grid.setSize.length ≠ grid.joinSize.length
        ∧ e = .config (.unpairedSizes grid.setSize.length grid.joinSize.length)
  := by
  simp only [← grid?_eq_none_iff, ← grid?_eq_some_iff]
  rw [plan]
  cases env.grid? name with
  | none => simp [eq_comm]
  | some grid =>
      by_cases hpaired : grid.setSize.length = grid.joinSize.length
      · simp [Grid.points_eq hpaired, Except.map, hpaired]
      · simp [Grid.points_eq_error hpaired, Except.map, hpaired, eq_comm]

/-- A plan fails just if its name selects no grid, or one whose sizes do not make pairs.  Otherwise
there are the points of the grid, and a plan leaves out those in front of the number from which it
starts again. -/
theorem plan_eq_drop (env : Environment) (name : String) :
  (∀ skipTo e, env.plan name skipTo = .error e
    ↔ ((name ∉ env.grids.map (·.1) ∧ name ∉ Grid.builtins.map (·.1))
        ∧ e = .config (.unknownGrid name env.gridNames))
      ∨ ∃ grid, env.Selects name grid ∧ grid.setSize.length ≠ grid.joinSize.length
        ∧ e = .config (.unpairedSizes grid.setSize.length grid.joinSize.length))
  ∧ ∀ grid, env.Selects name grid → grid.setSize.length = grid.joinSize.length →
    ∃ points : List Point,
      points.length = grid.nSources.length * grid.setSize.length * grid.rep
      ∧ (∀ i (hi : i < points.length), grid.IsPointAt i points[i])
      ∧ ∀ skipTo, env.plan name skipTo = .ok (points.drop (max skipTo 1 - 1))
  := by
  refine ⟨fun _ _ => plan_eq_error_iff, ?_⟩
  intro grid hselects hpaired
  have hpoints := Grid.points_eq hpaired
  obtain ⟨hlength, hat⟩ := Grid.points_eq_ok hpoints
  refine ⟨_, hlength, hat, ?_⟩
  intro skipTo
  have hnumbered : max skipTo 1 - 1 = skipTo - 1 - 0 := by omega
  rw [plan, grid?_eq_some_iff.mpr hselects, hnumbered, ← resumeFrom_eq_drop]
  · simp only [hpoints, Except.map]
  · intro i hi
    rw [(hat i hi).index_eq, Nat.zero_add]

/-- An environment with a grid of its own under the name of one that is always there. -/
def shadowing : Environment :=
  { usual with grids := [("light", ⟨[2, 3, 2], [10, 5], [8, 4], 2⟩)] }

theorem plan_eq_drop_shadowing :
  shadowing.Selects "light" ⟨[2, 3, 2], [10, 5], [8, 4], 2⟩
    ∧ (∃ points : List Point, points.length = 12
      ∧ (∀ i (hi : i < points.length),
        Grid.IsPointAt ⟨[2, 3, 2], [10, 5], [8, 4], 2⟩ i points[i])
      ∧ shadowing.plan "light" 0 = .ok points ∧ shadowing.plan "light" 8 = .ok (points.drop 7))
    ∧ shadowing.plan "huge" 0
      = .error (.config (.unknownGrid "huge" ["light", "full", "genmpc_comp"]))
  := by
  have hselects : shadowing.Selects "light" ⟨[2, 3, 2], [10, 5], [8, 4], 2⟩ := .own rfl
  obtain ⟨points, hlength, hat, hplan⟩ := (plan_eq_drop shadowing "light").2 _ hselects rfl
  refine ⟨hselects, ⟨points, hlength, hat, hplan 0, hplan 8⟩, ?_⟩
  exact ((plan_eq_drop shadowing "huge").1 0 _).mpr (.inl ⟨by decide, rfl⟩)

end Environment

end JoinBench
