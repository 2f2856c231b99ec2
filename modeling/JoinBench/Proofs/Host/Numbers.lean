import JoinBench.Proofs.Host.Ready

/-!
# Numbers of units

A host numbers the units that it launches, so that none gets the identity of another one.  However
a host is set up and whatever it is asked, it has given away all numbers that its units have; so a
further launch takes no name from it.
-/

namespace JoinBench.Host.Memory

variable {host : Memory}

/-- The numbers of all units of the host were given away. -/
def IsNumbered (host : Memory) : Prop :=
  ∀ number, unitIdOf host.id number ∈ host.units → number ≤ host.lastId

/-- No unit has the identity that is given away next. -/
theorem IsNumbered.getElem?_next (h : host.IsNumbered) :
  host.units[unitIdOf host.id (host.lastId + 1)]? = none
  := by
  apply Std.ExtTreeMap.getElem?_eq_none
  intro hmem
  exact Nat.not_succ_le_self host.lastId (h _ hmem)

/-! ### How hosts come about -/

theorem isNumbered_empty (id : HostId) (behaviour : Behaviour) :
  (empty id behaviour).IsNumbered
  := by
  intro number hmem
  exact absurd hmem Std.ExtTreeMap.not_mem_empty

theorem IsNumbered.addImage (h : host.IsNumbered) (image : ImageRef) :
  (host.addImage image).IsNumbered
  := fun number hmem => Nat.le_succ_of_le (h number hmem)

/-- A unit that was left behind has no number that a launch gives away. -/
theorem IsNumbered.addStaleUnit (h : host.IsNumbered) (name label : String) :
  (host.addStaleUnit name label).IsNumbered
  := by
  intro number hmem
  have hne : host.id.text ++ "-stale-" ++ (host.lastId + 1).repr ≠ unitIdOf host.id number := by
    intro heq
    -- The identities differ right behind the name of the host.
    rw [unitIdOf, String.append_assoc, String.append_assoc, String.append_right_inj] at heq
    have hchars := congrArg (fun text => text.toList[1]?) heq
    simp at hchars
  apply Nat.le_succ_of_le
  apply h
  obtain heq | hmem := Std.ExtTreeMap.mem_insert.mp hmem
  · exact absurd (Std.LawfulEqCmp.eq_of_compare heq) hne
  · exact hmem

theorem IsNumbered.goDownBehind (h : host.IsNumbered) (runs : Nat) :
  (host.goDownBehind runs).IsNumbered
  := h

theorem IsNumbered.withUnit (h : host.IsNumbered) (spec : LaunchSpec) :
  (host.withUnit spec).IsNumbered
  := by
  intro number hmem
  have hid : (host.withUnit spec).id = host.id := rfl
  rw [hid, Memory.withUnit, Std.ExtTreeMap.mem_insert, Std.LawfulEqCmp.compare_eq_iff_eq,
    unitIdOf_inj] at hmem
  obtain rfl | hmem := hmem
  · exact Nat.le_refl _
  · exact Nat.le_succ_of_le (h number hmem)

/-- Whatever it is asked, a host has given away the numbers of its units. -/
theorem IsNumbered.answer (h : host.IsNumbered) (r : Request) :
  (host.answer r).2.IsNumbered
  := by
  cases r with
  | list | wait | logs | follow | removeImage => exact h
  | launch spec =>
      rw [Memory.answer]
      obtain ⟨e, hlaunch⟩ | ⟨-, -, hlaunch⟩ := launch_cases spec host
      · rw [hlaunch]
        exact h
      · rw [hlaunch]
        exact h.withUnit spec
  | remove unitId force =>
      intro number hmem
      exact h number (Std.ExtTreeMap.mem_of_mem_erase hmem)
  | tag source target =>
      simp only [Memory.answer]
      split
      · exact h
      · exact h
  | commit unit target =>
      simp only [Memory.answer]
      split_ifs
      · exact h.addImage target
      · exact h

/-- The host was set up and asked, in any order. -/
inductive Arises : Memory → Prop where
  | empty (id : HostId) (behaviour : Behaviour) : Arises (Memory.empty id behaviour)
  | addImage {host : Memory} (h : Arises host) (image : ImageRef) : Arises (host.addImage image)
  | addStaleUnit {host : Memory} (h : Arises host) (name label : String) :
    Arises (host.addStaleUnit name label)
  | goDownBehind {host : Memory} (h : Arises host) (runs : Nat) : Arises (host.goDownBehind runs)
  | answer {host : Memory} (h : Arises host) (r : Request) : Arises (host.answer r).2

theorem Arises.isNumbered (h : host.Arises) :
  host.IsNumbered
  := by
  induction h with
  | empty id behaviour => exact isNumbered_empty id behaviour
  | addImage _ image ih => exact ih.addImage image
  | addStaleUnit _ name label ih => exact ih.addStaleUnit name label
  | goDownBehind _ runs ih => exact ih.goDownBehind runs
  | answer _ r ih => exact ih.answer r

/-! ### Names -/

/-- A launch only takes its own name. -/
theorem IsNumbered.hasName_withUnit (h : host.IsNumbered) {spec : LaunchSpec} {name : String}
    (hname : spec.name ≠ name) :
  (host.withUnit spec).hasName name = host.hasName name
  := by
  rw [Bool.eq_iff_iff, hasName_iff, hasName_iff]
  constructor
  · rintro ⟨unitId, u, hu, rfl⟩
    rw [Memory.withUnit, Std.ExtTreeMap.getElem?_insert] at hu
    split_ifs at hu with hid
    · cases hu
      exact absurd rfl hname
    · exact ⟨unitId, u, hu, rfl⟩
  · rintro ⟨unitId, u, hu, rfl⟩
    refine ⟨unitId, u, ?_, rfl⟩
    rw [Memory.withUnit, Std.ExtTreeMap.getElem?_insert]
    split_ifs with hid
    · rw [Std.LawfulEqCmp.compare_eq_iff_eq] at hid
      rw [← hid, h.getElem?_next] at hu
      cases hu
    · exact hu

end JoinBench.Host.Memory
