import JoinBench.Proofs.Topology.Roles

/-!
# Flags for roles

The name of a role can be passed as a flag, and the names of the sources of a topology can be
passed as a list, so that neither rendering flags for a role nor listing its sources fails.
-/

namespace JoinBench

theorem toNat_of_mem_of_all {cs : List Char} {c : Char} (h : c ∈ cs)
    (hall : (cs.all fun c => 48 ≤ c.toNat && c.toNat ≤ 122) = true) :
  48 ≤ c.toNat ∧ c.toNat ≤ 122
  := by
  simpa using List.all_eq_true.mp hall c h

/-- The characters of the name of a role lie between the digits and the small letters. -/
theorem Role.toNat_of_mem_id {role : Role} {c : Char} (h : c ∈ role.id.text.toList) :
  48 ≤ c.toNat ∧ c.toNat ≤ 122
  := by
  cases role with
  | source i =>
      rw [id, String.toList_append, List.mem_append, Nat.toList_repr] at h
      obtain h | h := h
      · apply toNat_of_mem_of_all h (by decide)
      · have hdigit := Nat.isDigit_of_mem_toDigits (by decide) (by decide) h
        obtain ⟨hlow, hhigh⟩ := Char.isDigit_iff_toNat.mp hdigit
        use hlow, Nat.le_trans hhigh (by decide)
  | helper | receiver => apply toNat_of_mem_of_all h (by decide)

namespace UnitFlags

/-- The flags of a role as command-line text, where its name can be passed as a flag. -/
def text (flags : UnitFlags) (role : RoleId) : String :=
  String.intercalate " " ((("id", role.text) :: flags.assigned).map fun f => flag f.1 f.2)

/-- The name of the role is the first of the flags. -/
theorem exists_text_eq (flags : UnitFlags) (role : RoleId) :
  ∃ rest, flags.text role = "-id " ++ role.text ++ rest
  := by
  have hflag : flag "id" role.text = "-id " ++ role.text := rfl
  rw [text, List.map_cons, hflag]
  by_cases hnil : flags.assigned.map (fun f => flag f.1 f.2) = []
  · use ""
    rw [hnil, String.intercalate_singleton, String.append_empty]
  · use " " ++ String.intercalate " " (flags.assigned.map fun f => flag f.1 f.2)
    rw [String.intercalate_cons_of_ne_nil hnil, String.append_assoc]

theorem isEmpty_id (role : Role) :
  role.id.text.isEmpty = false
  := by
  rw [String.isEmpty_eq_false_iff]
  intro h
  have hhead := role.head?_id
  simp [h] at hhead

theorem render_id (flags : UnitFlags) (role : Role) :
  flags.render role.id = .ok (flags.text role.id)
  := by
  have hblank : Text.hasBlank role.id.text = false := by
    rw [Text.hasBlank, List.any_eq_false]
    intro c hc
    obtain ⟨hlow, hhigh⟩ := Role.toNat_of_mem_id hc
    simp [Text.isBlank]
    omega
  rw [render, isEmpty_id, hblank]
  rfl

theorem isListable_id (role : Role) :
  isListable role.id = true
  := by
  rw [isListable, isEmpty_id, Bool.not_false, Bool.true_and, Bool.not_eq_true',
    List.any_eq_false]
  intro c hc
  obtain ⟨hlow, -⟩ := Role.toNat_of_mem_id hc
  simp only [Bool.or_eq_true, decide_eq_true_eq]
  rintro (rfl | rfl)
  · revert hlow
    decide
  · revert hlow
    decide

/-- The names of roles can be passed as a list. -/
theorem withSources_map_id (flags : UnitFlags) {roles : List Role} (h : roles ≠ []) :
  flags.withSources (roles.map Role.id) = .ok { flags with sources := some (roles.map Role.id) }
  := by
  have hempty : (roles.map Role.id).isEmpty = false := by
    simpa using h
  have hfind : (roles.map Role.id).find? (fun id => !isListable id) = Option.none := by
    rw [List.find?_eq_none]
    intro id hid
    obtain ⟨role, -, rfl⟩ := List.mem_map.mp hid
    simp [isListable_id]
  simp only [withSources, hempty, Bool.false_eq_true, if_false, hfind]

end UnitFlags

end JoinBench
