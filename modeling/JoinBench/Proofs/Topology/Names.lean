import JoinBench.Lifecycle.Manager
import Mathlib.Tactic.Common
import Std.Data.String.ToNat

/-!
# Names of roles

Different roles have different names, and the name of a role with the stale suffix is the name
of no role.  So the checkpoints and the stale images of all roles are told apart by their tags,
and a base image is told apart from them where its tag is none of theirs.
-/

namespace JoinBench

namespace Role

/-- The tag of the previous checkpoint of a role while a new one is made. -/
def staleTag (role : Role) : String :=
  role.id.text ++ "-old"

theorem head?_id (role : Role) :
  role.id.text.toList.head? = some (match role with
    | source _ => 's'
    | helper => 'h'
    | receiver => 'r')
  := by
  cases role <;> simp [id]

theorem getLast?_id_ne (role : Role) :
  role.id.text.toList.getLast? ≠ some 'd'
  := by
  cases role with
  | source i =>
      intro h
      have hd : 'd' ∈ Nat.toDigits 10 i := by
        rw [id, String.toList_append, Nat.toList_repr, List.getLast?_append,
          Option.or_of_isSome (by simp)] at h
        apply List.mem_of_getLast? h
      have hdigit := Nat.isDigit_of_mem_toDigits (by decide) (by decide) hd
      revert hdigit
      decide
  | helper => decide
  | receiver => decide

theorem id_injective :
  Function.Injective Role.id
  := by
  intro role other h
  have hhead := role.head?_id
  rw [h, head?_id, Option.some_inj] at hhead
  cases role with
  | source i =>
      cases other with
      | source j =>
          have htext : "source_" ++ i.repr = "source_" ++ j.repr := congrArg RoleId.text h
          obtain rfl := Nat.repr_injective ((String.append_right_inj "source_").mp htext)
          rfl
      | helper | receiver => simp at hhead
  | helper =>
      cases other with
      | helper => rfl
      | source _ | receiver => simp at hhead
  | receiver =>
      cases other with
      | receiver => rfl
      | source _ | helper => simp at hhead

theorem text_id_inj {role other : Role} :
  role.id.text = other.id.text ↔ role = other
  := by
  constructor
  · intro h
    apply id_injective
    rw [← RoleId.mk.injEq] at h
    exact h
  · rintro rfl
    rfl

theorem text_id_ne_staleTag (role other : Role) :
  role.id.text ≠ other.staleTag
  := by
  intro h
  apply role.getLast?_id_ne
  simp [h, staleTag]

end Role

/-- The base tag is not the tag of the checkpoint or of the stale image of a role. -/
def ImageSettings.IsApartFrom (image : ImageSettings) (role : Role) : Prop :=
  image.baseTag ≠ role.id.text ∧ image.baseTag ≠ role.staleTag

/-- The base tag is the tag of no checkpoint and of no stale image. -/
def ImageSettings.IsApart (image : ImageSettings) : Prop :=
  ∀ role : Role, image.baseTag ≠ role.id.text ∧ image.baseTag ≠ role.staleTag

end JoinBench
