import JoinBench.Proofs.Lifecycle.Invariant
import JoinBench.Proofs.Lifecycle.Stocked
import JoinBench.Proofs.Program.Interleaving

/-!
# Commits that are cut off

Units that are committed together make their requests in any order, and all of them may be cut off
at any moment.  A commit keeps the previous checkpoint under the stale tag, makes the new one,
removes the unit and drops the stale tag, and it touches the tags of no other role and no other
unit.  So wherever commits are cut off, every role has a checkpoint, and what its unit has done is
lost from its host only once it is part of the checkpoint.
-/

namespace JoinBench

open Host Program

/-! ### Rules for single actions -/

namespace Story

variable {Φ α : Type} {tells : Φ → Story → Prop} {touches : Story → Story → Prop} {φ : Φ}

/-- What is seen behind an action. -/
theorem see_recording (action : Action) (calls : List (Action × World Cluster))
    (w : World Cluster) :
  outlook.see (outlook.handle action (calls, w)).2
    = ⟨(World.answering action w).2.scene,
      Deed.ofCalls calls ++ (Deed.of? action w.scene).toList⟩
  := by
  have hdeeds : Deed.ofCalls (calls ++ [(action, w)])
      = Deed.ofCalls calls ++ (Deed.of? action w.scene).toList := by
    rw [Deed.ofCalls, List.filterMap_append, List.filterMap_cons, List.filterMap_nil]
    cases Deed.of? action w.scene <;> rfl
  rw [← hdeeds]
  rfl

/-- A request is answered by the host of its name. -/
theorem proceeds_ask {id : HostId} {request : Request} {f : request.Answer → Except Error α}
    {Q : Except Error α → Φ → Prop}
    (h : ∀ st, tells φ st → ∃ host, st.scene.hosts id = some host
      ∧ touches st ⟨st.scene.setHost id (host.answer request).2,
        st.deeds ++ (Deed.of? (.ask id request) st.scene).toList⟩
      ∧ ∃ φ', tells φ' ⟨st.scene.setHost id (host.answer request).2,
          st.deeds ++ (Deed.of? (.ask id request) st.scene).toList⟩
        ∧ Q (f (host.answer request).1) φ') :
  (Job.perform (.ask id request) >>= fun x => .ofExcept (f x)).Proceeds outlook tells touches φ Q
  := by
  rintro ⟨calls, w⟩ x s' htells hanswer
  obtain ⟨host, hhost, htouches, φ', htells', hQ⟩ := h _ htells
  obtain ⟨hosts, hw, hscene⟩ := World.exists_answering_ask hhost request
  have hsee := see_recording (.ask id request) calls w
  rw [hanswer, hw, hscene] at hsee
  have hx : (World.answering (.ask id request) w).1 = some x := congrArg Prod.fst hanswer
  rw [hw] at hx
  obtain rfl := Option.some_inj.mp hx
  rw [hsee]
  refine ⟨htouches, φ', htells', ?_⟩
  exact proceeds_ofExcept hQ

/-- An action that is no deed stays in its phase, if what the phase tells is still true. -/
theorem proceeds_perform {action : Action} (hquiet : action.IsQuiet)
    {Q : Except Error action.Answer → Φ → Prop}
    (h : ∀ w deeds, tells φ ⟨w.scene, deeds⟩ →
      touches ⟨w.scene, deeds⟩ ⟨(World.answering action w).2.scene, deeds⟩
        ∧ tells φ ⟨(World.answering action w).2.scene, deeds⟩)
    (hQ : ∀ x, Q (.ok x) φ) :
  (Job.perform action).Proceeds outlook tells touches φ Q
  := by
  rintro ⟨calls, w⟩ x s' htells hanswer
  have hsee := see_recording action calls w
  rw [hanswer, Deed.of?_eq_none hquiet, Option.toList_none, List.append_nil] at hsee
  rw [hsee]
  obtain ⟨htouches, htells'⟩ := h w (Deed.ofCalls calls) htells
  exact ⟨htouches, φ, htells', hQ x⟩

theorem proceeds_stateOf {role : Role} {Q : Except Error UnitState → Φ → Prop}
    (hrefl : ∀ st, touches st st) (hQ : ∀ state, Q (.ok state) φ) :
  (Job.stateOf role).Proceeds outlook tells touches φ Q
  := by
  have hquiet : (Action.stateOf role).IsQuiet := trivial
  apply proceeds_perform hquiet _ hQ
  exact fun w deeds htells => ⟨hrefl _, htells⟩

theorem proceeds_log {level : Level} {message : String} {Q : Except Error Unit → Φ → Prop}
    (hrefl : ∀ st, touches st st) (hQ : Q (.ok ()) φ) :
  (Job.log level message).Proceeds outlook tells touches φ Q
  := by
  have hquiet : (Action.log (.of level message)).IsQuiet := trivial
  apply proceeds_perform hquiet _ fun _ => hQ
  exact fun w deeds htells => ⟨hrefl _, htells⟩

theorem proceeds_setState {role : Role} {state : UnitState} {Q : Except Error Unit → Φ → Prop}
    (h : ∀ st, tells φ st →
      touches st (st.setState role state) ∧ tells φ (st.setState role state))
    (hQ : Q (.ok ()) φ) :
  (Job.setState role state).Proceeds outlook tells touches φ Q
  := by
  have hquiet : (Action.setState role state).IsQuiet := trivial
  apply proceeds_perform hquiet _ fun _ => hQ
  intro w deeds htells
  have hscene : (World.answering (.setState role state) w).2.scene
      = w.scene.setState role state := World.scene_setState w role state
  rw [hscene]
  exact h _ htells

end Story

namespace Manager

/-! ### Commits that are under way -/

/-- A unit that is being committed: its role, and the image that was the checkpoint before. -/
structure Pending where
  role : Role
  unit : UnitHandle
  old : Nat
deriving Inhabited

/-- How far a commit has come. -/
inductive Phase where
  /-- The host is as it was. -/
  | whole
  /-- The checkpoint is kept under the stale tag as well. -/
  | kept
  /-- A new image is the checkpoint. -/
  | replaced (image : Nat)
  /-- The unit is gone. -/
  | removed (image : Nat)
  /-- The stale tag is gone. -/
  | settled (image : Nat)

namespace Phase

/-- The image that was made of the unit. -/
def image? : Phase → Option Nat
  | whole => none
  | kept => none
  | replaced image => some image
  | removed image => some image
  | settled image => some image

/-- Whether the previous checkpoint is under the stale tag. -/
def hasStale : Phase → Bool
  | whole => false
  | settled _ => false
  | _ => true

/-- Whether the unit is there. -/
def hasUnit : Phase → Bool
  | removed _ => false
  | settled _ => false
  | _ => true

end Phase

namespace Pending

variable {m : Manager} {c other : Pending} {phase : Phase} {host host' : Memory} {st st' : Story}

/-- What a phase tells of the host. -/
structure Stands (m : Manager) (c : Pending) (phase : Phase) (host : Memory) : Prop where
  checkpoint_eq : host.images[m.checkpoint c.role]? = some (phase.image?.getD c.old)
  stale_eq : phase.hasStale = true → host.images[m.stale c.role]? = some c.old
  exists_unit : phase.hasUnit = true →
    ∃ u, host.units[c.unit.unitId]? = some u ∧ u.result.status = 0
  unit_notMem : phase.hasUnit = false → c.unit.unitId ∉ host.units

/-- The deed that makes an image of the unit the checkpoint of its role. -/
def deed (m : Manager) (c : Pending) (image : Nat) : Deed :=
  .committed ⟨c.unit.host, c.unit, 0, m.checkpoint c.role, some image⟩

/-- What a phase tells. -/
structure Tells (m : Manager) (c : Pending) (phase : Phase) (st : Story) : Prop where
  exists_host : ∃ host, st.scene.hosts c.unit.host = some host ∧ c.Stands m phase host
  deed_mem : ∀ image, phase.image? = some image → c.deed m image ∈ st.deeds

/-- Of a host only the tags of the role and the unit are different. -/
structure TouchesHost (m : Manager) (c : Pending) (host host' : Memory) : Prop where
  images_eq : ∀ ref, ref ≠ m.checkpoint c.role → ref ≠ m.stale c.role →
    host'.images[ref]? = host.images[ref]?
  units_eq : ∀ unitId, unitId ≠ c.unit.unitId → host'.units[unitId]? = host.units[unitId]?

/-- Only the state of the role, and its tags and the unit on the host of the unit are different. -/
structure TouchesScene (m : Manager) (c : Pending) (sc sc' : Scene) : Prop where
  states_eq : ∀ role, role ≠ c.role → sc'.states role = sc.states role
  hosts_eq : ∀ id, id ≠ c.unit.host → sc'.hosts id = sc.hosts id
  exists_host : ∀ host, sc.hosts c.unit.host = some host →
    ∃ host', sc'.hosts c.unit.host = some host' ∧ c.TouchesHost m host host'

/-- What the calls of a commit may do to a story. -/
structure Touches (m : Manager) (c : Pending) (st st' : Story) : Prop where
  scene : c.TouchesScene m st.scene st'.scene
  deeds_subset : st.deeds ⊆ st'.deeds

theorem TouchesHost.refl (host : Memory) :
  c.TouchesHost m host host
  := ⟨fun _ _ _ => rfl, fun _ _ => rfl⟩

theorem Touches.refl (st : Story) :
  c.Touches m st st
  := ⟨⟨fun _ _ => rfl, fun _ _ => rfl, fun host hhost => ⟨host, hhost, .refl host⟩⟩,
    List.Subset.refl _⟩

theorem TouchesHost.touches_setHost (h : c.TouchesHost m host host')
    (hhost : st.scene.hosts c.unit.host = some host) (deeds : List Deed) :
  c.Touches m st ⟨st.scene.setHost c.unit.host host', st.deeds ++ deeds⟩
  where
    deeds_subset := List.subset_append_left _ _
    scene := by
      constructor
      · intro role _
        rfl
      · intro id hid
        rw [Scene.hosts_setHost, Function.update_of_ne hid]
      · intro found hfound
        obtain rfl := Option.some_inj.mp (hhost.symm.trans hfound)
        exact ⟨host', Scene.hosts_setHost_self _ _ _, h⟩

/-- Two commits are apart if their roles are different, and on one host so are their units. -/
structure IsApartFrom (c other : Pending) : Prop where
  role_ne : c.role ≠ other.role
  unitId_ne : c.unit.host = other.unit.host → c.unit.unitId ≠ other.unit.unitId

/-- What a phase tells is not touched by a commit that is apart. -/
theorem Stands.of_touchesHost (h : c.Stands m phase host) (hrole : c.role ≠ other.role)
    (hunit : c.unit.unitId ≠ other.unit.unitId) (htouches : other.TouchesHost m host host') :
  c.Stands m phase host'
  := by
  have hcheckpoint : host'.images[m.checkpoint c.role]? = host.images[m.checkpoint c.role]? := by
    apply htouches.images_eq
    · rw [Ne, checkpoint_inj]
      exact hrole
    · exact (stale_ne_checkpoint m other.role c.role).symm
  have hstale : host'.images[m.stale c.role]? = host.images[m.stale c.role]? := by
    apply htouches.images_eq
    · exact stale_ne_checkpoint m c.role other.role
    · rw [Ne, stale_inj]
      exact hrole
  have hunits := htouches.units_eq c.unit.unitId hunit
  constructor
  · rw [hcheckpoint]
    exact h.checkpoint_eq
  · rw [hstale]
    exact h.stale_eq
  · rw [hunits]
    exact h.exists_unit
  · rw [Std.ExtTreeMap.mem_iff_isSome_getElem?, hunits, ← Std.ExtTreeMap.mem_iff_isSome_getElem?]
    exact h.unit_notMem

theorem Tells.of_touches (h : c.Tells m phase st) (hapart : c.IsApartFrom other)
    (htouches : other.Touches m st st') :
  c.Tells m phase st'
  where
    deed_mem := fun image himage => htouches.deeds_subset (h.deed_mem image himage)
    exists_host := by
      obtain ⟨host, hhost, hstands⟩ := h.exists_host
      by_cases hsame : c.unit.host = other.unit.host
      · rw [hsame] at hhost ⊢
        obtain ⟨host', hhost', htouchesHost⟩ := htouches.scene.exists_host host hhost
        exact ⟨host', hhost',
          hstands.of_touchesHost hapart.role_ne (hapart.unitId_ne hsame) htouchesHost⟩
      · rw [htouches.scene.hosts_eq _ hsame]
        exact ⟨host, hhost, hstands⟩

/-! ### The requests of a commit -/

section Requests

variable {α : Type} {request : Request}

/-- A request to the host of the unit leads to a phase that tells the truth. -/
theorem proceeds_request {f : request.Answer → Except Error α} {Q : Except Error α → Phase → Prop}
    (h : ∀ sc host, sc.hosts c.unit.host = some host → c.Stands m phase host →
      c.TouchesHost m host (host.answer request).2
        ∧ ∃ phase', c.Stands m phase' (host.answer request).2
          ∧ (∀ image, phase'.image? = some image → phase.image? = some image
            ∨ Deed.of? (.ask c.unit.host request) sc = some (c.deed m image))
          ∧ Q (f (host.answer request).1) phase') :
  (Job.perform (.ask c.unit.host request) >>= fun x => .ofExcept (f x)).Proceeds Story.outlook
    (c.Tells m) (c.Touches m) phase Q
  := by
  apply Story.proceeds_ask
  intro st htells
  obtain ⟨host, hhost, hstands⟩ := htells.exists_host
  obtain ⟨htouches, phase', hstands', hdeed, hQ⟩ := h st.scene host hhost hstands
  refine ⟨host, hhost, htouches.touches_setHost hhost _, phase', ⟨?_, ?_⟩, hQ⟩
  · exact ⟨_, Scene.hosts_setHost_self _ _ _, hstands'⟩
  · intro image himage
    rw [List.mem_append]
    obtain hold | hnew := hdeed image himage
    · exact .inl (htells.deed_mem image hold)
    · rw [hnew]
      exact .inr (List.mem_singleton_self _)

theorem proceeds_wait (hunit : phase.hasUnit = true) {Q : Except Error Int → Phase → Prop}
    (hQ : Q (.ok 0) phase) :
  (Job.wait c.unit.host c.unit).Proceeds Story.outlook (c.Tells m) (c.Touches m) phase Q
  := by
  apply proceeds_request
  intro sc host _ hstands
  obtain ⟨u, hu, hstatus⟩ := hstands.exists_unit hunit
  refine ⟨.refl host, phase, hstands, fun _ => .inl, ?_⟩
  simp only [Memory.answer, hu, hstatus]
  exact hQ

theorem proceeds_tag {Q : Except Error Unit → Phase → Prop} (hQ : Q (.ok ()) .kept) :
  (Job.tag c.unit.host (m.checkpoint c.role) (m.stale c.role)).Proceeds Story.outlook (c.Tells m)
    (c.Touches m) .whole Q
  := by
  apply proceeds_request
  intro sc host _ hstands
  have hcheckpoint : host.images[m.checkpoint c.role]? = some c.old := hstands.checkpoint_eq
  have hne := stale_ne_checkpoint m c.role c.role
  simp only [Memory.answer, hcheckpoint]
  refine ⟨⟨?_, fun _ _ => rfl⟩, .kept, ⟨?_, ?_, hstands.exists_unit, ?_⟩, ?_, hQ⟩
  · intro ref _ href
    simp [Std.ExtTreeMap.getElem?_insert, href.symm]
  · simp [Std.ExtTreeMap.getElem?_insert, hne, hcheckpoint, Phase.image?]
  · simp
  · rintro ⟨⟩
  · rintro image ⟨⟩

theorem proceeds_commit {Q : Except Error Unit → Phase → Prop}
    (hQ : ∀ image, Q (.ok ()) (.replaced image)) :
  (Job.commit c.unit.host c.unit (m.checkpoint c.role)).Proceeds Story.outlook (c.Tells m)
    (c.Touches m) .kept Q
  := by
  apply proceeds_request
  intro sc host hhost hstands
  obtain ⟨u, hu, hstatus⟩ := hstands.exists_unit rfl
  have hmem : host.units.contains c.unit.unitId = true := by
    rw [Std.ExtTreeMap.contains_eq_isSome_getElem?, hu]
    rfl
  have hne := (stale_ne_checkpoint m c.role c.role).symm
  simp only [Memory.answer, hmem, if_true]
  refine ⟨⟨?_, fun _ _ => rfl⟩, .replaced (host.lastId + 1), ⟨?_, ?_, ?_, ?_⟩, ?_, hQ _⟩
  · intro ref href _
    simp [Memory.addImage, Std.ExtTreeMap.getElem?_insert, href.symm]
  · simp [Memory.addImage, Phase.image?]
  · intro _
    simp [Memory.addImage, Std.ExtTreeMap.getElem?_insert, hne, hstands.stale_eq rfl]
  · exact fun _ => ⟨u, hu, hstatus⟩
  · rintro ⟨⟩
  · rintro image ⟨⟩
    right
    simp [Deed.of?, hhost, hu, hstatus, deed, Memory.addImage]

theorem proceeds_remove {image : Nat} {Q : Except Error Unit → Phase → Prop}
    (hQ : Q (.ok ()) (.removed image)) :
  (Job.remove c.unit.host c.unit.unitId false).Proceeds Story.outlook (c.Tells m) (c.Touches m)
    (.replaced image) Q
  := by
  apply proceeds_request
  intro sc host _ hstands
  refine ⟨⟨fun _ _ _ => rfl, ?_⟩, .removed image,
    ⟨hstands.checkpoint_eq, hstands.stale_eq, ?_, ?_⟩, fun _ => .inl, hQ⟩
  · intro unitId hne
    simp [Memory.answer, Std.ExtTreeMap.getElem?_erase, hne.symm]
  · rintro ⟨⟩
  · intro _
    simp [Memory.answer]

theorem proceeds_removeImage {image : Nat} {Q : Except Error Unit → Phase → Prop}
    (hQ : Q (.ok ()) (.settled image)) :
  (Job.removeImage c.unit.host (m.stale c.role)).Proceeds Story.outlook (c.Tells m) (c.Touches m)
    (.removed image) Q
  := by
  apply proceeds_request
  intro sc host _ hstands
  have hne := stale_ne_checkpoint m c.role c.role
  have hcheckpoint := hstands.checkpoint_eq
  refine ⟨⟨?_, fun _ _ => rfl⟩, .settled image, ⟨?_, ?_, ?_, hstands.unit_notMem⟩,
    fun _ => .inl, hQ⟩
  · intro ref _ href
    simp [Memory.answer, Std.ExtTreeMap.getElem?_erase, href.symm]
  · simp [Memory.answer, Std.ExtTreeMap.getElem?_erase, hne, hcheckpoint, Phase.image?]
  · rintro ⟨⟩
  · rintro ⟨⟩

end Requests

/-- A commit goes through its phases, whatever is done in between. -/
theorem proceeds_commitUnit (hrole : m.roleOf c.unit = .ok c.role)
    (hhost : m.fabric.host c.unit.host = .ok c.unit.host) :
  (m.commitUnit c.unit).Proceeds Story.outlook (c.Tells m) (c.Touches m) .whole fun _ _ => True
  := by
  -- No phase tells anything of the state of the role, so it may be set in all of them.
  have hstates : ∀ (phase : Phase) (state : UnitState) (st : Story), c.Tells m phase st →
      c.Touches m st (st.setState c.role state) ∧ c.Tells m phase (st.setState c.role state) := by
    intro phase state st htells
    refine ⟨⟨⟨?_, fun _ _ => rfl, fun host hhost => ⟨host, hhost, .refl host⟩⟩,
      List.Subset.refl _⟩, htells.exists_host, htells.deed_mem⟩
    intro role hne
    exact Function.update_of_ne hne _ _
  have hsuccess : (m.ensureSuccess c.unit).Proceeds Story.outlook (c.Tells m) (c.Touches m) .whole
      fun r phase => r = .ok () ∧ phase = .whole := by
    rw [ensureSuccess, wait, hrole, hhost]
    apply Proceeds.bind
    apply Proceeds.bind
    apply proceeds_ofExcept
    apply Proceeds.bind
    apply proceeds_ofExcept
    apply Proceeds.bind
    apply proceeds_wait rfl
    apply Proceeds.bind
    apply Story.proceeds_stateOf Touches.refl
    intro state
    rw [Next]
    split_ifs with hstate
    · apply Proceeds.bind
      apply Story.proceeds_setState (hstates .whole _)
      apply proceeds_pure
      exact proceeds_pure ⟨rfl, rfl⟩
    · apply proceeds_pure
      exact proceeds_pure ⟨rfl, rfl⟩
  rw [commitUnit, hrole, hhost]
  apply Proceeds.bind
  apply proceeds_ofExcept
  apply Proceeds.bind
  apply hsuccess.mono
  rintro _ _ ⟨rfl, rfl⟩
  apply Proceeds.bind
  apply proceeds_ofExcept
  apply Proceeds.bind
  apply proceeds_tag
  apply Proceeds.bind
  apply proceeds_commit
  intro image
  apply Proceeds.bind
  apply proceeds_remove
  apply Proceeds.bind
  apply proceeds_removeImage
  apply Proceeds.bind
  apply Story.proceeds_setState (hstates (.settled image) _)
  apply Story.proceeds_log Touches.refl
  trivial

/-! ### Commits that are cut off -/

/-- The commit can be carried out: the unit is there and has succeeded, and its role has a
checkpoint. -/
def IsCommittable (m : Manager) (c : Pending) (sc : Scene) : Prop :=
  ∃ host u, m.Finds sc c.unit c.role host u ∧ u.name = c.role.id.text ∧ u.result.status = 0
    ∧ host.images[m.checkpoint c.role]? = some c.old

/-- Commits of different roles are apart. -/
theorem IsCommittable.isApartFrom {sc : Scene} (h : c.IsCommittable m sc)
    (hother : other.IsCommittable m sc) (hrole : c.role ≠ other.role) :
  c.IsApartFrom other
  where
    role_ne := hrole
    unitId_ne := by
      -- One unit of a host would have the names of both roles.
      intro hhost hunitId
      obtain ⟨host, u, hfinds, hname, -⟩ := h
      obtain ⟨host', u', hfinds', hname', -⟩ := hother
      have hhosts := hfinds'.hosts_eq
      rw [← hhost, hfinds.hosts_eq] at hhosts
      obtain rfl := Option.some_inj.mp hhosts
      have hunits := hfinds'.getElem?_units
      rw [← hunitId, hfinds.getElem?_units] at hunits
      obtain rfl := Option.some_inj.mp hunits
      exact hrole (Role.text_id_inj.mp (hname.symm.trans hname'))

theorem IsCommittable.tells {sc : Scene} (h : c.IsCommittable m sc) (deeds : List Deed) :
  c.Tells m .whole ⟨sc, deeds⟩
  := by
  obtain ⟨host, u, hfinds, -, hstatus, hcheckpoint⟩ := h
  refine ⟨⟨host, hfinds.hosts_eq, hcheckpoint, ?_, ?_, ?_⟩, ?_⟩
  · rintro ⟨⟩
  · exact fun _ => ⟨u, hfinds.getElem?_units, hstatus⟩
  · rintro ⟨⟩
  · rintro image ⟨⟩

/-- An image that was made of the unit is the checkpoint. -/
def IsMade (m : Manager) (c : Pending) (host : Memory) (st : Story) : Prop :=
  ∃ image, host.images[m.checkpoint c.role]? = some image ∧ c.deed m image ∈ st.deeds

/-- Nothing is lost: there is a checkpoint; the previous one is still there, unless the new one is
and the unit is gone; and the unit is still there, unless what was made of it is the checkpoint. -/
def IsRecoverable (m : Manager) (c : Pending) (st : Story) : Prop :=
  ∃ host, st.scene.hosts c.unit.host = some host ∧ m.checkpoint c.role ∈ host.images
    ∧ (host.images[m.checkpoint c.role]? = some c.old ∨ host.images[m.stale c.role]? = some c.old
      ∨ c.IsMade m host st ∧ c.unit.unitId ∉ host.units)
    ∧ (c.unit.unitId ∈ host.units ∨ c.IsMade m host st)

/-- In every phase nothing is lost. -/
theorem Tells.isRecoverable (h : c.Tells m phase st) :
  c.IsRecoverable m st
  := by
  obtain ⟨host, hhost, hstands⟩ := h.exists_host
  have hcheckpoint := hstands.checkpoint_eq
  have hmade : ∀ image, phase.image? = some image → c.IsMade m host st := by
    intro image himage
    rw [himage] at hcheckpoint
    exact ⟨image, hcheckpoint, h.deed_mem image himage⟩
  have hunit : phase.hasUnit = true → c.unit.unitId ∈ host.units := by
    intro hthere
    obtain ⟨u, hu, -⟩ := hstands.exists_unit hthere
    rw [Std.ExtTreeMap.mem_iff_isSome_getElem?, hu]
    rfl
  have hmem : m.checkpoint c.role ∈ host.images := by
    rw [Std.ExtTreeMap.mem_iff_isSome_getElem?, hcheckpoint]
    rfl
  refine ⟨host, hhost, hmem, ?_⟩
  cases phase with
  | whole | kept => exact ⟨.inl hcheckpoint, .inl (hunit rfl)⟩
  | replaced image => exact ⟨.inr (.inl (hstands.stale_eq rfl)), .inl (hunit rfl)⟩
  | removed image => exact ⟨.inr (.inl (hstands.stale_eq rfl)), .inr (hmade image rfl)⟩
  | settled image =>
      exact ⟨.inr (.inr ⟨hmade image rfl, hstands.unit_notMem rfl⟩), .inr (hmade image rfl)⟩

/-- What a phase of the commit at a place tells. -/
def TellsAt (m : Manager) (cs : List Pending) (i : Nat) (phase : Phase) (st : Story) : Prop :=
  ∀ c, cs[i]? = some c → c.Tells m phase st

/-- What the calls of the commit at a place may do to a story. -/
def TouchesAt (m : Manager) (cs : List Pending) (i : Nat) (st st' : Story) : Prop :=
  st' = st ∨ ∃ c, cs[i]? = some c ∧ c.Touches m st st'

theorem tellsAt_eq {cs : List Pending} {i : Nat} (hc : cs[i]? = some c) :
  TellsAt m cs i = c.Tells m
  := by
  funext phase st
  simp [TellsAt, hc]

theorem touchesAt_eq {cs : List Pending} {i : Nat} (hc : cs[i]? = some c) :
  TouchesAt m cs i = c.Touches m
  := by
  funext st st'
  simp only [TouchesAt, hc, Option.some_inj, exists_eq_left', eq_iff_iff, or_iff_right_iff_imp]
  rintro rfl
  exact .refl _

end Pending

/-- A commit starts no tasks together. -/
theorem isPlain_commitUnit (m : Manager) (unit : UnitHandle) :
  (m.commitUnit unit).IsPlain
  := by
  have hperform : ∀ action, (Job.perform action).IsPlain := fun _ _ => trivial
  have hask : ∀ {α : Type} {id : HostId} {request : Request}
      {f : request.Answer → Except Error α},
      (Job.perform (.ask id request) >>= fun x => .ofExcept (f x) : Job α).IsPlain :=
    fun {_ _ _ _} => IsPlain.bind (hperform _) fun _ => isPlain_ofExcept _
  have hwait : (m.wait unit).IsPlain := by
    apply IsPlain.bind (isPlain_ofExcept _)
    intro role
    apply IsPlain.bind (isPlain_ofExcept _)
    intro host
    apply IsPlain.bind hask
    intro status
    apply IsPlain.bind (hperform _)
    intro state
    simp only
    split_ifs
    · apply IsPlain.bind (hperform _)
      exact fun _ => trivial
    · trivial
  have hsuccess : (m.ensureSuccess unit).IsPlain := by
    apply IsPlain.bind hwait
    intro status
    split_ifs
    · apply IsPlain.bind
      · apply IsPlain.attempt
        apply IsPlain.bind (isPlain_ofExcept _)
        exact fun host => hask
      · intro output
        cases output with
        | ok text => trivial
        | error e => trivial
    · trivial
  apply IsPlain.bind (isPlain_ofExcept _)
  intro role
  apply IsPlain.bind hsuccess
  intro _
  apply IsPlain.bind (isPlain_ofExcept _)
  intro host
  apply IsPlain.bind hask
  intro _
  apply IsPlain.bind hask
  intro _
  apply IsPlain.bind hask
  intro _
  apply IsPlain.bind hask
  intro _
  apply IsPlain.bind (hperform _)
  exact fun _ => hperform _

/-- The commits of several units, under way together. -/
def commits (m : Manager) (units : List UnitHandle) (w : World Cluster) :
    Group Action.interface Error Unit (List (Action × World Cluster) × World Cluster) :=
  ⟨units.map m.commitUnit, [], w⟩

/-- The story behind the calls that the commits of several units have made in the order of a
schedule. -/
def midway (m : Manager) (units : List UnitHandle) (w : World Cluster) (schedule : List Nat) :
    Story :=
  Story.outlook.see ((m.commits units w).play Story.outlook.handle schedule).state

/-- A commit of several units that is run and succeeds is one of the schedules. -/
theorem exists_midway_of_run_commit {m : Manager} {units : List UnitHandle} {w w' : World Cluster}
    (hrun : World.run Cluster.layer (m.commit units) w = (some (.ok ()), w')) :
  ∃ schedule, (m.midway units w schedule).scene = w'.scene
  := by
  have hplain : ∀ p ∈ units.map m.commitUnit, p.IsPlain := by
    intro p hp
    obtain ⟨unit, -, rfl⟩ := List.mem_map.mp hp
    exact isPlain_commitUnit m unit
  have hrecord : Program.run World.answering.recording (m.commit units) ([], w) = _ :=
    run_recording (m.commit units) [] w
  have hcommit : Program.run World.answering (m.commit units) w = (some (.ok ()), w') := hrun
  have hbind : Program.run World.answering.recording (m.commit units) ([], w) = _ :=
    run_bind (all (units.map m.commitUnit)) _ ([], w)
  rw [hcommit] at hrecord
  rw [hrecord] at hbind
  cases hall : (all (units.map m.commitUnit)).run World.answering.recording ([], w) with
  | mk r s =>
      rw [hall] at hbind
      rcases r with _ | e | as
      · cases hbind
      · cases hbind
      · obtain ⟨schedule, hplay⟩ := Group.exists_play_of_all hplain hall
        use schedule
        have hs : s.2 = w' := (congrArg (fun outcome => outcome.2.2) hbind).symm
        rw [midway, commits, Story.outlook, hplay, ← hs]

section Cutting

variable {m : Manager} {cs : List Pending} {w : World Cluster}

open Pending

/-- Every commit is under way from the start. -/
theorem isUnderWay_commits (h : ∀ c ∈ cs, c.IsCommittable m w.scene) :
  (m.commits (cs.map Pending.unit) w).IsUnderWay Story.outlook (TellsAt m cs) (TouchesAt m cs)
  := by
  intro i p hp
  simp only [commits, List.map_map, List.getElem?_map, Option.map_eq_some_iff] at hp
  obtain ⟨c, hc, rfl⟩ := hp
  have hcommittable := h c (List.mem_of_getElem? hc)
  use .whole
  rw [tellsAt_eq hc, touchesAt_eq hc]
  constructor
  · exact hcommittable.tells []
  · obtain ⟨host, u, hfinds, -⟩ := hcommittable
    exact proceeds_commitUnit hfinds.roleOf_eq hfinds.fabric_host_eq

/-- Wherever the commits of units of different roles are cut off, nothing is lost of any of them,
and the next call of each only touches its own role and its own unit. -/
theorem isRecoverable_midway (h : ∀ c ∈ cs, c.IsCommittable m w.scene)
    (hroles : (cs.map Pending.role).Nodup) (schedule : List Nat) {i : Nat} {c : Pending}
    (hc : cs[i]? = some c) :
  c.IsRecoverable m (m.midway (cs.map Pending.unit) w schedule)
    ∧ c.TouchesScene m (m.midway (cs.map Pending.unit) w schedule).scene
      (m.midway (cs.map Pending.unit) w (schedule ++ [i])).scene
  := by
  have hrefl : ∀ i st, TouchesAt m cs i st st := fun i st => .inl rfl
  have hstable : ∀ i j phase st st', i ≠ j → TellsAt m cs i phase st →
      TouchesAt m cs j st st' → TellsAt m cs i phase st' := by
    intro i j phase st st' hij htells htouches
    obtain rfl | ⟨other, hother, htouches⟩ := htouches
    · exact htells
    · intro c hc
      have hrole : c.role ≠ other.role := by
        intro hsame
        obtain ⟨hi, -⟩ := List.getElem?_eq_some_iff.mp hc
        apply hij
        apply (List.getElem?_inj (by simpa using hi) hroles).mp
        rw [List.getElem?_map, List.getElem?_map, hc, hother, Option.map_some, Option.map_some,
          hsame]
      have hapart := (h c (List.mem_of_getElem? hc)).isApartFrom
        (h other (List.mem_of_getElem? hother)) hrole
      exact (htells c hc).of_touches hapart htouches
  have hplay := (isUnderWay_commits h).play hrefl hstable schedule
  constructor
  · have hlength : i < ((m.commits (cs.map Pending.unit) w).play Story.outlook.handle
        schedule).tasks.length := by
      rw [Group.length_tasks_play]
      obtain ⟨hi, -⟩ := List.getElem?_eq_some_iff.mp hc
      simpa [commits] using hi
    obtain ⟨phase, htells, -⟩ := hplay i _ (List.getElem?_eq_getElem hlength)
    exact (htells c hc).isRecoverable
  · have htouches := hplay.touches_step hrefl i
    rw [touchesAt_eq hc] at htouches
    rw [midway, midway, Group.play_append, Group.play_singleton]
    exact htouches.scene

end Cutting

/-! ### Commits in a session -/

/-- The exit status of a unit, if it is there. -/
def status? (sc : Scene) (unit : UnitHandle) : Option Int :=
  (sc.hosts unit.host).bind fun host => (host.units[unit.unitId]?).map fun u => u.result.status

theorem status?_eq_some {sc : Scene} {unit : UnitHandle} {status : Int} :
  status? sc unit = some status
    ↔ ∃ host u, sc.hosts unit.host = some host ∧ host.units[unit.unitId]? = some u
      ∧ u.result.status = status
  := by
  simp [status?, Option.bind_eq_some_iff, Option.map_eq_some_iff]

namespace Session

variable {m : Manager} {hosts : Cluster} {s : Session} {events : List Event}

/-- A unit that was handed out and has succeeded can be committed, as long as it is there. -/
theorem IsSound.exists_isCommittable (h : s.IsSound m) (htagged : m.IsTaggedIn s.world.scene)
    {unit : UnitHandle} (hunit : unit ∈ s.handles)
    (hsucceeded : status? s.world.scene unit = some 0) :
  ∃ c : Pending, c.unit = unit ∧ unit.role = c.role.id
    ∧ s.world.scene.image? unit.host (m.checkpoint c.role) = some c.old
    ∧ c.IsCommittable m s.world.scene
  := by
  obtain ⟨role, host, hat, hknows⟩ := h.knowsIn unit hunit
  obtain ⟨found, u, hfound, hu, hstatus⟩ := status?_eq_some.mp hsucceeded
  have hhost : s.world.scene.hosts unit.host = some host := by
    rw [hknows.host_eq]
    exact hat.hosts_eq
  obtain rfl := Option.some_inj.mp (hhost.symm.trans hfound)
  have hkept := hknows.isKept hu
  have hstate : s.world.scene.states role ≠ .noImage := by
    intro hnone
    obtain hstate | hstate | ⟨hstate, -⟩ := hkept.state_eq
    · rw [hnone] at hstate
      cases hstate
    · rw [hnone] at hstate
      cases hstate
    · rw [hnone] at hstate
      cases hstate
  have hmem := (htagged role host hat).checkpoint_mem hstate
  have hcheckpoint := Std.ExtTreeMap.getElem?_eq_some_getElem hmem
  have hfabric : m.fabric.host unit.host = .ok unit.host := by
    apply fabric_host_eq_ok
    rw [hknows.host_eq]
    exact mem_hosts_of_hostFor hat.hostFor_eq
  have hfinds : m.Finds s.world.scene unit role host u :=
    ⟨roleOf_eq_ok (mem_roles_of_hostFor hat.hostFor_eq) hknows.role_eq, hfabric, hhost, hu⟩
  refine ⟨⟨role, unit, _⟩, rfl, hknows.role_eq, ?_, host, u, hfinds, hkept.name_eq, hstatus,
    hcheckpoint⟩
  rw [Scene.image?, hhost]
  exact hcheckpoint

/-- In a session over hosts that hold the base image, units of different roles that have succeeded
are committed together.  However their calls are interleaved and wherever all are cut off, nothing
is lost of any of them, and the next call of each only touches its own role and its own unit. -/
theorem isRecoverable_run (hthere : m.fabric.IsThere (start hosts).world.scene)
    (hbase : ∀ role host, m.At (start hosts).world.scene role host →
      m.image.base ∈ host.images)
    (hapart : m.IsApart) (hadmits : (start hosts).Admits m events) {units : List UnitHandle}
    (hunits : ∀ unit ∈ units, unit ∈ ((start hosts).run m events).handles)
    (hsucceeded : ∀ unit ∈ units, status? ((start hosts).run m events).world.scene unit = some 0)
    (hroles : (units.map UnitHandle.role).Nodup) (schedule : List Nat) {i : Nat}
    {unit : UnitHandle} (hunit : units[i]? = some unit) :
  ∃ c : Pending, c.unit = unit ∧ unit.role = c.role.id
    ∧ ((start hosts).run m events).world.scene.image? unit.host (m.checkpoint c.role) = some c.old
    ∧ c.IsRecoverable m (m.midway units ((start hosts).run m events).world schedule)
    ∧ c.TouchesScene m (m.midway units ((start hosts).run m events).world schedule).scene
      (m.midway units ((start hosts).run m events).world (schedule ++ [i])).scene
  := by
  have htagged : m.IsTaggedIn (start hosts).world.scene :=
    fun role host hat => ⟨hbase role host hat, fun hne => absurd rfl hne, fun hne => absurd rfl hne⟩
  obtain ⟨hsound, htags⟩ := (isSound_start hthere).run hadmits
  have hall := fun unit hunit => hsound.exists_isCommittable (htags hapart htagged)
    (hunits unit hunit) (hsucceeded unit hunit)
  choose! pending hpending using hall
  have hmap : (units.map pending).map Pending.unit = units := by
    rw [List.map_map]
    convert List.map_id units using 1
    apply List.map_congr_left
    intro unit hunit
    exact (hpending unit hunit).1
  have hnodup : ((units.map pending).map Pending.role).Nodup := by
    apply List.Nodup.of_map Role.id
    rw [List.map_map, List.map_map]
    convert hroles using 1
    apply List.map_congr_left
    intro unit hunit
    exact (hpending unit hunit).2.1.symm
  have hc : (units.map pending)[i]? = some (pending unit) := by
    rw [List.getElem?_map, hunit, Option.map_some]
  obtain ⟨hunit_eq, hrole, hold, -⟩ := hpending unit (List.mem_of_getElem? hunit)
  have hcut := isRecoverable_midway (List.forall_mem_map.mpr fun unit hunit =>
    (hpending unit hunit).2.2.2) hnodup schedule hc
  rw [hmap] at hcut
  exact ⟨pending unit, hunit_eq, hrole, hold, hcut⟩

/-- The unit of the receiver, where it is launched second. -/
def loneReceiver : UnitHandle :=
  ⟨.localhost, "localhost-unit-3", Role.receiver.id⟩

/-- The helper and the receiver are launched and come to their ends. -/
def bothExit : List Event :=
  [.operate .prepareImages, .operate (.runRole .helper "serve" .none),
    .operate (.runRole .receiver "receive" .none), .operate (.waitAll [loneHelper, loneReceiver])]

/-- The commit of the receiver is cut off once its image was made, and that of the helper once its
unit is gone. -/
theorem isRecoverable_run_both :
  ∃ c : Pending, c.unit = loneReceiver ∧ loneReceiver.role = c.role.id
    ∧ ((start loneHosts).run lone bothExit).world.scene.image? .localhost
      (lone.checkpoint c.role) = some c.old
    ∧ c.IsRecoverable lone (lone.midway [loneHelper, loneReceiver]
      ((start loneHosts).run lone bothExit).world [0, 1, 0, 1, 1, 0, 0, 1, 0])
    ∧ c.TouchesScene lone
      (lone.midway [loneHelper, loneReceiver] ((start loneHosts).run lone bothExit).world
        [0, 1, 0, 1, 1, 0, 0, 1, 0]).scene
      (lone.midway [loneHelper, loneReceiver] ((start loneHosts).run lone bothExit).world
        ([0, 1, 0, 1, 1, 0, 0, 1, 0] ++ [1])).scene
  := isRecoverable_run isThere_loneHosts base_mem_loneHosts
    (isApart_of_image Environment.isApart_usual) (by decide +kernel) (by decide +kernel)
    (by decide +kernel) (by decide) [0, 1, 0, 1, 1, 0, 0, 1, 0] (i := 1) rfl

end Session

end Manager

end JoinBench
