import JoinBench.Proofs.Lifecycle.Supplied

/-!
# Committing the units of several roles

The units of several roles that are running are committed one after the other, up to the first that
has not succeeded.  The roles before it get new checkpoints and lose their units, its own role only
exits, and the roles behind it are left as they are.  Whatever belongs to none of the roles that
are committed stays on every host.
-/

namespace JoinBench

open Host

/-- The unit of a handle, if it is there. -/
def Scene.unit? (sc : Scene) (unit : UnitHandle) : Option KeptUnit :=
  (sc.hosts unit.host).bind fun host => host.units[unit.unitId]?

namespace Manager

variable {m : Manager}

/-- A role, its unit, and what the unit leaves. -/
structure Due where
  role : Role
  unit : UnitHandle
  result : UnitResult

/-- The role runs the unit, which is there and leaves this. -/
structure Due.IsRunning (d : Due) (sc : Scene) : Prop where
  state_eq : sc.states d.role = .running d.unit
  result_eq : (sc.unit? d.unit).map (·.result) = some d.result

/-! ### What committing does -/

/-- What committing some of its units makes of a host: behind the checkpoints of their roles are new
images, each its own, there are no stale images, the units are gone, and nothing else is
different. -/
structure CommitsHost (m : Manager) (done : List Due) (host host' : Memory) : Prop where
  eq_rest : host' = { host with
    images := host'.images, units := host'.units, lastId := host'.lastId }
  lastId_le : host.lastId ≤ host'.lastId
  exists_image : ∀ d ∈ done, ∃ image, host'.images[m.checkpoint d.role]? = some image
    ∧ host.lastId < image ∧ image ≤ host'.lastId
  checkpoint_ne : ∀ d ∈ done, ∀ other ∈ done, d.role ≠ other.role →
    host'.images[m.checkpoint d.role]? ≠ host'.images[m.checkpoint other.role]?
  stale_eq : ∀ d ∈ done, host'.images[m.stale d.role]? = none
  unit_eq : ∀ d ∈ done, host'.units[d.unit.unitId]? = none
  other_image_eq : ∀ ref, (∀ d ∈ done, m.checkpoint d.role ≠ ref ∧ m.stale d.role ≠ ref) →
    host'.images[ref]? = host.images[ref]?
  other_unit_eq : ∀ unitId, (∀ d ∈ done, d.unit.unitId ≠ unitId) →
    host'.units[unitId]? = host.units[unitId]?

/-- What committing units makes of a scene, if one more of them may have failed. -/
structure Commits (m : Manager) (done : List Due) (failed : Option Due) (sc sc' : Scene) :
    Prop where
  committed_eq : ∀ d ∈ done, sc'.states d.role = .committed
  exited_eq : ∀ d ∈ failed, sc'.states d.role = .exited d.unit d.result.status
  other_eq : ∀ role, (∀ d ∈ done, d.role ≠ role) → (∀ d ∈ failed, d.role ≠ role) →
    sc'.states role = sc.states role
  hosts_eq_none : ∀ id, sc.hosts id = none → sc'.hosts id = none
  exists_host : ∀ id host, sc.hosts id = some host → ∃ host', sc'.hosts id = some host'
    ∧ m.CommitsHost (done.filter fun d => d.unit.host = id) host host'

/-- The images and the unit of a role are as they were. -/
structure Due.IsLeft (d : Due) (m : Manager) (sc sc' : Scene) : Prop where
  unit_eq : sc'.unit? d.unit = sc.unit? d.unit
  checkpoint_eq : ∀ id, sc'.image? id (m.checkpoint d.role) = sc.image? id (m.checkpoint d.role)
  stale_eq : ∀ id, sc'.image? id (m.stale d.role) = sc.image? id (m.stale d.role)

variable {done rest : List Due} {d : Due} {id : HostId} {host host' : Memory} {sc sc' : Scene}
  {u : KeptUnit}

namespace CommitsHost

theorem refl (m : Manager) (host : Memory) :
  m.CommitsHost [] host host
  where
    eq_rest := rfl
    lastId_le := Nat.le_refl _
    exists_image := List.forall_mem_nil _
    checkpoint_ne := List.forall_mem_nil _
    stale_eq := List.forall_mem_nil _
    unit_eq := List.forall_mem_nil _
    other_image_eq := fun _ _ => rfl
    other_unit_eq := fun _ _ => rfl

/-- The checkpoint of no other role is touched. -/
theorem getElem?_checkpoint_committed {role other : Role} (hne : other ≠ role) (unitId : String) :
  (m.committed role unitId host).images[m.checkpoint other]? = host.images[m.checkpoint other]?
  := by
  rw [getElem?_images_committed (stale_ne_checkpoint m role other), if_neg]
  exact fun hsame => hne (checkpoint_inj.mp hsame).symm

theorem getElem?_own_checkpoint_committed (role : Role) (unitId : String) :
  (m.committed role unitId host).images[m.checkpoint role]? = some (host.lastId + 1)
  := by
  rw [getElem?_images_committed (stale_ne_checkpoint m role role), if_pos rfl]

/-- A unit behind a commit is none that was committed, and was there before. -/
theorem getElem?_units_committed (role : Role) (committed unitId : String) :
  (m.committed role committed host).units[unitId]?
    = if committed = unitId then none else host.units[unitId]?
  := by
  simp [Manager.committed, Std.ExtTreeMap.getElem?_erase]

/-- The unit of a further role is committed. -/
theorem step (h : m.CommitsHost done host host') (hnew : ∀ other ∈ done, other.role ≠ d.role) :
  m.CommitsHost (done ++ [d]) host (m.committed d.role d.unit.unitId host')
  where
    eq_rest := by
      rw [committed, h.eq_rest]
    lastId_le := Nat.le_succ_of_le h.lastId_le
    exists_image := by
      rw [List.forall_mem_append, List.forall_mem_singleton, getElem?_own_checkpoint_committed]
      constructor
      · intro other hother
        rw [getElem?_checkpoint_committed (hnew other hother)]
        obtain ⟨image, himage, hlt, hle⟩ := h.exists_image other hother
        exact ⟨image, himage, hlt, Nat.le_succ_of_le hle⟩
      · exact ⟨_, rfl, Nat.lt_succ_of_le h.lastId_le, Nat.le_refl _⟩
    checkpoint_ne := by
      -- The image of the new checkpoint is later than all those before.
      have hlater : ∀ other ∈ done, (m.committed d.role d.unit.unitId
          host').images[m.checkpoint other.role]? ≠ some (host'.lastId + 1) := by
        intro other hother heq
        rw [getElem?_checkpoint_committed (hnew other hother)] at heq
        obtain ⟨image, himage, -, hle⟩ := h.exists_image other hother
        obtain rfl := Option.some_inj.mp (himage.symm.trans heq)
        exact absurd hle (Nat.not_succ_le_self _)
      intro first hfirst second hsecond hne
      rw [List.mem_append, List.mem_singleton] at hfirst hsecond
      obtain hfirst | rfl := hfirst
      · obtain hsecond | rfl := hsecond
        · rw [getElem?_checkpoint_committed (hnew first hfirst),
            getElem?_checkpoint_committed (hnew second hsecond)]
          exact h.checkpoint_ne first hfirst second hsecond hne
        · rw [getElem?_own_checkpoint_committed]
          exact hlater first hfirst
      · obtain hsecond | rfl := hsecond
        · rw [getElem?_own_checkpoint_committed]
          exact (hlater second hsecond).symm
        · exact absurd rfl hne
    stale_eq := by
      rw [List.forall_mem_append, List.forall_mem_singleton]
      constructor
      · intro other hother
        have hne := hnew other hother
        rw [getElem?_images_committed (stale_inj.not.mpr hne.symm),
          if_neg (stale_ne_checkpoint m other.role d.role).symm]
        exact h.stale_eq other hother
      · rw [committed, Std.ExtTreeMap.getElem?_erase_self]
    unit_eq := by
      rw [List.forall_mem_append, List.forall_mem_singleton]
      constructor
      · intro other hother
        rw [getElem?_units_committed, h.unit_eq other hother, ite_self]
      · rw [getElem?_units_committed, if_pos rfl]
    other_image_eq := by
      intro ref href
      rw [List.forall_mem_append, List.forall_mem_singleton] at href
      rw [getElem?_images_committed href.2.2, if_neg href.2.1]
      exact h.other_image_eq ref href.1
    other_unit_eq := by
      intro unitId hunit
      rw [List.forall_mem_append, List.forall_mem_singleton] at hunit
      rw [getElem?_units_committed, if_neg hunit.2]
      exact h.other_unit_eq unitId hunit.1

end CommitsHost

/-! ### One after the other -/

/-- The unit of a role can be committed: the role is placed and has a checkpoint, and its unit is
there under its name. -/
structure Due.IsReady (d : Due) (m : Manager) (sc : Scene) (host : Memory) (u : KeptUnit) :
    Prop where
  at_host : m.At sc d.role host
  host_eq : d.unit.host = host.id
  role_eq : d.unit.role = d.role.id
  state_eq : sc.states d.role = .running d.unit
  getElem?_units : host.units[d.unit.unitId]? = some u
  name_eq : u.name = d.role.id.text
  result_eq : u.result = d.result
  checkpoint_mem : m.checkpoint d.role ∈ host.images

theorem Due.IsReady.finds (h : d.IsReady m sc host u) :
  m.Finds sc d.unit d.role host u
  where
    roleOf_eq := roleOf_eq_ok (mem_roles_of_hostFor h.at_host.hostFor_eq) h.role_eq
    fabric_host_eq := by
      rw [h.host_eq]
      exact fabric_host_eq_ok (mem_hosts_of_hostFor h.at_host.hostFor_eq)
    hosts_eq := by
      rw [h.host_eq]
      exact h.at_host.hosts_eq
    getElem?_units := h.getElem?_units

/-- A unit that can be committed is committed if it has succeeded; else its role exits. -/
theorem Due.IsReady.leads_commitUnit (h : d.IsReady m sc host u)
    {Q : Except Error Unit → Scene → Prop}
    (hfailed : d.result.status ≠ 0 →
      Q (.error (.unitRun d.role.id d.result.status (d.result.stdout ++ d.result.stderr)))
        (sc.setState d.role (.exited d.unit d.result.status)))
    (hcommitted : d.result.status = 0 →
      Q (.ok ()) ((sc.setHost d.unit.host (m.committed d.role d.unit.unitId host)).setState d.role
        .committed)) :
  sc.Leads (m.commitUnit d.unit) Q
  := by
  apply Story.leads_of_goes
  apply h.finds.goes_commitUnit
  · rintro e (hsuccess | hmissing)
    · rw [h.result_eq, success] at hsuccess
      split_ifs at hsuccess with hstatus
      cases hsuccess
      have hexit := hfailed hstatus
      rw [Scene.exit, if_pos h.state_eq, h.result_eq]
      exact hexit
    · exact absurd h.checkpoint_mem hmissing
  · intro hstatus _
    rw [h.result_eq] at hstatus
    exact hcommitted hstatus

namespace Commits

theorem refl (m : Manager) (sc : Scene) :
  m.Commits [] none sc sc
  where
    committed_eq := List.forall_mem_nil _
    exited_eq := by simp
    other_eq := fun _ _ _ => rfl
    hosts_eq_none := fun _ hnone => hnone
    exists_host := fun id host hhost => ⟨host, hhost, .refl m host⟩

variable {start : Scene}

/-- Units of different roles on one host are different. -/
theorem unitId_ne {other : Due} {host₁ : Memory} {u₁ : KeptUnit} (hd : d.IsReady m start host u)
    (hother : other.IsReady m start host₁ u₁) (hhost : other.unit.host = d.unit.host)
    (hrole : other.role ≠ d.role) :
  other.unit.unitId ≠ d.unit.unitId
  := by
  -- One unit would have the names of both roles.
  intro hunit
  have hhosts := hother.at_host.hosts_eq
  rw [← hother.host_eq, hhost, hd.host_eq, hd.at_host.hosts_eq] at hhosts
  obtain rfl := Option.some_inj.mp hhosts
  have hunits := hother.getElem?_units
  rw [hunit, hd.getElem?_units] at hunits
  obtain rfl := Option.some_inj.mp hunits
  exact hrole (Role.text_id_inj.mp (hother.name_eq.symm.trans hd.name_eq))

/-- A unit that can be committed still can be once those of other roles were. -/
theorem exists_isReady {failed : Option Due} (h : m.Commits done failed start sc)
    (hdone : ∀ other ∈ done, ∃ host u, other.IsReady m start host u)
    (hd : d.IsReady m start host u) (hnew : ∀ other ∈ done, other.role ≠ d.role)
    (hfailed : ∀ other ∈ failed, other.role ≠ d.role) :
  ∃ host', d.IsReady m sc host' u
  := by
  obtain ⟨host', hhost', hcommits⟩ := h.exists_host _ host hd.at_host.hosts_eq
  have hid : host'.id = host.id := by
    rw [hcommits.eq_rest]
  have hsame : ∀ other ∈ done.filter fun other => other.unit.host = host.id,
      other ∈ done ∧ other.unit.host = d.unit.host := by
    intro other hother
    rw [List.mem_filter, decide_eq_true_eq] at hother
    exact ⟨hother.1, hother.2.trans hd.host_eq.symm⟩
  refine ⟨host', ⟨?_, ?_⟩, ?_, hd.role_eq, ?_, ?_, hd.name_eq, hd.result_eq, ?_⟩
  · rw [hid]
    exact hd.at_host.hostFor_eq
  · rw [hid]
    exact hhost'
  · rw [hid]
    exact hd.host_eq
  · rw [h.other_eq d.role hnew hfailed]
    exact hd.state_eq
  · rw [hcommits.other_unit_eq]
    · exact hd.getElem?_units
    · intro other hother
      obtain ⟨hmem, hhost⟩ := hsame other hother
      obtain ⟨host₁, u₁, hready⟩ := hdone other hmem
      exact unitId_ne hd hready hhost (hnew other hmem)
  · rw [Std.ExtTreeMap.mem_iff_isSome_getElem?, hcommits.other_image_eq]
    · exact Std.ExtTreeMap.mem_iff_isSome_getElem?.mp hd.checkpoint_mem
    · intro other hother
      obtain ⟨hmem, -⟩ := hsame other hother
      exact ⟨checkpoint_inj.not.mpr (hnew other hmem), stale_ne_checkpoint m other.role d.role⟩

/-- The unit of a further role is committed. -/
theorem step (h : m.Commits done none start sc) (hd : d.IsReady m sc host' u)
    (hnew : ∀ other ∈ done, other.role ≠ d.role) :
  m.Commits (done ++ [d]) none start
    ((sc.setHost d.unit.host (m.committed d.role d.unit.unitId host')).setState d.role .committed)
  where
    committed_eq := by
      rw [List.forall_mem_append, List.forall_mem_singleton, Scene.states_setState]
      constructor
      · intro other hother
        rw [Function.update_of_ne (hnew other hother)]
        exact h.committed_eq other hother
      · rw [Function.update_self]
    exited_eq := by simp
    other_eq := by
      intro role hrole hfailed
      rw [List.forall_mem_append, List.forall_mem_singleton] at hrole
      rw [Scene.states_setState, Function.update_of_ne hrole.2.symm]
      exact h.other_eq role hrole.1 hfailed
    hosts_eq_none := by
      intro id hnone
      rw [Scene.hosts_setState, Scene.hosts_setHost, Function.update_of_ne]
      · exact h.hosts_eq_none id hnone
      · rintro rfl
        have hhost := hd.finds.hosts_eq
        rw [h.hosts_eq_none _ hnone] at hhost
        cases hhost
    exists_host := by
      intro id found hfound
      obtain ⟨found', hfound', hcommits⟩ := h.exists_host id found hfound
      rw [Scene.hosts_setState, Scene.hosts_setHost, List.filter_append]
      by_cases hid : d.unit.host = id
      · subst hid
        have hhost := hd.finds.hosts_eq
        obtain rfl := Option.some_inj.mp (hfound'.symm.trans hhost)
        refine ⟨_, Function.update_self _ _ _, ?_⟩
        rw [List.filter_cons_of_pos (by simp), List.filter_nil]
        exact hcommits.step fun other hother => hnew other (List.mem_of_mem_filter hother)
      · refine ⟨found', ?_, ?_⟩
        · rw [Function.update_of_ne (Ne.symm hid), hfound']
        · rw [List.filter_cons_of_neg (by simpa using hid), List.filter_nil, List.append_nil]
          exact hcommits

/-- The unit of a further role has failed. -/
theorem exit (h : m.Commits done none start sc) (hnew : ∀ other ∈ done, other.role ≠ d.role) :
  m.Commits done (some d) start (sc.setState d.role (.exited d.unit d.result.status))
  where
    committed_eq := by
      intro other hother
      rw [Scene.states_setState, Function.update_of_ne (hnew other hother)]
      exact h.committed_eq other hother
    exited_eq := by
      rintro _ ⟨⟩
      rw [Scene.states_setState, Function.update_self]
    other_eq := by
      intro role hrole hfailed
      rw [Scene.states_setState, Function.update_of_ne (hfailed d rfl).symm]
      exact h.other_eq role hrole (by simp)
    hosts_eq_none := h.hosts_eq_none
    exists_host := h.exists_host

/-- An image that is no image of the roles that were committed is behind its tag as before. -/
theorem image?_eq {failed : Option Due} (h : m.Commits done failed start sc) {ref : ImageRef}
    (href : ∀ other ∈ done, m.checkpoint other.role ≠ ref ∧ m.stale other.role ≠ ref)
    (id : HostId) :
  sc.image? id ref = start.image? id ref
  := by
  rw [Scene.image?, Scene.image?]
  cases hhost : start.hosts id with
  | none => rw [h.hosts_eq_none id hhost]
  | some host =>
      obtain ⟨host', hhost', hcommits⟩ := h.exists_host id host hhost
      rw [hhost']
      exact hcommits.other_image_eq ref fun other hother => href other (List.mem_of_mem_filter hother)

/-- A unit that was not committed is there as before. -/
theorem isLeft {failed : Option Due} (h : m.Commits done failed start sc)
    (hdone : ∀ other ∈ done, ∃ host u, other.IsReady m start host u)
    (hd : d.IsReady m start host u) (hnew : ∀ other ∈ done, other.role ≠ d.role) :
  d.IsLeft m start sc
  where
    unit_eq := by
      obtain ⟨host', hhost', hcommits⟩ := h.exists_host _ host hd.finds.hosts_eq
      rw [Scene.unit?, Scene.unit?, hd.finds.hosts_eq, hhost']
      apply hcommits.other_unit_eq
      intro other hother
      rw [List.mem_filter, decide_eq_true_eq] at hother
      obtain ⟨host₁, u₁, hready⟩ := hdone other hother.1
      exact unitId_ne hd hready hother.2 (hnew other hother.1)
    checkpoint_eq := h.image?_eq fun other hother =>
      ⟨checkpoint_inj.not.mpr (hnew other hother), stale_ne_checkpoint m other.role d.role⟩
    stale_eq := h.image?_eq fun other hother =>
      ⟨(stale_ne_checkpoint m d.role other.role).symm, stale_inj.not.mpr (hnew other hother)⟩

end Commits

/-! ### All of them -/

section Sequence

open Scene

variable {start : Scene}

/-- What is left of committing units: they all were committed, or the first that has not succeeded
has failed. -/
inductive CommitsAll (m : Manager) (dues : List Due) (start : Scene) :
    Except Error Unit → Scene → Prop where
  | all {sc : Scene} (hsucceeded : ∀ d ∈ dues, d.result.status = 0)
    (hcommits : m.Commits dues none start sc) : CommitsAll m dues start (.ok ()) sc
  | failed {sc : Scene} {ahead behind : List Due} {d : Due} (hdues : dues = ahead ++ d :: behind)
    (hsucceeded : ∀ other ∈ ahead, other.result.status = 0) (hfailed : d.result.status ≠ 0)
    (hcommits : m.Commits ahead (some d) start sc)
    (hleft : ∀ other ∈ d :: behind, other.IsLeft m start sc)
    (hstates : ∀ other ∈ behind, sc.states other.role = start.states other.role) :
    CommitsAll m dues start
      (.error (.unitRun d.role.id d.result.status (d.result.stdout ++ d.result.stderr))) sc

theorem CommitsAll.eq_ok_iff {dues : List Due} {r : Except Error Unit}
    (h : m.CommitsAll dues start r sc) :
  r = .ok () ↔ ∀ d ∈ dues, d.result.status = 0
  := by
  cases h with
  | all hsucceeded _ => exact ⟨fun _ => hsucceeded, fun _ => rfl⟩
  | @failed _ _ _ d hdues _ hfailed =>
      constructor
      · rintro ⟨⟩
      · intro hall
        exact absurd (hall d (by simp [hdues])) hfailed

theorem role_ne_of_nodup {ahead behind : List Due} (h : ((ahead ++ behind).map Due.role).Nodup) :
  ∀ first ∈ ahead, ∀ second ∈ behind, first.role ≠ second.role
  := by
  rw [List.map_append] at h
  intro first hfirst second hsecond
  exact (List.nodup_append.mp h).2.2 _ (List.mem_map_of_mem hfirst) _
    (List.mem_map_of_mem hsecond)

/-- The first unit that has not succeeded is left as it is, and so are those behind it. -/
theorem Commits.commitsAll_exit (h : m.Commits done none start sc)
    (hready : ∀ other ∈ done ++ d :: rest, ∃ host u, other.IsReady m start host u)
    (hnodup : ((done ++ d :: rest).map Due.role).Nodup)
    (hsucceeded : ∀ other ∈ done, other.result.status = 0) (hfailed : d.result.status ≠ 0) :
  m.CommitsAll (done ++ d :: rest) start
    (.error (.unitRun d.role.id d.result.status (d.result.stdout ++ d.result.stderr)))
    (sc.setState d.role (.exited d.unit d.result.status))
  := by
  have hnew := role_ne_of_nodup hnodup
  have hexit := h.exit fun other hother => hnew other hother d List.mem_cons_self
  apply CommitsAll.failed rfl hsucceeded hfailed hexit
  · intro later hlater
    obtain ⟨host, u, hd⟩ := hready later (List.mem_append_right _ hlater)
    exact hexit.isLeft (fun other hother => hready other (List.mem_append_left _ hother)) hd
      fun other hother => hnew other hother later hlater
  · rw [List.append_cons] at hnodup
    intro later hlater
    apply hexit.other_eq
    · exact fun other hother => hnew other hother later (List.mem_cons_of_mem d hlater)
    · rintro _ ⟨⟩
      exact role_ne_of_nodup hnodup d (by simp) later hlater

/-- Units are committed one after the other, up to the first that has not succeeded. -/
theorem Commits.leads_sequence (h : m.Commits done none start sc)
    (hready : ∀ d ∈ done ++ rest, ∃ host u, d.IsReady m start host u)
    (hnodup : ((done ++ rest).map Due.role).Nodup)
    (hsucceeded : ∀ d ∈ done, d.result.status = 0) {Q : Except Error Unit → Scene → Prop}
    (hQ : ∀ r sc', m.CommitsAll (done ++ rest) start r sc' → Q r sc') :
  sc.Leads (Program.sequence (rest.map fun d => m.commitUnit d.unit)) fun r sc' =>
    Q (r.map fun _ => ()) sc'
  := by
  -- Those before are committed already, so the next one is still there with its checkpoint.
  induction rest generalizing sc done with
  | nil =>
      apply leads_pure
      rw [List.append_nil] at hQ
      exact hQ _ _ (.all hsucceeded h)
  | cons d rest ih =>
      have hnew := fun other hother => role_ne_of_nodup hnodup other hother d List.mem_cons_self
      obtain ⟨host, u, hd⟩ := hready d List.mem_append_cons_self
      obtain ⟨host', hd⟩ := h.exists_isReady
        (fun other hother => hready other (List.mem_append_left _ hother)) hd hnew (by simp)
      apply leads_bind
      apply hd.leads_commitUnit
      · intro hfailed
        exact hQ _ _ (h.commitsAll_exit hready hnodup hsucceeded hfailed)
      · intro hstatus
        rw [Then]
        rw [List.append_cons] at hready hnodup hQ
        have hall : ∀ other ∈ done ++ [d], other.result.status = 0 :=
          List.forall_mem_append.mpr ⟨hsucceeded, List.forall_mem_singleton.mpr hstatus⟩
        apply leads_bind
        apply (ih (h.step hd hnew) hready hnodup hall hQ).mono
        rintro (e | as) sc' hq
        · exact hq
        · exact leads_pure hq

/-- Units of different roles that are running are committed together. -/
theorem leads_commit_of_isReady {dues : List Due}
    (hready : ∀ d ∈ dues, ∃ host u, d.IsReady m sc host u) (hnodup : (dues.map Due.role).Nodup) :
  sc.Leads (m.commit (dues.map Due.unit)) (m.CommitsAll dues sc)
  := by
  have hsequence := (Commits.refl m sc).leads_sequence hready hnodup (List.forall_mem_nil _)
    fun _ _ hall => hall
  apply leads_bind
  apply leads_all
  rw [List.map_map]
  apply hsequence.mono
  rintro (e | as) sc' hall
  · exact hall
  · exact leads_pure hall

end Sequence

/-! ### Between operations -/

namespace Session

variable {hosts : Cluster} {s : Session} {events : List Event} {dues : List Due}

/-- A unit that a role runs between operations can be committed, as long as it is there. -/
theorem IsSound.exists_isReady (h : s.IsSound m) (hsupplied : m.IsSupplied s.world.scene)
    (hd : d.IsRunning s.world.scene) :
  ∃ host u, d.IsReady m s.world.scene host u
  := by
  have hstate : s.world.scene.states d.role ≠ .noImage := by
    rw [hd.state_eq]
    rintro ⟨⟩
  obtain ⟨host, hat⟩ := h.sound.exists_at hstate
  have hknows := h.sound.knows hat (by rw [hd.state_eq]; rfl)
  obtain ⟨u, hunit, hresult⟩ := Option.map_eq_some_iff.mp hd.result_eq
  rw [Scene.unit?, hknows.host_eq, hat.hosts_eq, Option.bind_some] at hunit
  obtain ⟨found, hfound, htagged⟩ :=
    hsupplied.exists_isTagged (mem_roles_of_hostFor hat.hostFor_eq) hstate
  rw [hat.eq hfound] at htagged
  exact ⟨host, u, hat, hknows.host_eq, hknows.role_eq, hd.state_eq, hunit,
    (hknows.isKept hunit).name_eq, hresult, htagged.checkpoint_mem hstate⟩

/-- In a session whose base image is told apart from the tags of the roles, units of different roles
that are running are committed together.  This succeeds just if all of them have, and then all
roles have new checkpoints.  Else the error is that of the first unit that has not: the roles
before it have new checkpoints, its own role exits, and it is left as it is with those behind
it. -/
theorem run_commit (hthere : m.fabric.IsThere (start hosts).world.scene) (hapart : m.IsApart)
    (hadmits : (start hosts).Admits m events)
    (hrunning : ∀ d ∈ dues, d.IsRunning ((start hosts).run m events).world.scene)
    (hroles : (dues.map Due.role).Nodup) :
  let w := ((start hosts).run m events).world
  ∃ r w', World.run Cluster.layer (m.commit (dues.map Due.unit)) w = (some r, w')
    ∧ (r = .ok () ↔ ∀ d ∈ dues, d.result.status = 0) ∧ m.CommitsAll dues w.scene r w'.scene
  := by
  intro w
  obtain ⟨hsound, -⟩ := (isSound_start hthere).run hadmits
  have hsupplied := (isSound_start hthere).isSupplied_run hapart (isSupplied_start m hosts) hadmits
  have hready := fun d hd => hsound.exists_isReady hsupplied (hrunning d hd)
  have hleads : w.scene.Leads (m.commit (dues.map Due.unit)) _ :=
    leads_commit_of_isReady hready hroles
  obtain ⟨r, w', hrun, -, hall⟩ := hleads w rfl hsound.deadline_eq
  exact ⟨r, w', hrun, hall.eq_ok_iff, hall⟩

/-- Hosts as those with one source, where the receiver fails. -/
def failingHosts : Cluster :=
  let behaviour : Behaviour := fun _ spec =>
    if spec.name = "receiver" then ⟨3, "received", "disconnected"⟩ else ⟨0, "", ""⟩
  [(Memory.empty .localhost behaviour).addImage lone.image.base]

/-- All roles are launched, the source first. -/
def allRunning : List Event :=
  [.operate .prepareImages, .operate (.runRole (.source 0) "generate" .none),
    .operate (.runRole .helper "serve" .none), .operate (.runRole .receiver "receive" .none)]

/-- The unit of the source, then that of the receiver, then that of the helper. -/
def allDue : List Due :=
  [⟨.source 0, ⟨.localhost, "localhost-unit-2", (Role.source 0).id⟩, ⟨0, "", ""⟩⟩,
    ⟨.receiver, ⟨.localhost, "localhost-unit-4", Role.receiver.id⟩,
      ⟨3, "received", "disconnected"⟩⟩,
    ⟨.helper, ⟨.localhost, "localhost-unit-3", Role.helper.id⟩, ⟨0, "", ""⟩⟩]

theorem isThere_failingHosts :
  lone.fabric.IsThere (start failingHosts).world.scene
  := by
  intro id hid
  obtain rfl := List.mem_singleton.mp hid
  exact ⟨_, rfl⟩

theorem isRunning_allDue :
  ∀ d ∈ allDue, d.IsRunning ((start failingHosts).run lone allRunning).world.scene
  := by
  rw [allDue, List.forall_mem_cons, List.forall_mem_cons, List.forall_mem_singleton]
  exact ⟨⟨by decide +kernel, by decide +kernel⟩, ⟨by decide +kernel, by decide +kernel⟩,
    ⟨by decide +kernel, by decide +kernel⟩⟩

/-- The unit of the receiver has not succeeded, so that of the helper is left as it is. -/
theorem run_commit_allRunning :
  let w := ((start failingHosts).run lone allRunning).world
  ∃ e w', World.run Cluster.layer (lone.commit (allDue.map Due.unit)) w = (some (.error e), w')
    ∧ lone.CommitsAll allDue w.scene (.error e) w'.scene
  := by
  intro w
  obtain ⟨r, w', hrun, hiff, hall⟩ := run_commit isThere_failingHosts
    (isApart_of_image Environment.isApart_usual) (by decide +kernel) isRunning_allDue (by decide)
  cases r with
  | error e => exact ⟨e, w', hrun, hall⟩
  | ok done => exact absurd (hiff.mp rfl) (by decide)

end Session

end Manager

end JoinBench
