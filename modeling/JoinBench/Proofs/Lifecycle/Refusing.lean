import JoinBench.Proofs.Lifecycle.Supplied

/-!
# Putting back roles while one is busy

Whether a role is busy is only asked when it is its turn to be put back.  So putting back all roles
never succeeds while one of them is launching or running: the first that is, and all roles behind
it, are left as they are.  But the roles in front of it are put back to the base image before, and
lose the checkpoints that they had.
-/

namespace JoinBench.Manager

open Host

variable {m : Manager} {roles more ahead behind : List Role} {role other : Role} {id : HostId}
  {sc sc' sc'' : Scene} {e : Error}

/-! ### What is left as it is -/

/-- Nothing is different but the states of some roles, and what is behind their tags. -/
structure ChangesOnly (m : Manager) (roles : List Role) (sc sc' : Scene) : Prop where
  states_eq : ∀ role, role ∉ roles → sc'.states role = sc.states role
  hosts_eq_none : ∀ id, sc.hosts id = none → sc'.hosts id = none
  exists_images : ∀ id host, sc.hosts id = some host →
    ∃ images, sc'.hosts id = some { host with images := images }
      ∧ ∀ ref, (∀ role ∈ roles, m.checkpoint role ≠ ref ∧ m.stale role ≠ ref) →
        images[ref]? = host.images[ref]?

namespace ChangesOnly

theorem mono (h : m.ChangesOnly roles sc sc') (hsub : roles ⊆ more) :
  m.ChangesOnly more sc sc'
  where
    states_eq := fun role hrole => h.states_eq role fun hmem => hrole (hsub hmem)
    hosts_eq_none := h.hosts_eq_none
    exists_images := by
      intro id host hhost
      obtain ⟨images, himages, hsame⟩ := h.exists_images id host hhost
      exact ⟨images, himages, fun ref href => hsame ref fun role hrole => href role (hsub hrole)⟩

theorem trans (h : m.ChangesOnly roles sc sc') (h' : m.ChangesOnly roles sc' sc'') :
  m.ChangesOnly roles sc sc''
  where
    states_eq := fun role hrole => (h'.states_eq role hrole).trans (h.states_eq role hrole)
    hosts_eq_none := fun id hnone => h'.hosts_eq_none id (h.hosts_eq_none id hnone)
    exists_images := by
      intro id host hhost
      obtain ⟨images, himages, hsame⟩ := h.exists_images id host hhost
      obtain ⟨images', himages', hsame'⟩ := h'.exists_images id _ himages
      exact ⟨images', himages', fun ref href => (hsame' ref href).trans (hsame ref href)⟩

/-- An image that is no image of these roles is behind its tag as before. -/
theorem image?_eq (h : m.ChangesOnly roles sc sc') {ref : ImageRef}
    (href : ∀ role ∈ roles, m.checkpoint role ≠ ref ∧ m.stale role ≠ ref) (id : HostId) :
  sc'.image? id ref = sc.image? id ref
  := by
  rw [Scene.image?, Scene.image?]
  cases hhost : sc.hosts id with
  | none => rw [h.hosts_eq_none id hhost]
  | some host =>
      obtain ⟨images, himages, hsame⟩ := h.exists_images id host hhost
      rw [himages]
      exact hsame ref href

/-- Another role keeps its state, its checkpoint and its stale image. -/
theorem eq_of_notMem (h : m.ChangesOnly roles sc sc') (hrole : role ∉ roles) :
  sc'.states role = sc.states role
    ∧ ∀ id, sc'.image? id (m.checkpoint role) = sc.image? id (m.checkpoint role)
      ∧ sc'.image? id (m.stale role) = sc.image? id (m.stale role)
  := by
  have hne : ∀ other ∈ roles, other ≠ role := by
    rintro other hother rfl
    exact hrole hother
  refine ⟨h.states_eq role hrole, fun id => ⟨h.image?_eq ?_ id, h.image?_eq ?_ id⟩⟩
  · intro other hother
    exact ⟨checkpoint_inj.not.mpr (hne other hother), stale_ne_checkpoint m other role⟩
  · intro other hother
    exact ⟨(stale_ne_checkpoint m role other).symm, stale_inj.not.mpr (hne other hother)⟩

end ChangesOnly

theorem Restores.changesOnly (h : m.Restores roles sc sc') :
  m.ChangesOnly roles sc sc'
  where
    states_eq := fun role hrole => by rw [h.states_eq, if_neg hrole]
    hosts_eq_none := h.hosts_eq_none
    exists_images := by
      intro id host hhost
      obtain ⟨host', hhost', hrestores⟩ := h.exists_host id host hhost
      refine ⟨host'.images, ?_, ?_⟩
      · rw [hhost', ← hrestores.eq_images]
      · exact fun ref href => hrestores.other_eq ref fun role hrole _ => href role hrole

theorem ChangesOnly.refl (m : Manager) (roles : List Role) (sc : Scene) :
  m.ChangesOnly roles sc sc
  := ⟨fun _ _ => rfl, fun _ hnone => hnone, fun _ host hhost => ⟨host.images, hhost, fun _ _ => rfl⟩⟩

/-- A role that cannot be put back may have lost its own images. -/
theorem Stops.changesOnly (h : m.Stops role sc e sc') :
  m.ChangesOnly [role] sc sc'
  := by
  cases h with
  | busy => apply ChangesOnly.refl
  | unplaced => apply ChangesOnly.refl
  | @missing id host _ _ hid hhost _ =>
      constructor
      · exact fun _ _ => rfl
      · intro other hnone
        rw [Scene.hosts_setHost, Function.update_of_ne]
        · exact hnone
        · rintro rfl
          rw [hhost] at hnone
          cases hnone
      · intro other found hfound
        rw [Scene.hosts_setHost]
        by_cases hsame : other = id
        · subst hsame
          obtain rfl := Option.some_inj.mp (hhost.symm.trans hfound)
          refine ⟨(m.untagged role host).images, Function.update_self _ _ _, ?_⟩
          intro ref href
          obtain ⟨hcheckpoint, hstale⟩ := href role (List.mem_singleton_self role)
          exact getElem?_images_untagged hcheckpoint hstale
        · rw [Function.update_of_ne hsame]
          exact ⟨found.images, hfound, fun _ _ => rfl⟩

/-! ### The first role that is busy -/

/-- A part in front of another that does not hold its last role ends there or before. -/
theorem eq_or_of_append_eq {done rest : List Role} {first : Role}
    (h : ahead ++ role :: behind = done ++ first :: rest) (hnot : role ∉ done) :
  done = ahead ∧ first = role ∨ ∃ back, ahead = done ++ first :: back
  := by
  obtain ⟨back, rfl, hback⟩ | ⟨back, rfl, hback⟩ := List.append_eq_append_iff.mp h
  · cases back with
    | nil =>
        cases hback
        exact .inl ⟨List.append_nil _, rfl⟩
    | cons =>
        cases hback
        simp at hnot
  · cases back with
    | nil =>
        cases hback
        exact .inl ⟨(List.append_nil _).symm, rfl⟩
    | cons =>
        cases hback
        exact .inr ⟨_, rfl⟩

/-- While a role is busy the roles are not put back: the first that is busy and those behind it are
left as they are.  If those in front of it are on hosts with the base image, they are put back, and
the error is that of the busy role. -/
theorem leads_prepareImages_of_isBusy (hthere : m.fabric.IsThere sc)
    (hroles : m.topology.roles = ahead ++ role :: behind)
    (hbusy : (sc.states role).isBusy = true)
    (hfree : ∀ other ∈ ahead, (sc.states other).isBusy = false) :
  sc.Leads m.prepareImages fun r sc' => ∃ e, r = .error e ∧ m.ChangesOnly ahead sc sc'
    ∧ (m.IsApart → (∀ other ∈ ahead, m.HasBase sc other) →
      e = .lifecycle role.id .imageInUse ∧ m.Restores ahead sc sc')
  := by
  apply leads_prepareImages_cases hthere
  · intro sc' _ hrestorable
    have hidle := hrestorable.isBusy_eq role (by simp [hroles])
    rw [hbusy] at hidle
    cases hidle
  · intro done first rest sc' e sc'' hdone hrestores hrestorable hstops
    refine ⟨e, rfl, ?_⟩
    have hnot : role ∉ done := by
      intro hmem
      have hidle := hrestorable.isBusy_eq role hmem
      rw [hbusy] at hidle
      cases hidle
    obtain ⟨rfl, rfl⟩ | ⟨back, rfl⟩ := eq_or_of_append_eq (hroles.symm.trans hdone) hnot
    · have hstate : (sc'.states first).isBusy = true := by
        rw [hrestores.states_eq, if_neg hnot, hbusy]
      cases hstops with
      | busy => exact ⟨hrestores.changesOnly, fun _ _ => ⟨rfl, hrestores⟩⟩
      | unplaced hidle =>
          rw [hstate] at hidle
          cases hidle
      | missing _ hidle =>
          rw [hstate] at hidle
          cases hidle
    · constructor
      · apply (hrestores.changesOnly.mono (List.subset_append_left _ _)).trans
        apply hstops.changesOnly.mono
        simp
      · intro hapart hbase
        have hall : m.Restorable (done ++ first :: back) sc := ⟨hthere, hfree, hbase⟩
        exact absurd hstops (hall.not_stops hapart hrestores List.mem_append_cons_self)

/-! ### Between operations -/

namespace Session

variable {hosts : Cluster} {events : List Event}

/-- The surroundings of a session while the launches of some roles are under way: those of them that
can be launched are launching. -/
def underWay (s : Session) (roles : List Role) : World Cluster :=
  { s.world with
    states := fun role =>
      if role ∈ roles ∧ (s.world.states role).canLaunch then .launching else s.world.states role }

theorem ne_noImage_of_isBusy {s : Session}
    (hbusy : ((s.underWay roles).states role).isBusy = true) :
  s.world.states role ≠ .noImage
  := by
  intro hnone
  simp [underWay, hnone, UnitState.canLaunch, UnitState.isBusy] at hbusy

/-- In a session in which a role is launching or running, putting back all roles fails.  The first
role that is busy and all behind it keep their states and images, and nothing else is different but
the states and images of the roles in front of it.  Where the base image is told apart from the
tags of the roles, these are put back, and the error is that of the busy role. -/
theorem run_prepareImages_isBusy (hthere : m.fabric.IsThere (start hosts).world.scene)
    (hadmits : (start hosts).Admits m events)
    (hbusy : ∃ role, ((((start hosts).run m events).underWay roles).states role).isBusy = true) :
  let w := ((start hosts).run m events).underWay roles
  ∃ ahead role behind e w', m.topology.roles = ahead ++ role :: behind
    ∧ (w.states role).isBusy = true ∧ (∀ other ∈ ahead, (w.states other).isBusy = false)
    ∧ World.run Cluster.layer m.prepareImages w = (some (.error e), w')
    ∧ m.ChangesOnly ahead w.scene w'.scene
    ∧ (∀ other ∈ role :: behind, w'.states other = w.states other
      ∧ ∀ id, w'.scene.image? id (m.checkpoint other) = w.scene.image? id (m.checkpoint other)
        ∧ w'.scene.image? id (m.stale other) = w.scene.image? id (m.stale other))
    ∧ (m.IsApart → e = .lifecycle role.id .imageInUse ∧ m.Restores ahead w.scene w'.scene)
  := by
  intro w
  obtain ⟨hsound, -⟩ := (isSound_start hthere).run hadmits
  obtain ⟨busy, hbusy⟩ := hbusy
  have hmem : busy ∈ m.topology.roles := by
    obtain ⟨id, hid⟩ := hsound.sound.exists_hostFor (ne_noImage_of_isBusy hbusy)
    exact mem_roles_of_hostFor hid
  have hsome : (m.topology.roles.find? fun other => (w.states other).isBusy).isSome = true :=
    List.find?_isSome.mpr ⟨busy, hmem, hbusy⟩
  obtain ⟨role, hfind⟩ := Option.isSome_iff_exists.mp hsome
  obtain ⟨hrole, ahead, behind, hroles, hfree⟩ := List.find?_eq_some_iff_append.mp hfind
  have hfree : ∀ other ∈ ahead, (w.states other).isBusy = false := by
    simpa using hfree
  have hleads : w.scene.Leads m.prepareImages _ :=
    leads_prepareImages_of_isBusy hsound.sound.isThere hroles hrole hfree
  obtain ⟨_, w', hrun, -, e, rfl, honly, hput⟩ := hleads w rfl hsound.deadline_eq
  refine ⟨ahead, role, behind, e, w', hroles, hrole, hfree, hrun, honly, ?_, ?_⟩
  · intro other hother
    apply honly.eq_of_notMem
    have hnodup := m.topology.nodup_roles
    rw [hroles] at hnodup
    exact fun hmem => (List.nodup_append.mp hnodup).2.2 other hmem other hother rfl
  · intro hapart
    have hsupplied := (isSound_start hthere).isSupplied_run hapart (isSupplied_start m hosts) hadmits
    have hbase := hsupplied.hasBase hroles (ne_noImage_of_isBusy hrole)
    exact hput hapart fun other hother => hbase other (List.mem_append_left _ hother)

/-- The unit of the source, where it is launched first. -/
def loneSource : UnitHandle :=
  ⟨.localhost, "localhost-unit-2", (Role.source 0).id⟩

/-- The source has a checkpoint of its own, and the helper is running. -/
def checkpointed : List Event :=
  [.operate .prepareImages, .operate (.runRole (.source 0) "generate" .none),
    .operate (.commit [loneSource]), .operate (.runRole .helper "serve" .none)]

/-- The roles cannot be put back while the helper is running and the receiver is launching. -/
theorem run_prepareImages_isBusy_checkpointed :
  let w := ((start loneHosts).run lone checkpointed).underWay [.receiver]
  ∃ ahead role behind e w', lone.topology.roles = ahead ++ role :: behind
    ∧ (w.states role).isBusy = true ∧ (∀ other ∈ ahead, (w.states other).isBusy = false)
    ∧ World.run Cluster.layer lone.prepareImages w = (some (.error e), w')
    ∧ lone.ChangesOnly ahead w.scene w'.scene
    ∧ (∀ other ∈ role :: behind, w'.states other = w.states other
      ∧ ∀ id, w'.scene.image? id (lone.checkpoint other) = w.scene.image? id (lone.checkpoint other)
        ∧ w'.scene.image? id (lone.stale other) = w.scene.image? id (lone.stale other))
    ∧ (lone.IsApart → e = .lifecycle role.id .imageInUse ∧ lone.Restores ahead w.scene w'.scene)
  := run_prepareImages_isBusy isThere_loneHosts (by decide +kernel) ⟨.helper, by decide +kernel⟩

/-- Two sources, and a base image under the name of the helper. -/
def twoSources : Manager :=
  { lone with
    topology := ⟨[.localhost, .localhost], .localhost, .localhost⟩
    image := { baseTag := "helper" } }

/-- Putting back roles while the helper is running takes the checkpoint of the source and its state.
With a base image under the name of the helper, it fails for another reason while a source is
running. -/
theorem exists_run_prepareImages_ne :
  (let s := (start loneHosts).run lone checkpointed;
    let (result, w) := World.run Cluster.layer lone.prepareImages s.world;
    (start loneHosts).Admits lone checkpointed ∧ (s.world.states .helper).isBusy = true
      ∧ result = some (.error (.lifecycle Role.helper.id .imageInUse))
      ∧ s.world.states (.source 0) = .committed ∧ w.states (.source 0) = .baseImage
      ∧ w.scene.image? .localhost (lone.checkpoint (.source 0))
        ≠ s.world.scene.image? .localhost (lone.checkpoint (.source 0)))
  ∧ (let hosts := [(Memory.empty .localhost fun _ _ => {}).addImage twoSources.image.base];
    let events := [.operate .prepareImages, .operate (.runRole (.source 1) "generate" .none)];
    let s := (start hosts).run twoSources events;
    (start hosts).Admits twoSources events ∧ (s.world.states (.source 1)).isBusy = true
      ∧ (World.run Cluster.layer twoSources.prepareImages s.world).1
        = some (.error (.runtime .localhost .tag "no such image: mppj:helper")))
  := by
  decide +kernel

end Session

end JoinBench.Manager
