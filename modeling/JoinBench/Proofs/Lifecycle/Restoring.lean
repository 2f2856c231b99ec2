import JoinBench.Proofs.Host.Numbers
import JoinBench.Proofs.Lifecycle.Invariant
import JoinBench.Proofs.Lifecycle.Stocked

/-!
# Resetting from any state

Whatever hosts hold that are reachable, and whatever the states of the roles are, cleaning all hosts
and putting back the roles removes exactly the units with the label and gives every role the base
image, and nothing else changes.  Putting back the roles again changes nothing.  Then the first
launch of a role succeeds just if no unit without the label has its name, whichever roles are
launched before it.
-/

namespace JoinBench.Manager

open Host

variable {m : Manager} {roles done : List Role} {role : Role} {id : HostId}
  {host host' : Memory} {start sc sc' : Scene}

/-! ### Putting back roles -/

/-- What putting back roles makes of a host: behind the checkpoints of those that are placed on it
is the base image, their stale images are gone, and nothing else is different. -/
structure RestoresHost (m : Manager) (roles : List Role) (id : HostId) (host host' : Memory) :
    Prop where
  eq_images : host' = { host with images := host'.images }
  checkpoint_eq : ∀ role ∈ roles, m.hostFor role = .ok id →
    host'.images[m.checkpoint role]? = host.images[m.image.base]?
  stale_eq : ∀ role ∈ roles, m.hostFor role = .ok id → host'.images[m.stale role]? = none
  other_eq : ∀ ref, (∀ role ∈ roles, m.hostFor role = .ok id →
    m.checkpoint role ≠ ref ∧ m.stale role ≠ ref) → host'.images[ref]? = host.images[ref]?

/-- What putting back roles makes of a scene. -/
structure Restores (m : Manager) (roles : List Role) (start sc : Scene) : Prop where
  states_eq : ∀ role, sc.states role = if role ∈ roles then .baseImage else start.states role
  hosts_eq_none : ∀ id, start.hosts id = none → sc.hosts id = none
  exists_host : ∀ id host, start.hosts id = some host →
    ∃ host', sc.hosts id = some host' ∧ m.RestoresHost roles id host host'

namespace RestoresHost

theorem refl (m : Manager) (id : HostId) (host : Memory) :
  m.RestoresHost [] id host host
  where
    eq_images := rfl
    checkpoint_eq := List.forall_mem_nil _
    stale_eq := List.forall_mem_nil _
    other_eq := fun _ _ => rfl

/-- The base image stays. -/
theorem base_eq (h : m.RestoresHost roles id host host')
    (hapart : ∀ role ∈ roles, m.hostFor role = .ok id → m.image.IsApartFrom role) :
  host'.images[m.image.base]? = host.images[m.image.base]?
  := by
  apply h.other_eq
  intro role hrole hid
  have hapart := hapart role hrole hid
  exact ⟨checkpoint_ne_base hapart, stale_ne_base hapart⟩

theorem base_eq_of_isApart (h : m.RestoresHost roles id host host') (hapart : m.IsApart) :
  host'.images[m.image.base]? = host.images[m.image.base]?
  := h.base_eq fun role _ hid => hapart role (mem_roles_of_hostFor hid)

/-- A further role of the host is put back. -/
theorem step (h : m.RestoresHost done id host host') (hid : m.hostFor role = .ok id)
    {image : Nat} (himage : host.images[m.image.base]? = some image) :
  m.RestoresHost (done ++ [role]) id host (m.retagged role image host')
  where
    eq_images := by
      rw [retagged, untagged, h.eq_images]
    checkpoint_eq := by
      intro other hother hplaced
      rw [getElem?_images_retagged (stale_ne_checkpoint m role other)]
      split_ifs with hsame
      · exact himage.symm
      · obtain hdone | hlast := List.mem_append.mp hother
        · exact h.checkpoint_eq other hdone hplaced
        · rw [List.mem_singleton.mp hlast] at hsame
          exact absurd rfl hsame
    stale_eq := by
      intro other hother hplaced
      have hcheckpoint : m.checkpoint role ≠ m.stale other :=
        (stale_ne_checkpoint m other role).symm
      by_cases hsame : m.stale role = m.stale other
      · simp [retagged, untagged, hcheckpoint, hsame]
      · rw [getElem?_images_retagged hsame, if_neg hcheckpoint]
        obtain hdone | hlast := List.mem_append.mp hother
        · exact h.stale_eq other hdone hplaced
        · rw [List.mem_singleton.mp hlast] at hsame
          exact absurd rfl hsame
    other_eq := by
      intro ref href
      obtain ⟨hcheckpoint, hstale⟩ := href role (by simp) hid
      rw [getElem?_images_retagged hstale, if_neg hcheckpoint]
      apply h.other_eq
      exact fun other hother => href other (List.mem_append_left _ hother)

/-- A role that is placed elsewhere is put back. -/
theorem step_other (h : m.RestoresHost done id host host') (hid : m.hostFor role ≠ .ok id) :
  m.RestoresHost (done ++ [role]) id host host'
  := by
  have hdone : ∀ other ∈ done ++ [role], m.hostFor other = .ok id → other ∈ done := by
    intro other hother hplaced
    obtain hdone | hlast := List.mem_append.mp hother
    · exact hdone
    · rw [List.mem_singleton.mp hlast] at hplaced
      exact absurd hplaced hid
  constructor
  · exact h.eq_images
  · exact fun other hother hplaced => h.checkpoint_eq other (hdone other hother hplaced) hplaced
  · exact fun other hother hplaced => h.stale_eq other (hdone other hother hplaced) hplaced
  · intro ref href
    apply h.other_eq
    exact fun other hother => href other (List.mem_append_left _ hother)

end RestoresHost

namespace Restores

theorem refl (m : Manager) (sc : Scene) :
  m.Restores [] sc sc
  where
    states_eq := by simp
    hosts_eq_none := fun _ hnone => hnone
    exists_host := fun id host hhost => ⟨host, hhost, .refl m id host⟩

theorem isThere (h : m.Restores roles start sc) (hthere : m.fabric.IsThere start) :
  m.fabric.IsThere sc
  := by
  intro id hid
  obtain ⟨host, hhost⟩ := hthere id hid
  obtain ⟨host', hhost', -⟩ := h.exists_host id host hhost
  exact ⟨host', hhost'⟩

theorem step (h : m.Restores done start sc) (hid : m.hostFor role = .ok id)
    (hhost : start.hosts id = some host) (hhost' : sc.hosts id = some host') {image : Nat}
    (himage : host.images[m.image.base]? = some image) :
  m.Restores (done ++ [role]) start
    ((sc.setHost id (m.retagged role image host')).setState role .baseImage)
  where
    states_eq := by
      intro other
      rw [Scene.states_setState, Scene.states_setHost, Function.update_apply, h.states_eq]
      by_cases hsame : other = role
      · simp [hsame]
      · simp [hsame]
    hosts_eq_none := by
      intro other hnone
      have hne : other ≠ id := by
        rintro rfl
        rw [hhost] at hnone
        cases hnone
      rw [Scene.hosts_setState, Scene.hosts_setHost, Function.update_of_ne hne]
      exact h.hosts_eq_none other hnone
    exists_host := by
      intro other found hfound
      rw [Scene.hosts_setState, Scene.hosts_setHost]
      obtain ⟨found', hfound', hrestores⟩ := h.exists_host other found hfound
      by_cases hsame : other = id
      · subst hsame
        obtain rfl := Option.some_inj.mp (hhost.symm.trans hfound)
        obtain rfl := Option.some_inj.mp (hhost'.symm.trans hfound')
        rw [Function.update_self]
        exact ⟨_, rfl, hrestores.step hid himage⟩
      · rw [Function.update_of_ne hsame]
        refine ⟨found', hfound', hrestores.step_other ?_⟩
        rw [hid]
        rintro ⟨⟩
        exact hsame rfl

end Restores

/-- A role is placed on a host that holds the base image. -/
def HasBase (m : Manager) (sc : Scene) (role : Role) : Prop :=
  ∃ id host image, m.hostFor role = .ok id ∧ sc.hosts id = some host
    ∧ host.images[m.image.base]? = some image

/-- The roles can be put back: none is busy, and each is placed on a host that holds the base
image. -/
structure Restorable (m : Manager) (roles : List Role) (sc : Scene) : Prop where
  isThere : m.fabric.IsThere sc
  isBusy_eq : ∀ role ∈ roles, (sc.states role).isBusy = false
  exists_image : ∀ role ∈ roles, m.HasBase sc role

/-- A role cannot be put back: the error, and the scene behind it. -/
inductive Stops (m : Manager) (role : Role) (sc : Scene) : Error → Scene → Prop where
  | busy (hbusy : (sc.states role).isBusy = true) :
    Stops m role sc (.lifecycle role.id .imageInUse) sc
  | unplaced {e : Error} (hbusy : (sc.states role).isBusy = false)
    (hid : m.hostFor role = .error e) : Stops m role sc e sc
  /-- Once the images of the role are dropped there is no base image. -/
  | missing {id : HostId} {host : Memory} (e : Error) (hbusy : (sc.states role).isBusy = false)
    (hid : m.hostFor role = .ok id) (hhost : sc.hosts id = some host)
    (hbase : m.image.base ∉ (m.untagged role host).images) :
    Stops m role sc e (sc.setHost id (m.untagged role host))

/-- Only where the base image is told apart from the tags of a role it stays when these are
dropped. -/
theorem isApartFrom_of_untagged {image : Nat}
    (h : (m.untagged role host).images[m.image.base]? = some image) :
  m.image.IsApartFrom role
  := by
  rw [untagged, Std.ExtTreeMap.getElem?_erase, Std.ExtTreeMap.getElem?_erase] at h
  constructor
  · intro heq
    simp [ImageSettings.base, checkpoint, heq] at h
  · intro heq
    simp [ImageSettings.base, stale, heq, Role.staleTag] at h

section PuttingBack

open Scene

theorem Restorable.cons (h : m.Restorable roles sc) (hbusy : (sc.states role).isBusy = false)
    (hbase : m.HasBase sc role) :
  m.Restorable (role :: roles) sc
  where
    isThere := h.isThere
    isBusy_eq := List.forall_mem_cons.mpr ⟨hbusy, h.isBusy_eq⟩
    exists_image := List.forall_mem_cons.mpr ⟨hbase, h.exists_image⟩

theorem restorable_nil (hthere : m.fabric.IsThere sc) :
  m.Restorable [] sc
  := ⟨hthere, List.forall_mem_nil _, List.forall_mem_nil _⟩

/-- Roles are put back one after the other, up to the first that cannot be. -/
theorem Restores.leads_forEach (hdone : m.Restores done start sc)
    (hthere : m.fabric.IsThere start) (hnodup : (done ++ roles).Nodup)
    (hapart : ∀ role ∈ done, m.image.IsApartFrom role) {Q : Except Error Unit → Scene → Prop}
    (hok : ∀ sc', m.Restores (done ++ roles) start sc' → m.Restorable roles start →
      Q (.ok ()) sc')
    (hstops : ∀ ahead role behind sc' e sc'', roles = ahead ++ role :: behind →
      m.Restores (done ++ ahead) start sc' → m.Restorable ahead start →
      m.Stops role sc' e sc'' → Q (.error e) sc'') :
  sc.Leads (Program.forEach m.prepareImage roles) Q
  := by
  -- The roles before are put back already; the base image has stayed where it was.
  induction roles generalizing sc done with
  | nil =>
      apply leads_pure
      apply hok sc _ (restorable_nil hthere)
      rw [List.append_nil]
      exact hdone
  | cons role rest ih =>
      have hfirst : ∀ e sc'', m.Stops role sc e sc'' → Q (.error e) sc'' := by
        intro e sc'' h
        apply hstops [] role rest sc e sc'' rfl _ (restorable_nil hthere) h
        rw [List.append_nil]
        exact hdone
      apply leads_bind
      apply leads_prepareImage_of_isThere (hdone.isThere hthere)
      · intro hbusy
        exact hfirst _ _ (.busy hbusy)
      · intro e hbusy hid
        exact hfirst _ _ (.unplaced hbusy hid)
      · intro id host' e hbusy hid hhost' hbase
        exact hfirst _ _ (.missing e hbusy hid hhost' hbase)
      · intro id host' image hbusy hid hhost' himage
        have hnew : role ∉ done := fun hmem =>
          (List.nodup_append.mp hnodup).2.2 role hmem role List.mem_cons_self rfl
        rw [hdone.states_eq, if_neg hnew] at hbusy
        obtain ⟨host, hhost⟩ := hthere id (mem_hosts_of_hostFor hid)
        obtain ⟨found, hfound, hrestores⟩ := hdone.exists_host id host hhost
        obtain rfl := Option.some_inj.mp (hhost'.symm.trans hfound)
        have hrole := isApartFrom_of_untagged himage
        rw [getElem?_images_untagged (checkpoint_ne_base hrole) (stale_ne_base hrole),
          hrestores.base_eq fun other hother _ => hapart other hother] at himage
        have hbase : m.HasBase start role := ⟨id, host, image, hid, hhost, himage⟩
        rw [List.append_cons] at hnodup hok
        apply ih (hdone.step hid hhost hhost' himage) hnodup
        · exact List.forall_mem_append.mpr ⟨hapart, List.forall_mem_singleton.mpr hrole⟩
        · intro sc' hrestores hrest
          exact hok sc' hrestores (hrest.cons hbusy hbase)
        · intro ahead other behind sc' e sc'' hrest hrestores hahead
          rw [← List.append_cons] at hrestores
          apply hstops (role :: ahead) other behind sc' e sc'' _ hrestores (hahead.cons hbusy hbase)
          rw [hrest, List.cons_append]

theorem leads_prepareImages_cases (hthere : m.fabric.IsThere sc)
    {Q : Except Error Unit → Scene → Prop}
    (hok : ∀ sc', m.Restores m.topology.roles sc sc' → m.Restorable m.topology.roles sc →
      Q (.ok ()) sc')
    (hstops : ∀ ahead role behind sc' e sc'', m.topology.roles = ahead ++ role :: behind →
      m.Restores ahead sc sc' → m.Restorable ahead sc → m.Stops role sc' e sc'' →
        Q (.error e) sc'') :
  sc.Leads m.prepareImages Q
  := (Restores.refl m sc).leads_forEach hthere m.topology.nodup_roles (List.forall_mem_nil _) hok
    hstops

/-- Nothing stops roles that can be put back. -/
theorem Restorable.not_stops {e : Error} (h : m.Restorable roles start) (hapart : m.IsApart)
    (hdone : m.Restores done start sc) (hrole : role ∈ roles) :
  ¬ m.Stops role sc e sc'
  := by
  obtain ⟨id, host, image, hid, hhost, himage⟩ := h.exists_image role hrole
  intro hstops
  cases hstops with
  | busy hbusy =>
      rw [hdone.states_eq] at hbusy
      split_ifs at hbusy
      · cases hbusy
      · rw [h.isBusy_eq role hrole] at hbusy
        cases hbusy
  | unplaced _ hunplaced =>
      rw [hid] at hunplaced
      cases hunplaced
  | missing e _ hid' hhost' hbase =>
      obtain rfl := Except.ok.inj (hid.symm.trans hid')
      obtain ⟨found, hfound, hrestores⟩ := hdone.exists_host id host hhost
      obtain rfl := Option.some_inj.mp (hhost'.symm.trans hfound)
      apply hbase
      rw [base_mem_untagged (hapart role (mem_roles_of_hostFor hid)),
        Std.ExtTreeMap.mem_iff_isSome_getElem?, hrestores.base_eq_of_isApart hapart, himage]
      rfl

theorem Restorable.leads_prepareImages (h : m.Restorable m.topology.roles sc)
    (hapart : m.IsApart) {Q : Except Error Unit → Scene → Prop}
    (hQ : ∀ sc', m.Restores m.topology.roles sc sc' → Q (.ok ()) sc') :
  sc.Leads m.prepareImages Q
  := by
  apply leads_prepareImages_cases h.isThere
  · intro sc' hrestores _
    exact hQ sc' hrestores
  · intro ahead role behind sc' e sc'' hroles hrestores _ hstops
    have hrole : role ∈ m.topology.roles := by
      rw [hroles]
      exact List.mem_append_cons_self
    exact absurd hstops (h.not_stops hapart hrestores hrole)

/-- Once the roles are put back they can be put back again. -/
theorem Restores.restorable (h : m.Restores roles start sc) (hstart : m.Restorable roles start)
    (hapart : m.IsApart) :
  m.Restorable roles sc
  where
    isThere := h.isThere hstart.isThere
    isBusy_eq := by
      intro role hrole
      rw [h.states_eq, if_pos hrole]
      rfl
    exists_image := by
      intro role hrole
      obtain ⟨id, host, image, hid, hhost, himage⟩ := hstart.exists_image role hrole
      obtain ⟨host', hhost', hrestores⟩ := h.exists_host id host hhost
      exact ⟨id, host', image, hid, hhost', (hrestores.base_eq_of_isApart hapart).trans himage⟩

/-- A host of which the roles were put back is not changed by putting them back again. -/
theorem RestoresHost.eq_self {host'' : Memory} (h : m.RestoresHost roles id host host')
    (h' : m.RestoresHost roles id host' host'') (hapart : m.IsApart) :
  host'' = host'
  := by
  have himages : host''.images = host'.images := by
    apply Std.ExtTreeMap.ext_getElem?
    intro ref
    -- A tag of a role is determined by the base image, which stays; any other is left as it is.
    by_cases hrole : ∃ role ∈ roles, m.hostFor role = .ok id
        ∧ (m.checkpoint role = ref ∨ m.stale role = ref)
    · obtain ⟨role, hrole, hid, rfl | rfl⟩ := hrole
      · rw [h'.checkpoint_eq role hrole hid, h.checkpoint_eq role hrole hid,
          h.base_eq_of_isApart hapart]
      · rw [h'.stale_eq role hrole hid, h.stale_eq role hrole hid]
    · apply h'.other_eq
      intro role hmem hid
      constructor
      · exact fun hcheckpoint => hrole ⟨role, hmem, hid, .inl hcheckpoint⟩
      · exact fun hstale => hrole ⟨role, hmem, hid, .inr hstale⟩
  rw [h'.eq_images, himages]

/-- Putting back roles once more changes nothing. -/
theorem Restores.eq_self (h : m.Restores roles start sc) (h' : m.Restores roles sc sc')
    (hapart : m.IsApart) :
  sc' = sc
  := by
  have hhosts : sc'.hosts = sc.hosts := by
    funext id
    cases hstart : start.hosts id with
    | none =>
        have hnone := h.hosts_eq_none id hstart
        rw [hnone, h'.hosts_eq_none id hnone]
    | some host =>
        obtain ⟨host', hhost', hrestores⟩ := h.exists_host id host hstart
        obtain ⟨host'', hhost'', hrestores'⟩ := h'.exists_host id host' hhost'
        rw [hhost', hhost'', hrestores.eq_self hrestores' hapart]
  have hstates : sc'.states = sc.states := by
    funext role
    rw [h'.states_eq]
    split_ifs with hrole
    · rw [h.states_eq, if_pos hrole]
    · rfl
  rw [Scene.mk.injEq]
  exact ⟨hhosts, hstates⟩

end PuttingBack

/-! ### Resetting -/

section Resetting

open Scene

/-- Cleans all hosts, puts back all roles and yields the number of units that were removed. -/
def reset (m : Manager) : Job Nat := do
  let removed ← m.cleanAll
  m.prepareImages
  return removed

/-- Puts back all roles so many times. -/
def prepareAgain (m : Manager) : (times : Nat) → Job Unit
  | 0 => return ()
  | times + 1 => do
    m.prepareImages
    m.prepareAgain times

/-- The scene behind cleaning: no unit of the fabric carries the label, and no role has an image. -/
def cleaned (m : Manager) (sc : Scene) : Scene :=
  { sc.swept m.label m.fabric.hosts with states := fun _ => .noImage }

/-- The hosts of the fabric can be reached, and those of the roles are among them and hold the base
image. -/
structure Resettable (m : Manager) (sc : Scene) : Prop where
  exists_host : ∀ id ∈ m.fabric.hosts, ∃ host, sc.hosts id = some host ∧ host.isDown = false
  exists_base : ∀ role ∈ m.topology.roles, ∃ id host, m.hostFor role = .ok id
    ∧ sc.hosts id = some host ∧ m.image.base ∈ host.images

namespace Resettable

theorem hosts_cleaned (hhost : sc.hosts id = some host) (hid : id ∈ m.fabric.hosts) :
  (m.cleaned sc).hosts id = some (host.swept m.label)
  := by
  have hswept : (m.cleaned sc).hosts id = (sc.swept m.label m.fabric.hosts).hosts id := rfl
  rw [hswept, hosts_swept_of_mem hid, hhost]
  rfl

/-- Once all hosts are clean the roles can be put back. -/
theorem restorable_cleaned (h : m.Resettable sc) :
  m.Restorable m.topology.roles (m.cleaned sc)
  where
    isThere := by
      intro id hid
      obtain ⟨host, hhost, -⟩ := h.exists_host id hid
      exact ⟨_, hosts_cleaned hhost hid⟩
    isBusy_eq := fun _ _ => rfl
    exists_image := by
      intro role hrole
      obtain ⟨id, host, hid, hhost, hbase⟩ := h.exists_base role hrole
      refine ⟨id, _, host.images[m.image.base], hid,
        hosts_cleaned hhost (mem_hosts_of_hostFor hid), ?_⟩
      exact Std.ExtTreeMap.getElem?_eq_some_getElem hbase

theorem leads_cleanAll (h : m.Resettable sc) {Q : Except Error Nat → Scene → Prop}
    (hQ : Q (.ok (∑ id ∈ m.fabric.hosts.toFinset, sc.labelledAt m.label id)) (m.cleaned sc)) :
  sc.Leads m.cleanAll Q
  := by
  apply leads_bind
  apply Fabric.leads_cleanAll_of_isThere
  · intro id hid
    obtain ⟨host, hhost, -⟩ := h.exists_host id hid
    exact ⟨host, hhost⟩
  · rintro e sc' - ⟨id, hid, host, hhost, hdown⟩
    obtain ⟨found, hfound, hup⟩ := h.exists_host id hid
    obtain rfl := Option.some_inj.mp (hfound.symm.trans hhost)
    rw [hup] at hdown
    cases hdown
  · apply leads_bind
    apply leads_forgetStates
    exact leads_pure hQ

/-- Resetting removes and counts exactly the units with the label, and then puts back the roles. -/
theorem leads_reset (h : m.Resettable sc) (hapart : m.IsApart) :
  sc.Leads m.reset fun r sc' =>
    r = .ok (∑ id ∈ m.fabric.hosts.toFinset, sc.labelledAt m.label id)
      ∧ m.Restores m.topology.roles (m.cleaned sc) sc'
  := by
  apply leads_bind
  apply h.leads_cleanAll
  rw [Then]
  apply leads_bind
  apply h.restorable_cleaned.leads_prepareImages hapart
  intro sc' hrestores
  rw [Then]
  apply leads_pure
  exact ⟨rfl, hrestores⟩

end Resettable

/-- Once the roles are put back, putting them back any number of times changes nothing. -/
theorem Restores.leads_prepareAgain (h : m.Restores m.topology.roles start sc)
    (hstart : m.Restorable m.topology.roles start) (hapart : m.IsApart) (times : Nat) :
  sc.Leads (m.prepareAgain times) fun r sc' => r = .ok () ∧ sc' = sc
  := by
  induction times with
  | zero => exact leads_pure ⟨rfl, rfl⟩
  | succ times ih =>
      apply leads_bind
      apply (h.restorable hstart hapart).leads_prepareImages hapart
      intro sc' hagain
      rw [h.eq_self hagain hapart]
      exact ih

end Resetting

/-! ### First launches -/

section Launching

/-- The role can be launched on its host, and its name is taken there just if `taken` says so. -/
structure Awaits (m : Manager) (role : Role) (id : HostId) (taken : Bool) (sc : Scene) : Prop where
  isThere : m.fabric.IsThere sc
  hostFor_eq : m.hostFor role = .ok id
  canLaunch_eq : (sc.states role).canLaunch = true
  exists_host : ∃ host, sc.hosts id = some host ∧ host.reachableRuns = none ∧ host.IsNumbered
    ∧ m.checkpoint role ∈ host.images ∧ host.hasName role.id.text = taken

variable {taken : Bool} {command : String} {flags : UnitFlags}

/-- A host gets other launch requests or units with other names. -/
theorem Awaits.setHost (h : m.Awaits role id taken sc) {otherId : HostId} {found new : Memory}
    (hfound : sc.hosts otherId = some found) (hnumbered : found.IsNumbered → new.IsNumbered)
    (hname : found.IsNumbered → new.hasName role.id.text = found.hasName role.id.text)
    (hreach : new.reachableRuns = found.reachableRuns) (himages : new.images = found.images) :
  m.Awaits role id taken (sc.setHost otherId new)
  where
    isThere := h.isThere.setHost otherId new
    hostFor_eq := h.hostFor_eq
    canLaunch_eq := h.canLaunch_eq
    exists_host := by
      obtain ⟨host, hhost, hup, hnumbers, himage, htaken⟩ := h.exists_host
      rw [Scene.hosts_setHost]
      by_cases hsame : id = otherId
      · subst hsame
        obtain rfl := Option.some_inj.mp (hhost.symm.trans hfound)
        rw [Function.update_self]
        refine ⟨new, rfl, hreach.trans hup, hnumbered hnumbers, ?_, (hname hnumbers).trans htaken⟩
        rw [himages]
        exact himage
      · rw [Function.update_of_ne hsame]
        exact ⟨host, hhost, hup, hnumbers, himage, htaken⟩

theorem Awaits.setState (h : m.Awaits role id taken sc) {other : Role} (hother : other ≠ role)
    (state : UnitState) :
  m.Awaits role id taken (sc.setState other state)
  where
    isThere := h.isThere
    hostFor_eq := h.hostFor_eq
    canLaunch_eq := by
      rw [Scene.states_setState, Function.update_of_ne hother.symm]
      exact h.canLaunch_eq
    exists_host := h.exists_host

/-- The launch of another role does not matter. -/
theorem Awaits.leads_runRole_of_ne (h : m.Awaits role id taken sc) {other : Role}
    (hother : other ≠ role) :
  sc.Leads (m.runRole other command flags) fun _ sc' => m.Awaits role id taken sc'
  := by
  apply Story.leads_of_goes
  apply goes_runRole h.isThere
  · exact fun _ _ => h
  · exact fun _ _ => h
  · intro otherId found e _ hfound _
    have hnumbered : found.IsNumbered →
        (found.withRequest (m.specFor command flags other)).IsNumbered :=
      fun hnumbers => hnumbers
    exact h.setHost hfound hnumbered (fun _ => rfl) rfl rfl
  · intro otherId found unit _ hfound _ _ _ _
    have hnumbered : found.IsNumbered →
        (found.withUnit (m.specFor command flags other)).IsNumbered :=
      fun hnumbers => hnumbers.withUnit _
    have hlaunched : m.Awaits role id taken
        (sc.setHost otherId (found.withUnit (m.specFor command flags other))) := by
      apply h.setHost hfound hnumbered _ rfl rfl
      intro hnumbers
      apply hnumbers.hasName_withUnit
      rw [specFor, launchSpec, Ne, Role.text_id_inj]
      exact hother
    exact hlaunched.setState hother _

/-- The first launch of a role succeeds just if its name is not taken. -/
theorem Awaits.leads_runRole (h : m.Awaits role id taken sc) :
  sc.Leads (m.runRole role command flags) fun r _ => (∃ unit, r = .ok unit) ↔ taken = false
  := by
  obtain ⟨host, hhost, hup, -, himage, rfl⟩ := h.exists_host
  apply Story.leads_of_goes
  apply goes_runRole h.isThere
  · intro e hunplaced
    rw [h.hostFor_eq] at hunplaced
    cases hunplaced
  · intro e hrefused
    rw [h.canLaunch_eq] at hrefused
    cases hrefused
  · intro otherId found e hid hfound hfailed
    obtain rfl := Except.ok.inj (h.hostFor_eq.symm.trans hid)
    obtain rfl := Option.some_inj.mp (hhost.symm.trans hfound)
    constructor
    · rintro ⟨unit, ⟨⟩⟩
    · intro hfree
      have hisUp : host.isDown = false := by
        rw [Memory.isDown, hup]
      have hlaunch : host.launch (m.specFor command flags role) = _ :=
        Memory.launch_eq_ok hisUp himage hfree
      rw [hlaunch] at hfailed
      cases hfailed
  · intro otherId found unit hid hfound _ _ hfree _
    obtain rfl := Except.ok.inj (h.hostFor_eq.symm.trans hid)
    obtain rfl := Option.some_inj.mp (hhost.symm.trans hfound)
    exact ⟨fun _ => hfree, fun _ => ⟨unit, rfl⟩⟩

/-- The surroundings behind some orders, each carried out whatever became of those before it. -/
def behindOrders (m : Manager) (orders : List Order) (w : World Cluster) : World Cluster :=
  orders.foldl
    (fun w o => (World.run Cluster.layer (m.runRole o.role o.command o.flags) w).2) w

theorem Awaits.behindOrders {w : World Cluster} (h : m.Awaits role id taken w.scene)
    (hdeadline : w.deadline = none) {orders : List Order}
    (horders : role ∉ orders.map Order.role) :
  (m.behindOrders orders w).deadline = none
    ∧ m.Awaits role id taken (m.behindOrders orders w).scene
  := by
  induction orders generalizing w with
  | nil => exact ⟨hdeadline, h⟩
  | cons o rest ih =>
      rw [List.map_cons, List.mem_cons, not_or] at horders
      obtain ⟨hne, hrest⟩ := horders
      have hleads : w.scene.Leads (m.runRole o.role o.command o.flags) _ :=
        h.leads_runRole_of_ne (Ne.symm hne)
      obtain ⟨r, w', hrun, hdeadline', h'⟩ := hleads w rfl hdeadline
      have hrun : World.run Cluster.layer (m.runRole o.role o.command o.flags) w = (some r, w') :=
        hrun
      have hcons : m.behindOrders (o :: rest) w = m.behindOrders rest w' := by
        rw [Manager.behindOrders, List.foldl_cons, hrun]
        rfl
      rw [hcons]
      exact ih h' hdeadline' hrest

/-- A role that was put back on clean hosts awaits its first launch; its name is taken just if a
unit without the label has it. -/
theorem Restores.awaits (h : m.Restores m.topology.roles (m.cleaned start) sc)
    (hstart : m.Resettable start) (hid : m.hostFor role = .ok id)
    (hhost : start.hosts id = some host) (hup : host.reachableRuns = none)
    (hnumbered : host.IsNumbered) :
  m.Awaits role id ((host.swept m.label).hasName role.id.text) sc
  where
    isThere := h.isThere hstart.restorable_cleaned.isThere
    hostFor_eq := hid
    canLaunch_eq := by
      rw [h.states_eq, if_pos (mem_roles_of_hostFor hid)]
      rfl
    exists_host := by
      have hrole := mem_roles_of_hostFor hid
      obtain ⟨host', hhost', hrestores⟩ :=
        h.exists_host id _ (Resettable.hosts_cleaned hhost (mem_hosts_of_hostFor hid))
      obtain ⟨baseId, baseHost, hbaseId, hbaseHost, hbase⟩ := hstart.exists_base role hrole
      obtain rfl := Except.ok.inj (hid.symm.trans hbaseId)
      obtain rfl := Option.some_inj.mp (hhost.symm.trans hbaseHost)
      refine ⟨host', hhost', ?_, ?_, ?_, ?_⟩
      · rw [hrestores.eq_images]
        exact hup
      · rw [hrestores.eq_images]
        intro number hmem
        apply hnumbered number
        exact Std.ExtTreeMap.mem_of_mem_filter hmem
      · rw [Std.ExtTreeMap.mem_iff_isSome_getElem?, hrestores.checkpoint_eq role hrole hid]
        exact Std.ExtTreeMap.mem_iff_isSome_getElem?.mp hbase
      · rw [hrestores.eq_images]
        rfl

theorem hasName_swept_eq_false {name : String} :
  (host.swept m.label).hasName name = false
    ↔ ∀ (unitId : String) (u : KeptUnit), host.units[unitId]? = some u → u.name = name →
      m.label ∈ u.labels
  := by
  rw [Bool.eq_false_iff, Ne, Memory.hasName_iff]
  constructor
  · intro hfree unitId u hu hname
    by_contra hlabel
    exact hfree ⟨unitId, u, Memory.getElem?_units_swept.mpr ⟨hu, hlabel⟩, hname⟩
  · rintro hall ⟨unitId, u, hu, hname⟩
    obtain ⟨hu, hlabel⟩ := Memory.getElem?_units_swept.mp hu
    exact hlabel (hall unitId u hu hname)

end Launching

/-- From any state of hosts that can be reached and of roles, resetting succeeds: it removes exactly
the units with the label, and counts them, and gives every role the base image, and nothing else
changes.  Putting back the roles again, any number of times, changes nothing.  Then the first
launch of a role, whichever others are launched before, succeeds just if every unit that had its
name on its host before carried the label. -/
theorem run_reset {w : World Cluster} (hdeadline : w.deadline = none)
    (h : m.Resettable w.scene) (hapart : m.IsApart) :
  ∃ w₁, World.run Cluster.layer m.reset w
      = (some (.ok (∑ id ∈ m.fabric.hosts.toFinset, w.scene.labelledAt m.label id)), w₁)
    ∧ m.Restores m.topology.roles (m.cleaned w.scene) w₁.scene
    ∧ ∀ times, ∃ w₂, World.run Cluster.layer (m.prepareAgain times) w₁ = (some (.ok ()), w₂)
      ∧ w₂.scene = w₁.scene
      ∧ ∀ (earlier : List Order) (o : Order) (id : HostId) (host : Memory),
        o.role ∉ earlier.map Order.role → m.hostFor o.role = .ok id →
        w.scene.hosts id = some host → host.reachableRuns = none → host.IsNumbered →
          ∃ r w₃, World.run Cluster.layer (m.runRole o.role o.command o.flags)
              (m.behindOrders earlier w₂) = (some r, w₃)
            ∧ ((∃ unit, r = .ok unit) ↔ ∀ (unitId : String) (u : KeptUnit),
              host.units[unitId]? = some u → u.name = o.role.id.text → m.label ∈ u.labels)
  := by
  obtain ⟨_, w₁, hreset, hdeadline₁, rfl, hrestores⟩ := h.leads_reset hapart w rfl hdeadline
  refine ⟨w₁, hreset, hrestores, fun times => ?_⟩
  obtain ⟨_, w₂, hagain, hdeadline₂, rfl, hscene⟩ :=
    hrestores.leads_prepareAgain h.restorable_cleaned hapart times w₁ rfl hdeadline₁
  refine ⟨w₂, hagain, hscene, ?_⟩
  intro earlier o id host hearlier hid hhost hup hnumbered
  have hawaits := hrestores.awaits h hid hhost hup hnumbered
  rw [← hscene] at hawaits
  obtain ⟨hdeadline₃, hawaits⟩ := hawaits.behindOrders hdeadline₂ hearlier
  have hleads : Scene.Leads _ (m.runRole o.role o.command o.flags) _ := hawaits.leads_runRole
  obtain ⟨r, w₃, hrun, -, hiff⟩ := hleads _ rfl hdeadline₃
  exact ⟨r, w₃, hrun, hiff.trans hasName_swept_eq_false⟩

section Littered

open Manager.Session

/-- A machine on which a run broke off while the helper was committed, and on which a unit that is
none of the benchmark has the name of the receiver. -/
def littered : Memory :=
  (((((Memory.empty .localhost fun _ _ => {}).addImage lone.image.base).addImage
    (lone.checkpoint .helper)).addImage (lone.stale .helper)).addStaleUnit "helper" lone.label)
    |>.addStaleUnit "receiver" "other"

theorem isNumbered_littered :
  littered.IsNumbered
  := by
  apply Memory.Arises.isNumbered
  apply Memory.Arises.addStaleUnit
  apply Memory.Arises.addStaleUnit
  apply Memory.Arises.addImage
  apply Memory.Arises.addImage
  apply Memory.Arises.addImage
  apply Memory.Arises.empty

theorem resettable_littered :
  lone.Resettable (World.start [littered] []).scene
  where
    exists_host := by
      intro id hid
      obtain rfl := List.mem_singleton.mp hid
      exact ⟨littered, rfl, rfl⟩
    exists_base := by
      intro role hrole
      have hbase : lone.image.base ∈ littered.images := by
        decide +kernel
      have hid : lone.hostFor role = .ok .localhost := by
        have hroles : role ∈ [.source 0, .helper, .receiver] := hrole
        rw [List.mem_cons, List.mem_cons, List.mem_singleton] at hroles
        obtain rfl | rfl | rfl := hroles
        · rfl
        · rfl
        · rfl
      exact ⟨.localhost, littered, hid, rfl, hbase⟩

/-- The helper can be launched again, and the receiver cannot. -/
theorem run_reset_littered :
  ∃ w₁, World.run Cluster.layer lone.reset (.start [littered] []) = (some (.ok 1), w₁)
    ∧ lone.Restores lone.topology.roles (lone.cleaned (World.start [littered] []).scene) w₁.scene
    ∧ ∃ w₂, World.run Cluster.layer (lone.prepareAgain 2) w₁ = (some (.ok ()), w₂)
      ∧ w₂.scene = w₁.scene
      ∧ (∃ unit w₃, World.run Cluster.layer (lone.runRole .helper "serve" .none) w₂
        = (some (.ok unit), w₃))
      ∧ ∃ e w₃, World.run Cluster.layer (lone.runRole .receiver "receive" .none)
          (lone.behindOrders [⟨.helper, "serve", .none⟩] w₂) = (some (.error e), w₃)
  := by
  obtain ⟨w₁, hreset, hrestores, hagain⟩ := run_reset rfl resettable_littered
    (isApart_of_image Environment.isApart_usual)
  obtain ⟨w₂, hrun, hscene, hfirst⟩ := hagain 2
  have hcount : ∑ id ∈ lone.fabric.hosts.toFinset,
      (World.start [littered] []).scene.labelledAt lone.label id = 1 := by
    decide +kernel
  rw [hcount] at hreset
  refine ⟨w₁, hreset, hrestores, w₂, hrun, hscene, ?_, ?_⟩
  · obtain ⟨r, w₃, hrun, hiff⟩ := hfirst [] ⟨.helper, "serve", .none⟩ .localhost littered (by simp)
      rfl rfl rfl isNumbered_littered
    have hfree : (littered.swept lone.label).hasName "helper" = false := by
      decide +kernel
    obtain ⟨unit, rfl⟩ := hiff.mpr (hasName_swept_eq_false.mp hfree)
    exact ⟨unit, w₃, hrun⟩
  · obtain ⟨r, w₃, hrun, hiff⟩ := hfirst [⟨.helper, "serve", .none⟩]
      ⟨.receiver, "receive", .none⟩ .localhost littered (by simp) rfl rfl rfl isNumbered_littered
    have htaken : (littered.swept lone.label).hasName "receiver" = true := by
      decide +kernel
    cases r with
    | error e => exact ⟨e, w₃, hrun⟩
    | ok unit =>
        have hfree : (littered.swept lone.label).hasName "receiver" = false :=
          hasName_swept_eq_false.mpr (hiff.mp ⟨unit, rfl⟩)
        rw [htaken] at hfree
        cases hfree

end Littered

end JoinBench.Manager
