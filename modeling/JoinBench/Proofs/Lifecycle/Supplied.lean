import JoinBench.Proofs.Lifecycle.Restoring

/-!
# Roles in front of a role with an image

Roles are put back in their order, so a role only gets an image where all roles in front of it have
got theirs.  In a session whose base image is told apart from the tags of the roles this stays so:
while a role has an image, it and all roles in front of it are placed on hosts that hold the base
image, and their tags are in place.  Nothing is asked of the hosts at the start.
-/

namespace JoinBench.Manager

open Host Relation

variable {m : Manager} {role other : Role} {host host' : Memory} {sc sc' : Scene}
  {state : UnitState}

/-- Where a role has an image, it and all roles in front of it are placed and their tags are in
place. -/
def IsSupplied (m : Manager) (sc : Scene) : Prop :=
  ∀ ahead role behind, m.topology.roles = ahead ++ role :: behind → sc.states role ≠ .noImage →
    ∀ other ∈ ahead ++ [role], ∃ host, m.At sc other host
      ∧ m.IsTagged other (sc.states other) host

theorem At.eq (h : m.At sc role host) (h' : m.At sc role host') :
  host' = host
  := by
  have hid := Except.ok.inj (h.hostFor_eq.symm.trans h'.hostFor_eq)
  have hhost := h'.hosts_eq
  rw [← hid, h.hosts_eq] at hhost
  exact (Option.some_inj.mp hhost).symm

/-- A role with an image is placed, and its tags are in place. -/
theorem IsSupplied.exists_isTagged (h : m.IsSupplied sc) (hrole : role ∈ m.topology.roles)
    (hstate : sc.states role ≠ .noImage) :
  ∃ host, m.At sc role host ∧ m.IsTagged role (sc.states role) host
  := by
  obtain ⟨ahead, behind, hroles⟩ := List.append_of_mem hrole
  exact h ahead role behind hroles hstate role List.mem_append_cons_self

theorem IsSupplied.hasBase {ahead behind : List Role} (h : m.IsSupplied sc)
    (hroles : m.topology.roles = ahead ++ role :: behind) (hstate : sc.states role ≠ .noImage) :
  ∀ other ∈ ahead ++ [role], m.HasBase sc other
  := by
  intro other hother
  obtain ⟨host, hat, htagged⟩ := h ahead role behind hroles hstate other hother
  exact ⟨host.id, host, _, hat.hostFor_eq, hat.hosts_eq,
    Std.ExtTreeMap.getElem?_eq_some_getElem htagged.base_mem⟩

/-! ### Roles that get an image -/

/-- Where a role gets an image by putting back all roles, it and those in front of it are placed on
hosts that hold the base image. -/
theorem leads_prepareImages_hasBase (hthere : m.fabric.IsThere sc) :
  sc.Leads m.prepareImages fun _ sc' =>
    ∀ ahead role behind, m.topology.roles = ahead ++ role :: behind →
      sc.states role = .noImage → sc'.states role ≠ .noImage →
        ∀ other ∈ ahead ++ [role], m.HasBase sc other
  := by
  apply leads_prepareImages_cases hthere
  · intro sc' _ hrestorable ahead role behind hroles _ _ other hother
    apply hrestorable.exists_image
    rw [hroles, List.append_cons]
    exact List.mem_append_left _ hother
  · intro done first rest sc' e sc'' hdone hrestores hrestorable hstops ahead role behind hroles hnone
      hstate other hother
    have hsame : sc''.states = sc'.states := by
      cases hstops <;> rfl
    have hmem : role ∈ done := by
      by_contra hnot
      rw [hsame, hrestores.states_eq, if_neg hnot] at hstate
      exact hstate hnone
    -- The role stands once among all roles, so those in front of it were put back before it.
    obtain ⟨front, back, rfl⟩ := List.append_of_mem hmem
    have hnodup := m.topology.nodup_roles
    rw [hroles] at hnodup hdone
    rw [List.append_assoc, List.cons_append] at hdone
    have honce := (List.nodup_cons.mp (List.nodup_middle.mp hnodup)).1
    rw [List.mem_append, not_or] at honce
    obtain ⟨rfl, -⟩ := (List.append_cons_inj_of_notMem honce.1 honce.2).mp hdone
    apply hrestorable.exists_image
    rw [List.append_cons]
    exact List.mem_append_left _ hother

namespace Session

variable {s s' : Session} {events : List Event} {event : Event} {hosts : Cluster}

/-- Only putting back roles gives an image to a role without one. -/
theorem Event.eq_noImage_of_changes {dropped : List UnitHandle}
    (hne : event ≠ .operate .prepareImages)
    (h : ReflTransGen (event.Changes dropped role) .noImage state) :
  state = .noImage
  := by
  induction h with
  | refl => rfl
  | tail _ hlast ih =>
      subst ih
      cases event with
      | look | goDown => cases hlast
      | operate op =>
          cases hlast with
          | launch _ hcan => cases hcan
          | reset => rfl
          | prepare hop => exact absurd (congrArg Event.operate hop) hne

/-- A role that has got an image in an event is placed with all those in front of it on hosts that
hold the base image. -/
theorem IsSound.hasBase_of_states (h : s.IsSound m) (hunits : ∀ unit ∈ event.units, unit ∈ s.handles)
    {ahead behind : List Role} (hroles : m.topology.roles = ahead ++ role :: behind)
    (hnone : s.world.states role = .noImage) (hstate : (s.step m event).world.states role ≠ .noImage) :
  ∀ other ∈ ahead ++ [role], m.HasBase s.world.scene other
  := by
  have hchanges := (h.continues hunits).changes_states role
  rw [hnone] at hchanges
  obtain rfl : event = .operate .prepareImages := by
    by_contra hne
    exact hstate (Event.eq_noImage_of_changes hne hchanges)
  have hleads : s.world.scene.Leads (Operation.prepareImages.job m) fun _ sc' =>
      sc'.states role ≠ .noImage → ∀ other ∈ ahead ++ [role], m.HasBase s.world.scene other := by
    apply Scene.leads_bind
    apply (leads_prepareImages_hasBase h.sound.isThere).mono
    rintro (e | done) sc' hq
    · exact hq ahead role behind hroles hnone
    · rw [Scene.Then]
      exact Scene.leads_pure (hq ahead role behind hroles hnone)
  obtain ⟨r, w', hrun, -, hq⟩ := hleads s.world rfl h.deadline_eq
  have hworld : (s.step m (.operate .prepareImages)).world = w' := congrArg Prod.snd hrun
  rw [hworld] at hstate
  exact hq hstate

/-- Tags that are in place stay so in an event. -/
theorem Continues.exists_isTagged (h : Continues m event s s') (hapart : m.IsApart)
    (hat : m.At s.world.scene role host) (htagged : m.IsTagged role (s.world.states role) host) :
  ∃ host', m.At s'.world.scene role host' ∧ m.IsTagged role (s'.world.states role) host'
  := by
  have hbefore : m.IsTaggedAt s.world.scene role := by
    intro found hfound
    rw [hat.eq hfound]
    exact htagged
  obtain ⟨host', hhost'⟩ := h.isSound.sound.isThere _ (mem_hosts_of_hostFor hat.hostFor_eq)
  have hat' := h.isSound.sound.at_of_hosts hat.hostFor_eq hhost'
  exact ⟨host', hat', h.isTaggedAt hapart role hbefore host' hat'⟩

/-- An event keeps it so that where a role has an image, those in front of it have theirs. -/
theorem IsSound.isSupplied_step (h : s.IsSound m) (hapart : m.IsApart)
    (hsupplied : m.IsSupplied s.world.scene) (hunits : ∀ unit ∈ event.units, unit ∈ s.handles) :
  m.IsSupplied (s.step m event).world.scene
  := by
  intro ahead role behind hroles hstate other hother
  have hbefore : ∃ host, m.At s.world.scene other host
      ∧ m.IsTagged other (s.world.states other) host := by
    by_cases hnone : s.world.states role = .noImage
    · by_cases hfirst : s.world.states other = .noImage
      · obtain ⟨id, host, image, hid, hhost, himage⟩ :=
          h.hasBase_of_states hunits hroles hnone hstate other hother
        have hbase : m.image.base ∈ host.images := by
          rw [Std.ExtTreeMap.mem_iff_isSome_getElem?, himage]
          rfl
        exact ⟨host, h.sound.at_of_hosts hid hhost, hbase, absurd hfirst, absurd hfirst⟩
      · apply hsupplied.exists_isTagged _ hfirst
        rw [hroles, List.append_cons]
        exact List.mem_append_left _ hother
    · exact hsupplied ahead role behind hroles hnone other hother
  obtain ⟨host, hat, htagged⟩ := hbefore
  exact (h.continues hunits).exists_isTagged hapart hat htagged

/-- Whatever happens in a session, it stays sound, and where a role has an image, those in front of
it have theirs. -/
theorem IsSound.isSupplied_run (h : s.IsSound m) (hapart : m.IsApart)
    (hsupplied : m.IsSupplied s.world.scene) (hadmits : s.Admits m events) :
  m.IsSupplied (s.run m events).world.scene
  := by
  induction events generalizing s with
  | nil => exact hsupplied
  | cons event rest ih =>
      obtain ⟨hunits, hrest⟩ := hadmits
      exact ih (h.continues hunits).isSound (h.isSupplied_step hapart hsupplied hunits) hrest

theorem isSupplied_start (m : Manager) (hosts : Cluster) :
  m.IsSupplied (start hosts).world.scene
  := fun _ _ _ _ hstate => absurd rfl hstate

end Session

end JoinBench.Manager
