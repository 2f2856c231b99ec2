import JoinBench.Proofs.Lifecycle.Outcomes
import JoinBench.Proofs.Lifecycle.Stage

/-!
# Resetting a stage

Cleaning all hosts sets an empty stage, whatever the hosts held.  From there every role that is
placed on a host of the fabric is put back to the base image.
-/

namespace JoinBench.Manager

open Host Scene

variable {m : Manager} {results : HostId → LaunchSpec → UnitResult} {prepared : List Role}
  {live : Role → Option LiveUnit} {sc : Scene} {role : Role} {id : HostId}

/-! ### The empty stage -/

/-- No role is live. -/
def noneLive : Role → Option LiveUnit :=
  fun _ => none

/-- The hosts of a stage are ready. -/
theorem OnStage.isReady (h : m.OnStage results prepared live sc) :
  m.fabric.IsReady results m.image.base m.label sc
  := by
  intro id hid
  obtain ⟨host, hhost, hholds⟩ := h.exists_host id hid
  exact ⟨host, hhost, hholds.id_eq, hholds.ready⟩

/-- Ready hosts without units that carry the label are an empty stage. -/
theorem onStage_of_isClean (hready : m.fabric.IsReady results m.image.base m.label sc)
    (hclean : ∀ id ∈ m.fabric.hosts, Fabric.IsCleanAt m.label id sc)
    (hstates : sc.states = fun _ => .noImage) :
  m.OnStage results [] noneLive sc
  := by
  constructor
  · intro id hfabric
    obtain ⟨host, hhost, hid, hhostReady⟩ := hready id hfabric
    refine ⟨host, hhost, hid, hhostReady, ?_, ?_, ?_, ?_⟩
    · intro role hrole
      cases hrole
    · intro unitId u hu hlabel
      exact absurd hlabel (Memory.labelled_eq_nil_iff.mp (hclean id hfabric host hhost) hu)
    · intro role unit hunit
      cases hunit
    · intro role unit hunit
      cases hunit
  · intro role hnone
    rw [hstates]
    rfl
  · intro role hrole
    cases hrole
  · intro role hrole
    cases hrole
  · intro role unit hunit
    cases hunit

/-- Cleaning ready hosts leads to an empty stage. -/
theorem leads_cleanAll (h : m.fabric.IsReady results m.image.base m.label sc)
    {Q : Except Error Nat → Scene → Prop}
    (hQ : ∀ n sc', m.OnStage results [] noneLive sc' →
      (∀ id ∈ m.fabric.hosts, Fabric.IsCleanAt m.label id sc') → Q (.ok n) sc') :
  sc.Leads m.cleanAll Q
  := by
  apply leads_bind
  apply Fabric.leads_cleanAll h
  intro n sc' hstates hready hclean
  apply leads_bind
  apply leads_forgetStates
  apply leads_pure
  apply hQ
  · apply onStage_of_isClean _ _ rfl
    · exact hready
    · exact hclean
  · exact hclean

/-! ### The base image -/

/-- Putting a role back fails with the error of its host if it has none, and is done else. -/
theorem leads_prepareImage (h : m.OnStage results prepared noneLive sc)
    (hapart : m.image.IsApart) {Q : Except Error Unit → Scene → Prop}
    (herror : ∀ e, m.hostFor role = .error e → Q (.error e) sc)
    (hok : ∀ id sc', m.hostFor role = .ok id →
      m.OnStage results (role :: prepared) noneLive sc' → Q (.ok ()) sc') :
  sc.Leads (m.prepareImage role) Q
  := by
  have hholds : ∀ {id : HostId} {host : Memory}, m.hostFor role = .ok id →
      sc.hosts id = some host → m.Holds (results id) prepared noneLive id host
        ∧ m.image.base ∈ (m.untagged role host).images := by
    intro id host hid hhost
    obtain ⟨found, hfound, hholds⟩ := h.exists_hostFor hid
    obtain rfl := Option.some_inj.mp (hfound.symm.trans hhost)
    exact ⟨hholds, (base_mem_untagged (hapart role)).mpr hholds.ready.base_mem⟩
  apply leads_prepareImage_of_isThere h.isThere
  · intro hbusy
    rw [h.isBusy rfl] at hbusy
    cases hbusy
  · exact fun e _ => herror e
  · intro id host e _ hid hhost hmissing
    exact absurd (hholds hid hhost).2 hmissing
  · intro id host image _ hid hhost _
    obtain ⟨hholds, hbase⟩ := hholds hid hhost
    apply hok id _ hid
    apply h.step hid
    · apply hholds.withImages _ _ (Nat.le_refl _)
      · rw [Std.ExtTreeMap.mem_insert]
        exact .inr hbase
      · intro other hother hplace
        rw [Std.ExtTreeMap.mem_insert]
        by_cases hne : other = role
        · subst hne
          exact .inl Std.ReflCmp.compare_self
        · apply Or.inr
          rw [mem_images_untagged _ (stale_ne_checkpoint m role other)]
          · exact hholds.checkpoint_mem other (List.mem_of_ne_of_mem hne hother) hplace
          · rw [Ne, checkpoint_inj]
            exact Ne.symm hne
    · exact fun _ hother hne => List.mem_of_ne_of_mem hne hother
    · exact fun _ _ => rfl
    · exact fun _ => ⟨rfl, rfl⟩
    · rintro unit ⟨⟩

/-- Roles are put back to the base image, up to the first that is not placed on a host of the
fabric. -/
theorem leads_prepareRoles {roles : List Role} (h : m.OnStage results prepared noneLive sc)
    (hapart : m.image.IsApart) {Q : Except Error Unit → Scene → Prop}
    (herror : ∀ e sc', roles.mapM m.hostFor = .error e → Q (.error e) sc')
    (hok : ∀ ids prepared' sc', roles.mapM m.hostFor = .ok ids →
      (∀ role, role ∈ prepared ∨ role ∈ roles → role ∈ prepared') →
        m.OnStage results prepared' noneLive sc' → Q (.ok ()) sc') :
  sc.Leads (Program.forEach m.prepareImage roles) Q
  := by
  induction roles generalizing prepared sc with
  | nil =>
      apply leads_pure
      apply hok [] prepared sc rfl _ h
      rintro role (hrole | hrole)
      · exact hrole
      · cases hrole
  | cons role rest ih =>
      rw [List.mapM_cons] at herror hok
      apply leads_bind
      apply leads_prepareImage h hapart
      · intro e hid
        rw [hid] at herror
        exact herror e sc rfl
      · intro id sc₁ hid h₁
        rw [hid] at herror hok
        apply ih h₁
        · intro e sc' hmap
          rw [hmap] at herror
          apply herror e sc' rfl
        · intro ids prepared' sc' hmap hprepared h'
          rw [hmap] at hok
          apply hok (id :: ids) prepared' sc' rfl _ h'
          rintro other (hother | hother)
          · apply hprepared other (.inl (List.mem_cons_of_mem role hother))
          · obtain rfl | hother := List.mem_cons.mp hother
            · apply hprepared other (.inl (List.mem_cons_self))
            · apply hprepared other (.inr hother)

end JoinBench.Manager
