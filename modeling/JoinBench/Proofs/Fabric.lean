import JoinBench.Fabric
import JoinBench.Proofs.Host.Ready
import JoinBench.Proofs.World.Scene
import Mathlib.Algebra.BigOperators.Group.Finset.Basic
import Mathlib.Algebra.GroupWithZero.Nat

/-!
# Cleaning hosts

Cleaning a fabric only removes units.  Where it succeeds exactly the units with the label are gone
from all of its hosts, whatever was there before, and they were counted; it fails only where some
host is down.  So cleaning ready hosts succeeds, and leaves them ready.
-/

namespace JoinBench

namespace Host.Memory

variable {label : String} {host : Memory}

theorem labelled_eq_nil_iff :
  host.labelled label = []
    ↔ ∀ {unitId : String} {u : KeptUnit}, host.units[unitId]? = some u → label ∉ u.labels
  := by
  rw [labelled, List.map_eq_nil_iff, List.filter_eq_nil_iff]
  constructor
  · intro h unitId u hu
    have hmem := h (unitId, u) (Std.ExtTreeMap.mem_toList_iff_getElem?_eq_some.mpr hu)
    simpa using hmem
  · rintro h ⟨unitId, u⟩ hmem
    have hlabel := h (Std.ExtTreeMap.mem_toList_iff_getElem?_eq_some.mp hmem)
    simpa using hlabel

/-- The units that are left when some are removed. -/
def eraseAll (refs : List UnitRef) (units : Std.ExtTreeMap String KeptUnit) :
    Std.ExtTreeMap String KeptUnit :=
  refs.foldl (fun units ref => units.erase ref.unitId) units

theorem getElem?_eraseAll {refs : List UnitRef} {units : Std.ExtTreeMap String KeptUnit}
    {unitId : String} {u : KeptUnit} :
  (eraseAll refs units)[unitId]? = some u
    ↔ units[unitId]? = some u ∧ ∀ ref ∈ refs, ref.unitId ≠ unitId
  := by
  induction refs generalizing units with
  | nil => simp [eraseAll]
  | cons ref rest ih =>
      have hcons : eraseAll (ref :: rest) units = eraseAll rest (units.erase ref.unitId) := rfl
      rw [hcons, ih, Std.ExtTreeMap.getElem?_erase, List.forall_mem_cons]
      by_cases href : ref.unitId = unitId
      · simp [href]
      · simp [href]

theorem eraseAll_append (refs more : List UnitRef) (units : Std.ExtTreeMap String KeptUnit) :
  eraseAll (refs ++ more) units = eraseAll more (eraseAll refs units)
  := List.foldl_append

/-- A host without the units that carry a label. -/
def swept (label : String) (host : Memory) : Memory :=
  { host with units := host.units.filter fun _ u => !u.labels.contains label }

theorem getElem?_units_swept {unitId : String} {u : KeptUnit} :
  (host.swept label).units[unitId]? = some u
    ↔ host.units[unitId]? = some u ∧ label ∉ u.labels
  := by
  simp [swept, Option.filter_eq_some_iff]

theorem swept_swept :
  (host.swept label).swept label = host.swept label
  := by
  have hunits : ((host.swept label).swept label).units = (host.swept label).units := by
    apply Std.ExtTreeMap.ext_getElem?
    intro unitId
    apply Option.ext
    intro u
    rw [getElem?_units_swept, getElem?_units_swept, and_assoc, and_self]
  rw [swept] at hunits ⊢
  simp only at hunits
  rw [hunits]

theorem mem_labelled {ref : UnitRef} :
  ref ∈ host.labelled label
    ↔ ∃ u, host.units[ref.unitId]? = some u ∧ label ∈ u.labels ∧ u.name = ref.name
  := by
  obtain ⟨unitId, name⟩ := ref
  simp only [labelled, List.mem_map, List.mem_filter, UnitRef.mk.injEq, Prod.exists,
    Std.ExtTreeMap.mem_toList_iff_getElem?_eq_some, List.contains_iff_mem]
  constructor
  · rintro ⟨_, u, ⟨hu, hlabel⟩, rfl, hname⟩
    exact ⟨u, hu, hlabel, hname⟩
  · rintro ⟨u, hu, hlabel, hname⟩
    exact ⟨unitId, u, ⟨hu, hlabel⟩, rfl, hname⟩

/-- Removing all units of the listing for a label is to sweep the host. -/
theorem eraseAll_labelled (label : String) (host : Memory) :
  { host with units := eraseAll (host.labelled label) host.units } = host.swept label
  := by
  have hunits : eraseAll (host.labelled label) host.units = (host.swept label).units := by
    apply Std.ExtTreeMap.ext_getElem?
    intro unitId
    apply Option.ext
    intro u
    rw [getElem?_eraseAll, getElem?_units_swept]
    constructor
    · rintro ⟨hu, hrefs⟩
      refine ⟨hu, fun hlabel => ?_⟩
      exact hrefs ⟨unitId, u.name⟩ (mem_labelled.mpr ⟨u, hu, hlabel, rfl⟩) rfl
    · rintro ⟨hu, hlabel⟩
      refine ⟨hu, ?_⟩
      rintro ref href rfl
      obtain ⟨u', hu', hlabel', -⟩ := mem_labelled.mp href
      obtain rfl := Option.some_inj.mp (hu.symm.trans hu')
      exact hlabel hlabel'
  rw [hunits]
  rfl

/-- Of the units of a host none with the label is left when it is swept. -/
theorem labelled_swept :
  (host.swept label).labelled label = []
  := by
  rw [labelled_eq_nil_iff]
  intro unitId u hu
  exact (getElem?_units_swept.mp hu).2

end Host.Memory

/-! ### Cleaning fabrics -/

namespace Scene

variable {sc : Scene} {label : String} {ids : List HostId} {id : HostId} {host : Host.Memory}

/-- The scene without the units of some hosts that carry a label. -/
def swept (label : String) (ids : List HostId) (sc : Scene) : Scene :=
  { sc with
    hosts := fun id => (sc.hosts id).map fun host => if id ∈ ids then host.swept label else host }

/-- The number of units of a host that carry a label. -/
def labelledAt (sc : Scene) (label : String) (id : HostId) : Nat :=
  ((sc.hosts id).map fun host => (host.labelled label).length).getD 0

theorem hosts_swept_of_mem (hid : id ∈ ids) :
  (sc.swept label ids).hosts id = (sc.hosts id).map (·.swept label)
  := by
  simp only [swept, if_pos hid]

theorem hosts_swept_of_notMem (hid : id ∉ ids) :
  (sc.swept label ids).hosts id = sc.hosts id
  := by
  simp only [swept, if_neg hid, Option.map_id']

theorem swept_nil :
  sc.swept label [] = sc
  := by
  simp [swept]

/-- Sweeping a host and then others sweeps them all. -/
theorem swept_setHost (hhost : sc.hosts id = some host) (ids : List HostId) :
  (sc.setHost id (host.swept label)).swept label ids = sc.swept label (id :: ids)
  := by
  have hhosts : ((sc.setHost id (host.swept label)).swept label ids).hosts
      = (sc.swept label (id :: ids)).hosts := by
    funext other
    by_cases hother : other = id
    · rw [hother, hosts_swept_of_mem List.mem_cons_self, hhost]
      by_cases hmem : id ∈ ids
      · rw [hosts_swept_of_mem hmem, hosts_setHost_self, Option.map_some, Host.Memory.swept_swept]
        rfl
      · rw [hosts_swept_of_notMem hmem, hosts_setHost_self]
        rfl
    · have hsame : (sc.setHost id (host.swept label)).hosts other = sc.hosts other :=
        Function.update_of_ne hother _ _
      by_cases hmem : other ∈ ids
      · rw [hosts_swept_of_mem hmem, hosts_swept_of_mem (List.mem_cons_of_mem id hmem), hsame]
      · rw [hosts_swept_of_notMem hmem, hosts_swept_of_notMem, hsame]
        simp [hother, hmem]
  simp only [swept, hosts_setHost, states_setHost, Scene.mk.injEq, and_true] at hhosts ⊢
  exact hhosts

open Finset in
/-- The units that are counted on a host and then on others. -/
theorem sum_labelledAt_setHost (hhost : sc.hosts id = some host) (ids : List HostId) :
  (host.labelled label).length
      + ∑ other ∈ ids.toFinset, (sc.setHost id (host.swept label)).labelledAt label other
    = ∑ other ∈ (id :: ids).toFinset, sc.labelledAt label other
  := by
  -- A host that is listed once more counts for nothing, since it was swept before.
  have hzero : (sc.setHost id (host.swept label)).labelledAt label id = 0 := by
    rw [labelledAt, hosts_setHost_self, Option.map_some, Host.Memory.labelled_swept]
    rfl
  have hfirst : sc.labelledAt label id = (host.labelled label).length := by
    rw [labelledAt, hhost]
    rfl
  have hrest : ∀ other ∈ ids.toFinset.erase id,
      (sc.setHost id (host.swept label)).labelledAt label other = sc.labelledAt label other := by
    intro other hother
    rw [labelledAt, labelledAt, hosts_setHost, Function.update_of_ne (ne_of_mem_erase hother)]
  calc (host.labelled label).length
        + ∑ other ∈ ids.toFinset, (sc.setHost id (host.swept label)).labelledAt label other
      = sc.labelledAt label id
        + ∑ other ∈ ids.toFinset.erase id, sc.labelledAt label other := by
        rw [hfirst, ← sum_erase _ hzero, sum_congr rfl hrest]
    _ = ∑ other ∈ (id :: ids).toFinset, sc.labelledAt label other := by
        rw [List.toFinset_cons, ← add_sum_erase _ _ (mem_insert_self id ids.toFinset),
          erase_insert_eq_erase]

end Scene

namespace Fabric

open Host Scene

variable {fabric : Fabric} {results : HostId → LaunchSpec → UnitResult} {base : ImageRef}
  {label : String} {sc : Scene} {id : HostId} {host : Memory}

theorem eq_of_host {other : HostId} (h : fabric.host id = .ok other) :
  other = id
  := by
  rw [Fabric.host] at h
  split_ifs at h
  cases h
  rfl

/-- All hosts of the fabric are ready. -/
def IsReady (fabric : Fabric) (results : HostId → LaunchSpec → UnitResult) (base : ImageRef)
    (label : String) (sc : Scene) : Prop :=
  ∀ id ∈ fabric.hosts,
    ∃ host, sc.hosts id = some host ∧ host.id = id ∧ host.Ready (results id) base label

/-- No unit of the host carries the label. -/
def IsCleanAt (label : String) (id : HostId) (sc : Scene) : Prop :=
  ∀ host, sc.hosts id = some host → host.labelled label = []

/-- The units of a listing are removed. -/
theorem leads_removeUnits {refs : List UnitRef} (hhost : sc.hosts id = some host)
    {Q : Except Error Unit → Scene → Prop}
    (hQ : Q (.ok ()) (sc.setHost id { host with units := Memory.eraseAll refs host.units })) :
  sc.Leads (Program.forEach (removeUnit id) refs) Q
  := by
  induction refs generalizing sc host with
  | nil =>
      rw [← setHost_eq_self hhost]
      apply leads_pure hQ
  | cons ref rest ih =>
      apply leads_bind
      apply leads_bind
      apply leads_remove hhost
      apply leads_log
      apply ih (hosts_setHost_self _ _ _)
      rw [setHost_setHost]
      exact hQ

/-- All hosts of the fabric are there. -/
def IsThere (fabric : Fabric) (sc : Scene) : Prop :=
  ∀ id ∈ fabric.hosts, ∃ host, sc.hosts id = some host

theorem IsThere.setHost (h : fabric.IsThere sc) (id : HostId) (host : Memory) :
  fabric.IsThere (sc.setHost id host)
  := by
  intro other hother
  rw [hosts_setHost]
  by_cases heq : other = id
  · rw [heq, Function.update_self]
    exact ⟨host, rfl⟩
  · rw [Function.update_of_ne heq]
    exact h other hother

/-- The hosts are as before, only with some units removed. -/
structure Cleans (sc sc' : Scene) : Prop where
  states_eq : sc'.states = sc.states
  exists_refs : ∀ id, ∃ refs, sc'.hosts id
    = (sc.hosts id).map fun host => { host with units := Memory.eraseAll refs host.units }

namespace Cleans

variable {sc' sc'' : Scene}

theorem refl (sc : Scene) :
  Cleans sc sc
  where
    states_eq := rfl
    exists_refs := fun _ => ⟨[], Option.map_id'.symm⟩

theorem trans (h : Cleans sc sc') (h' : Cleans sc' sc'') :
  Cleans sc sc''
  where
    states_eq := h'.states_eq.trans h.states_eq
    exists_refs := by
      intro id
      obtain ⟨refs, hrefs⟩ := h.exists_refs id
      obtain ⟨more, hmore⟩ := h'.exists_refs id
      use refs ++ more
      rw [hmore, hrefs, Option.map_map]
      simp only [Function.comp_def, Memory.eraseAll_append]

theorem of_setHost (hhost : sc.hosts id = some host) (refs : List UnitRef) :
  Cleans sc (sc.setHost id { host with units := Memory.eraseAll refs host.units })
  where
    states_eq := rfl
    exists_refs := by
      intro other
      rw [hosts_setHost]
      by_cases heq : other = id
      · use refs
        rw [heq, Function.update_self, hhost, Option.map_some]
      · use []
        rw [Function.update_of_ne heq]
        exact Option.map_id'.symm

theorem exists_host (h : Cleans sc sc') (hhost : sc.hosts id = some host) :
  ∃ refs, sc'.hosts id = some { host with units := Memory.eraseAll refs host.units }
  := by
  obtain ⟨refs, hrefs⟩ := h.exists_refs id
  use refs
  rw [hrefs, hhost, Option.map_some]

/-- A host is down behind cleaning if and only if it was before. -/
theorem isDown_of (h : Cleans sc sc') {host' : Memory} (hhost : sc.hosts id = some host)
    (hhost' : sc'.hosts id = some host') :
  host'.isDown = host.isDown
  := by
  obtain ⟨refs, hrefs⟩ := h.exists_host hhost
  obtain rfl := Option.some_inj.mp (hrefs.symm.trans hhost')
  rfl

end Cleans

/-- Sweeping hosts only removes units. -/
theorem cleans_swept (sc : Scene) (label : String) (ids : List HostId) :
  Cleans sc (sc.swept label ids)
  where
    states_eq := rfl
    exists_refs := by
      intro id
      cases hhost : sc.hosts id with
      | none => exact ⟨[], by simp [Scene.swept, hhost]⟩
      | some host =>
          by_cases hid : id ∈ ids
          · use host.labelled label
            rw [hosts_swept_of_mem hid, hhost, Option.map_some, Option.map_some,
              Memory.eraseAll_labelled]
          · use []
            rw [hosts_swept_of_notMem hid, hhost]
            rfl

theorem isCleanAt_swept {ids : List HostId} (hid : id ∈ ids) :
  IsCleanAt label id (sc.swept label ids)
  := by
  intro host hhost
  rw [hosts_swept_of_mem hid] at hhost
  obtain ⟨old, -, rfl⟩ := Option.map_eq_some_iff.mp hhost
  exact Memory.labelled_swept

/-- A host that is not down is swept, and one that is stays as it is. -/
theorem leads_cleanHost (hhost : sc.hosts id = some host) {Q : Except Error Nat → Scene → Prop}
    (hfailed : ∀ e, host.isDown = true → Q (.error e) sc)
    (hcleaned : host.isDown = false →
      Q (.ok (host.labelled label).length) (sc.setHost id (host.swept label))) :
  sc.Leads (cleanHost label id) Q
  := by
  cases hdown : host.isDown with
  | true =>
      apply leads_bind
      apply leads_bind
      apply leads_ask hhost
      apply leads_ofExcept
      simp only [Memory.answer, hdown, if_true, setHost_eq_self hhost]
      exact hfailed _ hdown
  | false =>
      apply leads_bind
      apply leads_list hhost hdown
      apply leads_bind
      apply leads_removeUnits hhost
      apply leads_pure
      rw [Memory.eraseAll_labelled]
      exact hcleaned hdown

/-- Some hosts are swept one after the other, up to the first that is down. -/
theorem leads_cleanHosts {ids : List HostId} (h : ∀ id ∈ ids, ∃ host, sc.hosts id = some host)
    {Q : Except Error (List Nat) → Scene → Prop}
    (hfailed : ∀ e sc', Cleans sc sc' →
      (∃ id ∈ ids, ∃ host, sc.hosts id = some host ∧ host.isDown = true) → Q (.error e) sc')
    (hcleaned : ∀ counts, counts.sum = ∑ id ∈ ids.toFinset, sc.labelledAt label id →
      Q (.ok counts) (sc.swept label ids)) :
  sc.Leads (Program.sequence (ids.map (cleanHost label))) Q
  := by
  induction ids generalizing sc Q with
  | nil =>
      apply leads_pure
      have hnil := hcleaned [] rfl
      rw [swept_nil] at hnil
      exact hnil
  | cons id rest ih =>
      obtain ⟨⟨host, hhost⟩, hrest⟩ := List.forall_mem_cons.mp h
      apply leads_bind
      apply leads_cleanHost hhost
      · intro e hdown
        exact hfailed e sc (.refl sc) ⟨id, List.mem_cons_self, host, hhost, hdown⟩
      · intro hup
        have hfirst := Cleans.of_setHost hhost (host.labelled label)
        rw [Memory.eraseAll_labelled] at hfirst
        apply leads_bind
        apply ih
        · intro other hother
          obtain ⟨old, hold⟩ := hrest other hother
          obtain ⟨refs, hrefs⟩ := hfirst.exists_host hold
          exact ⟨_, hrefs⟩
        · rintro e sc' hclean ⟨other, hother, new, hnew, hdown⟩
          obtain ⟨old, hold⟩ := hrest other hother
          rw [hfirst.isDown_of hold hnew] at hdown
          exact hfailed e sc' (hfirst.trans hclean)
            ⟨other, List.mem_cons_of_mem id hother, old, hold, hdown⟩
        · intro counts hcounts
          apply leads_pure
          rw [swept_setHost hhost]
          apply hcleaned
          rw [List.sum_cons, hcounts, sum_labelledAt_setHost hhost]

/-- A fabric is swept, unless some of its hosts is down, and the units are counted. -/
theorem leads_cleanAll_of_isThere (h : fabric.IsThere sc) {Q : Except Error Nat → Scene → Prop}
    (hfailed : ∀ e sc', Cleans sc sc' →
      (∃ id ∈ fabric.hosts, ∃ host, sc.hosts id = some host ∧ host.isDown = true) →
        Q (.error e) sc')
    (hcleaned : Q (.ok (∑ id ∈ fabric.hosts.toFinset, sc.labelledAt label id))
      (sc.swept label fabric.hosts)) :
  sc.Leads (fabric.cleanAll label) Q
  := by
  apply leads_bind
  apply leads_all
  apply leads_cleanHosts h hfailed
  intro counts hcounts
  rw [← hcounts, List.sum_eq_foldl] at hcleaned
  simp only [Then]
  split_ifs
  · apply leads_bind
    apply leads_log
    apply leads_pure hcleaned
  · apply leads_pure hcleaned

/-- A ready fabric is cleaned, and stays ready. -/
theorem leads_cleanAll (h : fabric.IsReady results base label sc)
    {Q : Except Error Nat → Scene → Prop}
    (hQ : ∀ n sc', sc'.states = sc.states → fabric.IsReady results base label sc' →
      (∀ id ∈ fabric.hosts, IsCleanAt label id sc') → Q (.ok n) sc') :
  sc.Leads (fabric.cleanAll label) Q
  := by
  apply leads_cleanAll_of_isThere
  · intro id hid
    obtain ⟨host, hhost, -⟩ := h id hid
    exact ⟨host, hhost⟩
  · rintro e sc' - ⟨id, hid, host, hhost, hdown⟩
    obtain ⟨found, hfound, -, hready⟩ := h id hid
    obtain rfl := Option.some_inj.mp (hfound.symm.trans hhost)
    rw [hready.isDown_eq_false] at hdown
    cases hdown
  · have hclean := cleans_swept sc label fabric.hosts
    apply hQ _ _ hclean.states_eq _ fun id hid => isCleanAt_swept hid
    intro id hid
    obtain ⟨host, hhost, hname, hready⟩ := h id hid
    obtain ⟨refs, hrefs⟩ := hclean.exists_host hhost
    refine ⟨_, hrefs, hname, ?_⟩
    apply hready.of_units hready.base_mem
    intro unitId u hu
    exact .inl (Memory.getElem?_eraseAll.mp hu).1

end Fabric

end JoinBench
