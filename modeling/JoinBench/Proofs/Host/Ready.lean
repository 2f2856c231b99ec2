import JoinBench.Host.Memory
import JoinBench.Proofs.Topology.Names

/-!
# Hosts that are ready for experiments

A host in memory is ready if it always answers, holds the base image, and no unit without the
label is in the way of the name of a role.  What else it holds does not matter.  A host stays
ready as long as the requests spare the base image and every launch carries the label, which is
what the requests of experiments do.
-/

namespace JoinBench.Host

/-- The request leaves the base image under its tag and launches nothing without the label. -/
def Request.Spares (base : ImageRef) (label : String) : Request → Prop
  | launch spec => label ∈ spec.labels
  | tag _ target => target ≠ base
  | removeImage image => image ≠ base
  | commit _ target => target ≠ base
  | _ => True

namespace Memory

variable {results : LaunchSpec → UnitResult} {base : ImageRef} {label : String} {host : Memory}

/-- Whether a name is taken shows in the units. -/
theorem hasName_iff {name : String} :
  host.hasName name = true
    ↔ ∃ (unitId : String) (u : KeptUnit), host.units[unitId]? = some u ∧ u.name = name
  := by
  rw [hasName, List.any_eq_true]
  constructor
  · rintro ⟨⟨unitId, u⟩, hmem, hname⟩
    use unitId, u, Std.ExtTreeMap.mem_toList_iff_getElem?_eq_some.mp hmem
    simpa using hname
  · rintro ⟨unitId, u, hu, hname⟩
    use (unitId, u), Std.ExtTreeMap.mem_toList_iff_getElem?_eq_some.mpr hu
    simpa using hname

theorem output_stdout (result : UnitResult) :
  output .stdout result = result.stdout
  := by
  simp [output, LogSelect.hasStdout, LogSelect.hasStderr]

theorem output_stderr (result : UnitResult) :
  output .stderr result = result.stderr
  := by
  simp [output, LogSelect.hasStdout, LogSelect.hasStderr]

/-- The identity that a host gives to the unit with the given number. -/
def unitIdOf (id : HostId) (number : Nat) : String :=
  id.text ++ "-unit-" ++ number.repr

theorem unitIdOf_inj {id : HostId} {number other : Nat} :
  unitIdOf id number = unitIdOf id other ↔ number = other
  := by
  rw [unitIdOf, unitIdOf, String.append_right_inj, Nat.repr_inj]

/-- The host behind a launch that led to a unit. -/
def withUnit (spec : LaunchSpec) (host : Memory) : Memory :=
  { host with
    units := host.units.insert (unitIdOf host.id (host.lastId + 1))
      ⟨spec.name, spec.labels, host.behaviour host.requested spec⟩
    requested := spec :: host.requested
    launched := spec :: host.launched
    lastId := host.lastId + 1 }

/-- A launch leads to a unit where the host answers, the image is there and the name is free. -/
theorem launch_eq_ok {spec : LaunchSpec} (hup : host.isDown = false)
    (himage : spec.image ∈ host.images) (hname : host.hasName spec.name = false) :
  host.launch spec
    = (.ok ⟨host.id, unitIdOf host.id (host.lastId + 1), ⟨spec.name⟩⟩, withUnit spec host)
  := by
  have hup : isDown { host with requested := spec :: host.requested } = false := hup
  have hname : hasName { host with requested := spec :: host.requested } spec.name = false :=
    hname
  rw [← Std.ExtTreeMap.contains_iff_mem] at himage
  simp only [launch, hup, hname, himage, Bool.not_true, Bool.false_eq_true, if_false]
  rfl

/-- The host behind a launch request that led to no unit. -/
def withRequest (spec : LaunchSpec) (host : Memory) : Memory :=
  { host with requested := spec :: host.requested }

/-- A launch fails and leaves no unit, or leads to a unit with a name that was free. -/
theorem launch_cases (spec : LaunchSpec) (host : Memory) :
  (∃ e, host.launch spec = (.error e, withRequest spec host))
    ∨ spec.image ∈ host.images ∧ host.hasName spec.name = false
      ∧ host.launch spec
        = (.ok ⟨host.id, unitIdOf host.id (host.lastId + 1), ⟨spec.name⟩⟩, withUnit spec host)
  := by
  cases hdown : host.isDown with
  | true =>
      left
      use host.refused
      have hdown : isDown { host with requested := spec :: host.requested } = true := hdown
      simp only [launch, hdown, if_true]
      rfl
  | false =>
      by_cases himage : spec.image ∈ host.images
      · cases hname : host.hasName spec.name with
        | false => exact .inr ⟨himage, rfl, launch_eq_ok hdown himage hname⟩
        | true =>
            left
            use host.nameTaken spec.name
            have hdown : isDown { host with requested := spec :: host.requested } = false := hdown
            have hname : hasName { host with requested := spec :: host.requested } spec.name
              = true := hname
            rw [← Std.ExtTreeMap.contains_iff_mem] at himage
            simp only [launch, hdown, himage, hname, Bool.not_true, Bool.false_eq_true, if_false,
              if_true]
            rfl
      · left
        use host.noImage .create spec.image
        have hdown : isDown { host with requested := spec :: host.requested } = false := hdown
        rw [← Std.ExtTreeMap.contains_iff_mem, Bool.not_eq_true] at himage
        simp only [launch, hdown, himage, Bool.not_false, Bool.false_eq_true, if_false, if_true]
        rfl

/-- The host always answers, holds the base image, and no unit without the label has the name of
a role; what a unit does depends on its launch request alone. -/
structure Ready (results : LaunchSpec → UnitResult) (base : ImageRef) (label : String)
    (host : Memory) : Prop where
  behaviour_eq : host.behaviour = fun _ => results
  reachable : host.reachableRuns = none
  base_mem : base ∈ host.images
  name_ne : ∀ {unitId : String} {u : KeptUnit}, host.units[unitId]? = some u →
    label ∉ u.labels → ∀ role : Role, u.name ≠ role.id.text

namespace Ready

theorem isDown_eq_false (h : host.Ready results base label) :
  host.isDown = false
  := by
  rw [isDown, h.reachable]

/-- The host with other launch requests behind it, other images that include the base image, and
units that are its own or carry the label. -/
theorem of_units (h : host.Ready results base label) {images : Std.ExtTreeMap ImageRef Nat}
    {units : Std.ExtTreeMap String KeptUnit} {requested launched : List LaunchSpec}
    {lastId : Nat} (hbase : base ∈ images)
    (hunits : ∀ {unitId : String} {u : KeptUnit}, units[unitId]? = some u →
      host.units[unitId]? = some u ∨ label ∈ u.labels) :
  Ready results base label
    ⟨host.id, host.behaviour, images, units, requested, launched, lastId, host.reachableRuns⟩
  where
    behaviour_eq := h.behaviour_eq
    reachable := h.reachable
    base_mem := hbase
    name_ne := by
      intro unitId u hu hlabel
      obtain hu | hu := hunits hu
      · apply h.name_ne hu hlabel
      · exact absurd hu hlabel

/-- A host with nothing but the base image is ready. -/
theorem addImage_empty (id : HostId) (results : LaunchSpec → UnitResult) (base : ImageRef)
    (label : String) :
  ((empty id fun _ => results).addImage base).Ready results base label
  where
    behaviour_eq := rfl
    reachable := rfl
    base_mem := Std.ExtTreeMap.mem_insert_self
    name_ne := by
      intro unitId u hu
      rw [Memory.addImage, Memory.empty, Std.ExtTreeMap.getElem?_empty] at hu
      cases hu

theorem addImage (h : host.Ready results base label) (image : ImageRef) :
  (host.addImage image).Ready results base label
  := h.of_units (Std.ExtTreeMap.mem_insert.mpr (.inr h.base_mem)) fun hu => .inl hu

/-- Units that were left behind with the label do not matter. -/
theorem addStaleUnit (h : host.Ready results base label) (name : String) :
  (host.addStaleUnit name label).Ready results base label
  := by
  apply h.of_units h.base_mem
  intro unitId u hu
  rw [Std.ExtTreeMap.getElem?_insert] at hu
  split_ifs at hu
  · cases hu
    exact .inr (List.mem_singleton_self label)
  · exact .inl hu

/-- Nor do units of other names. -/
theorem addStaleUnit_of_ne (h : host.Ready results base label) {name : String}
    (hname : ∀ role : Role, name ≠ role.id.text) (other : String) :
  (host.addStaleUnit name other).Ready results base label
  where
    behaviour_eq := h.behaviour_eq
    reachable := h.reachable
    base_mem := h.base_mem
    name_ne := by
      intro unitId u hu hlabel
      rw [Memory.addStaleUnit, Std.ExtTreeMap.getElem?_insert] at hu
      split_ifs at hu
      · cases hu
        exact hname
      · exact h.name_ne hu hlabel

/-- A host that is ready stays so behind a request that spares it. -/
theorem answer (h : host.Ready results base label) {r : Request} (hr : r.Spares base label) :
  (host.answer r).2.Ready results base label
  := by
  cases r with
  | list | wait | logs | follow => exact h
  | launch spec =>
      simp only [Memory.answer, launch]
      split_ifs
      · apply h.of_units h.base_mem (fun hu => .inl hu)
      · apply h.of_units h.base_mem (fun hu => .inl hu)
      · apply h.of_units h.base_mem (fun hu => .inl hu)
      · apply h.of_units h.base_mem
        intro unitId u hu
        rw [Std.ExtTreeMap.getElem?_insert] at hu
        split_ifs at hu
        · cases hu
          exact .inr hr
        · exact .inl hu
  | remove unitId force =>
      apply h.of_units h.base_mem
      intro other u hu
      rw [Std.ExtTreeMap.getElem?_erase] at hu
      split_ifs at hu
      exact .inl hu
  | tag source target =>
      simp only [Memory.answer]
      split
      · apply h.of_units _ (fun hu => .inl hu)
        rw [Std.ExtTreeMap.mem_insert]
        exact .inr h.base_mem
      · exact h
  | removeImage image =>
      apply h.of_units _ (fun hu => .inl hu)
      rw [Std.ExtTreeMap.mem_erase]
      use by simpa [Request.Spares] using hr, h.base_mem
  | commit unit target =>
      simp only [Memory.answer]
      split_ifs
      · apply h.of_units _ (fun hu => .inl hu)
        rw [Std.ExtTreeMap.mem_insert]
        exact .inr h.base_mem
      · exact h

end Ready

end Memory

end JoinBench.Host
