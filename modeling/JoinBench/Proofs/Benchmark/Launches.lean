import JoinBench.Proofs.Benchmark.Actions
import JoinBench.Proofs.Benchmark.Point
import JoinBench.Proofs.Lifecycle.Stocked

/-!
# The launches of an experiment

An experiment launches its units by a fixed plan: what generates the data of every source, then the
helper, the receiver and the sources.  However far it gets on whatever hosts, its launches are the
beginning of the plan.  The protocol only starts when all data is generated and committed, and every
source runs it from the image that was made of its own data.
-/

namespace JoinBench

open Host Manager

/-! ### The plan -/

/-- The request that an order leads to: to the host of the role, under the name of the role, and
with this name as the first flag behind the command. -/
def Environment.requestOf (env : Environment) (o : Order) : HostId × LaunchSpec :=
  (env.hostOf o.role, env.specOf o.role (lineOf o.command o.flags o.role))

/-- The request of a launch. -/
def Launch.request (l : Launch) : HostId × LaunchSpec :=
  (l.host, l.spec)

/-- The order for a role with a command of the environment. -/
def Point.order (point : Point) (template : String) (flags : UnitFlags) (role : Role) : Order :=
  ⟨role, Command.render template point.sourceIds point, flags⟩

namespace Benchmark

variable (b : Benchmark) (point : Point)

/-- The orders that generate the data of the sources. -/
def generating : List Order :=
  point.sources.map (point.order b.env.commands.generate .none)

/-- The order of the helper. -/
def helping : Order :=
  point.order b.env.commands.helper
    { UnitFlags.none with sources := some point.sourceIds, nRows := some point.setSize } .helper

/-- The order of the receiver. -/
def receiving : Order :=
  point.order b.env.commands.receiver
    { UnitFlags.none with
      helperAddress := some b.env.helperAddress, sources := some point.sourceIds } .receiver

/-- The orders of the sources in the protocol. -/
def serving : List Order :=
  point.sources.map (point.order b.env.commands.source
    { UnitFlags.none with
      helperAddress := some b.env.helperAddress, nCpu := some b.env.nCpuPerSource })

/-- The orders of the protocol. -/
def joining : List Order :=
  b.helping point :: b.receiving point :: b.serving point

/-- All orders of an experiment. -/
def plan : List Order :=
  b.generating point ++ b.joining point

/-- The launches that generate data, the commits behind them and the launches of the protocol, in an
experiment that started on the given scene. -/
structure Course (start : Scene) (generators : List Launch) (commits : List Commit)
    (protocol : List Launch) : Prop where
  /-- The launches are the beginning of the plan. -/
  launches_prefix : (generators ++ protocol).map Launch.request
    <+: (b.plan point).map b.env.requestOf
  length_le : generators.length ≤ point.nSources
  /-- Every launch is for the role of its place in the plan: on the host of the role, under its
  name, and with this name behind the command. -/
  exists_order : ∀ {i : Nat} {l : Launch}, (generators ++ protocol)[i]? = some l →
    ∃ (o : Order) (rest : String), (b.plan point)[i]? = some o ∧ l.host = b.env.hostOf o.role
      ∧ l.spec.name = o.role.id.text
      ∧ l.spec.command = b.env.unitShell ++ [o.command ++ " -id " ++ o.role.id.text ++ rest]
  /-- Only the last launch may have failed. -/
  exists_unit : ∀ l ∈ (generators ++ protocol).dropLast, ∃ unit, l.answer = .ok unit
  /-- Every commit is of the unit that generated the data of its source and exited with zero. -/
  exists_generator : ∀ {i : Nat} {c : Commit}, commits[i]? = some c →
    ∃ l, generators[i]? = some l ∧ l.answer = .ok c.unit ∧ c.host = l.host ∧ c.status = 0
  /-- The protocol starts when the data of all sources is generated and committed. -/
  length_eq : protocol ≠ [] →
    generators.length = point.nSources ∧ commits.length = point.nSources
  /-- The helper, the receiver and what generates the data start from the base image. -/
  image_eq_base : ∀ l ∈ generators ++ protocol.take 2,
    l.image = start.image? l.host b.env.image.base
  /-- The sources start from what was committed of their data. -/
  image_eq_commit : ∀ {i : Nat} {l : Launch}, protocol[i + 2]? = some l →
    ∃ c, commits[i]? = some c ∧ c.host = l.host ∧ l.image = c.image

variable {b point}

theorem role_of_getElem?_sources {template : String} {flags : UnitFlags} {i : Nat} {o : Order}
    (h : (point.sources.map (point.order template flags))[i]? = some o) :
  o.role = .source i
  := by
  simp only [Point.sources, List.getElem?_map, Option.map_eq_some_iff] at h
  obtain ⟨role, ⟨j, hj, rfl⟩, rfl⟩ := h
  obtain ⟨-, rfl⟩ := List.getElem?_eq_some_iff.mp hj
  simp [Point.order]

/-! ### What follows from the orders -/

/-- A launch that an order makes is for the role of the order. -/
theorem exists_order_of_placed {orders : List Order} {ls : List Launch}
    {units : Option (List UnitHandle)}
    (h : Placed (fun o l => l.request = b.env.requestOf o) orders ls units) {i : Nat} {l : Launch}
    (hl : ls[i]? = some l) :
  ∃ (o : Order) (rest : String), orders[i]? = some o ∧ l.host = b.env.hostOf o.role
    ∧ l.spec.name = o.role.id.text
    ∧ l.spec.command = b.env.unitShell ++ [o.command ++ " -id " ++ o.role.id.text ++ rest]
  := by
  obtain ⟨o, ho, hrequest⟩ := h.exists_order hl
  obtain ⟨rest, hrest⟩ := o.flags.exists_text_eq o.role.id
  rw [Launch.request, Environment.requestOf, Prod.mk.injEq] at hrequest
  obtain ⟨hhost, hspec⟩ := hrequest
  refine ⟨o, rest, ho, hhost, ?_, ?_⟩
  · rw [hspec]
    rfl
  · rw [hspec, Environment.specOf, lineOf, hrest]
    simp only [String.append_assoc]
    rfl

variable {m : Manager} {start : Scene} {stock : Role → Option Nat}
  {generators protocol : List Launch} {commits : List Commit} {units : List UnitHandle}
  {units' : Option (List UnitHandle)} {whole : Bool}

/-- Only sources get a new image by the commits of generated data. -/
theorem stock_eq_baseOf
    (h : Placed (Order.Makes m (m.baseOf start)) (b.generating point) generators (some units))
    (hrestocks : Restocks (m.baseOf start) stock units commits) {role : Role}
    (hrole : ∀ i, role ≠ .source i) :
  stock role = m.baseOf start role
  := by
  apply hrestocks.eq_of_ne
  intro unit hunit heq
  obtain ⟨i, hi⟩ := List.mem_iff_getElem?.mp hunit
  obtain ⟨o, l, ho, -, -, hyields⟩ := h.exists_yields hi
  have hsource : o.role = .source i := role_of_getElem?_sources ho
  apply hrole i
  rw [← hsource]
  exact Role.id_injective (heq.symm.trans hyields.role_eq)

/-- A source starts from the image that was committed of the unit that generated its data. -/
theorem image_eq_commit_of_joining
    (h : Placed (Order.Makes m (m.baseOf start)) (b.generating point) generators (some units))
    (hsealed : Sealed units commits true)
    (hrestocks : Restocks (m.baseOf start) stock units commits)
    (hprotocol : Placed (Order.Makes m stock) (b.joining point) protocol units') {i : Nat}
    {l : Launch} (hl : protocol[i + 2]? = some l) :
  ∃ c, commits[i]? = some c ∧ c.host = l.host ∧ l.image = c.image
  := by
  obtain ⟨o, ho, hmakes⟩ := hprotocol.exists_order hl
  have hsource : o.role = .source i := role_of_getElem?_sources ho
  have hlt : i < commits.length := by
    obtain ⟨hi, -⟩ := List.getElem?_eq_some_iff.mp ho
    rw [hsealed.length_eq, h.length_eq.2]
    simpa [joining, serving, generating] using hi
  refine ⟨commits[i], List.getElem?_eq_getElem hlt, ?_⟩
  obtain ⟨o', l', ho', -, hmakes', hyields, hhost, -⟩ :=
    hsealed.exists_yields h (List.getElem?_eq_getElem hlt)
  have hsource' : o'.role = .source i := role_of_getElem?_sources ho'
  constructor
  · have hid := hmakes.hostFor_eq
    rw [hsource, ← hsource', hmakes'.hostFor_eq] at hid
    exact hhost.trans (Except.ok.inj hid)
  · rw [hmakes.image_eq, hsource]
    apply hrestocks.image_eq _ (List.getElem_mem hlt)
    rw [hyields.role_eq, hsource']

namespace Manages

variable (hm : b.Manages point m)

include hm

/-- Under the manager of the experiment orders make the requests of the environment. -/
theorem request_eq {o : Order} {l : Launch} (h : o.Makes m stock l) :
  l.request = b.env.requestOf o
  := by
  have hid := h.hostFor_eq
  rw [hm.hostFor_eq (mem_roles_of_hostFor hid)] at hid
  rw [Launch.request, Environment.requestOf, h.spec_eq, Fabric.eq_of_host hid, specFor,
    hm.specOf_eq]

theorem image_eq_base {o : Order} {l : Launch} (h : o.Makes m (m.baseOf start) l) :
  l.image = start.image? l.host b.env.image.base
  := by
  rw [h.image_eq, baseOf, h.hostFor_eq, hm.image_eq]
  rfl

/-- What generates the data starts from the base image. -/
theorem image_eq_base_of_generating {orders : List Order}
    (h : Placed (Order.Makes m (m.baseOf start)) orders generators units') :
  ∀ l ∈ generators, l.image = start.image? l.host b.env.image.base
  := by
  intro l hl
  obtain ⟨i, hi⟩ := List.mem_iff_getElem?.mp hl
  obtain ⟨o, -, hmakes⟩ := h.exists_order hi
  exact hm.image_eq_base hmakes

/-- The helper and the receiver start from the base image. -/
theorem image_eq_base_of_joining
    (h : Placed (Order.Makes m (m.baseOf start)) (b.generating point) generators (some units))
    (hrestocks : Restocks (m.baseOf start) stock units commits)
    (hprotocol : Placed (Order.Makes m stock) (b.joining point) protocol units') :
  ∀ l ∈ protocol.take 2, l.image = start.image? l.host b.env.image.base
  := by
  intro l hl
  obtain ⟨i, hi⟩ := List.mem_iff_getElem?.mp hl
  rw [List.getElem?_take] at hi
  split_ifs at hi with hlt
  obtain ⟨o, ho, hmakes⟩ := hprotocol.exists_order hi
  have hrole : ∀ j, o.role ≠ .source j := by
    match i with
    | 0 =>
        cases ho
        rintro j ⟨⟩
    | 1 =>
        cases ho
        rintro j ⟨⟩
  apply hm.image_eq_base
  exact ⟨hmakes.hostFor_eq, hmakes.spec_eq,
    hmakes.image_eq.trans (stock_eq_baseOf h hrestocks hrole)⟩

/-! ### The launches of the phases -/

section Phases

open Story Program

variable {st : Story}

/-- However far the generation of the data gets, the units behind its commits are those that it
launched. -/
theorem goes_generateData (h : m.Stocked stock st.scene) {Q : Except Error Unit → Story → Prop}
    (herror : ∀ e ls sc', Placed (Order.Makes m stock) (b.generating point) ls none →
      Q (.error e) ⟨sc', st.deeds ++ ls.map .launched⟩)
    (hbroken : ∀ e ls units cs sc',
      Placed (Order.Makes m stock) (b.generating point) ls (some units) →
        Sealed units cs false →
          Q (.error e) ⟨sc', st.deeds ++ ls.map .launched ++ cs.map .committed⟩)
    (hok : ∀ ls units cs stock' sc',
      Placed (Order.Makes m stock) (b.generating point) ls (some units) → Sealed units cs true →
        Restocks stock stock' units cs → m.Stocked stock' sc' →
          Q (.ok ()) ⟨sc', st.deeds ++ ls.map .launched ++ cs.map .committed⟩) :
  st.Goes (b.generateData m point) Q
  := by
  apply leads_bind
  apply goes_log
  rw [onward_ok]
  apply leads_bind
  rw [hm.sourceIds_eq, hm.sources_eq]
  apply h.goes_runAll
  · exact herror
  · intro units ls sc' hplaced h'
    rw [onward_ok]
    apply leads_bind
    apply h'.goes_commit
    · intro unit hunit
      obtain ⟨i, hi⟩ := List.mem_iff_getElem?.mp hunit
      obtain ⟨o, l, -, -, hmakes, hyields⟩ := hplaced.exists_yields hi
      refine ⟨o.role, hyields.role_eq, ?_⟩
      rw [hmakes.hostFor_eq, hyields.host_eq]
    · rw [hplaced.map_role, List.map_map]
      apply List.Nodup.map
      · exact Role.id_injective
      · rw [← hm.sources_eq]
        apply Topology.nodup_sources
    · intro e cs sc'' hsealed
      exact hbroken e ls units cs sc'' hplaced hsealed
    · intro cs stock' sc'' hsealed h'' hrestocks
      rw [onward_ok]
      apply goes_log
      exact hok ls units cs stock' sc'' hplaced hsealed hrestocks h''

theorem goes_startHelper (h : m.Stocked stock st.scene)
    {Q : Except Error UnitHandle → Story → Prop}
    (herror : ∀ e ls sc', Placed (Order.Makes m stock) [b.helping point] ls none →
      Q (.error e) ⟨sc', st.deeds ++ ls.map .launched⟩)
    (hok : ∀ unit l sc', (b.helping point).Makes m stock l → (b.helping point).Yields l unit →
      m.Stocked stock sc' → Q (.ok unit) ⟨sc', st.deeds ++ [.launched l]⟩) :
  st.Goes (b.startHelper m point) Q
  := by
  apply leads_bind
  apply goes_log
  rw [onward_ok]
  apply leads_bind
  rw [hm.withSources_eq, hm.sourceIds_eq]
  apply leads_ofExcept
  rw [onward_ok]
  apply leads_bind
  apply h.goes_runRole (o := b.helping point)
  · exact herror
  · intro unit l sc' hmakes hyields h'
    rw [onward_ok]
    apply leads_bind
    apply goes_pause
    rw [onward_ok]
    apply leads_pure
    exact hok unit l sc' hmakes hyields h'

theorem goes_startReceiver (h : m.Stocked stock st.scene)
    {Q : Except Error UnitHandle → Story → Prop}
    (herror : ∀ e ls sc', Placed (Order.Makes m stock) [b.receiving point] ls none →
      Q (.error e) ⟨sc', st.deeds ++ ls.map .launched⟩)
    (hok : ∀ unit l sc', (b.receiving point).Makes m stock l → (b.receiving point).Yields l unit →
      m.Stocked stock sc' → Q (.ok unit) ⟨sc', st.deeds ++ [.launched l]⟩) :
  st.Goes (b.startReceiver m point) Q
  := by
  apply leads_bind
  rw [hm.withSources_eq, hm.sourceIds_eq]
  apply leads_ofExcept
  rw [onward_ok]
  exact h.goes_runRole (o := b.receiving point) herror hok

theorem goes_startSources (h : m.Stocked stock st.scene)
    {Q : Except Error (List UnitHandle) → Story → Prop}
    (herror : ∀ e ls sc', Placed (Order.Makes m stock) (b.serving point) ls none →
      Q (.error e) ⟨sc', st.deeds ++ ls.map .launched⟩)
    (hok : ∀ units ls sc', Placed (Order.Makes m stock) (b.serving point) ls (some units) →
      m.Stocked stock sc' → Q (.ok units) ⟨sc', st.deeds ++ ls.map .launched⟩) :
  st.Goes (b.startSources m point) Q
  := by
  rw [startSources, hm.sourceIds_eq, hm.sources_eq]
  exact h.goes_runAll herror hok

/-- Whatever comes of the protocol, its orders were carried out one after the other; it only
succeeds behind all of them. -/
theorem goes_joining (h : m.Stocked stock st.scene)
    {Q : Except Error ResultRecord → Story → Prop}
    (hQ : ∀ r ls units' sc', Placed (Order.Makes m stock) (b.joining point) ls units' →
      (∀ record, r = .ok record → units' ≠ none) → Q r ⟨sc', st.deeds ++ ls.map .launched⟩) :
  st.Goes (do
    let helper ← b.startHelper m point
    Job.log .info "Running receiver and sources"
    let started ← Job.now
    let receiver ← b.startReceiver m point
    let sources ← b.startSources m point
    awaitResult m helper receiver sources started
    checkResult m point receiver
    let stats ← collectStats m (sources.take 1 ++ [helper, receiver]) []
    cleanUp m point
    return ⟨point.nSources, point.setSize, point.joinSize, point.rep, stats⟩) Q
  := by
  have hfailed : ∀ e ls sc', Placed (Order.Makes m stock) (b.joining point) ls none →
      Q (.error e) ⟨sc', st.deeds ++ ls.map .launched⟩ := by
    intro e ls sc' hplaced
    apply hQ _ ls none sc' hplaced
    rintro record ⟨⟩
  apply leads_bind
  apply hm.goes_startHelper h
  · intro e ls sc' hplaced
    exact hfailed e ls sc' (hplaced.append_of_none _)
  intro helper l₁ sc₁ hmakes₁ hyields₁ h₁
  rw [onward_ok]
  apply leads_bind
  apply goes_log
  rw [onward_ok]
  apply leads_bind
  apply goes_now
  intro started
  rw [onward_ok]
  apply leads_bind
  apply hm.goes_startReceiver h₁
  · intro e ls sc' hplaced
    have hresult := hfailed e (l₁ :: ls) sc'
      (.next hmakes₁ hyields₁ (hplaced.append_of_none (b.serving point)))
    rw [List.map_cons, List.append_cons] at hresult
    exact hresult
  intro receiver l₂ sc₂ hmakes₂ hyields₂ h₂
  rw [onward_ok]
  apply leads_bind
  apply hm.goes_startSources h₂
  · intro e ls sc' hplaced
    have hresult := hfailed e (l₁ :: l₂ :: ls) sc'
      (.next hmakes₁ hyields₁ (.next hmakes₂ hyields₂ hplaced))
    rw [List.map_cons, List.append_cons, List.map_cons, List.append_cons] at hresult
    exact hresult
  · intro sources ls sc₃ hplaced h₃
    rw [onward_ok]
    have htends := tends_conclude m point helper receiver sources started
    apply goes_of_isWithin h₃.isThere (htends.mono fun _ haction => (Works.tends haction).isWithin)
      (htends.mono fun _ => Tends.isQuiet)
    intro r sc'
    have hresult := hQ r (l₁ :: l₂ :: ls) _ sc'
      (.next hmakes₁ hyields₁ (.next hmakes₂ hyields₂ hplaced)) fun _ _ => Option.some_ne_none _
    rw [List.map_cons, List.append_cons, List.map_cons, List.append_cons] at hresult
    exact hresult

end Phases

/-! ### How far an experiment gets -/

/-- An experiment gets as far as some launch that generates data. -/
theorem course_of_generating
    (h : Placed (Order.Makes m (m.baseOf start)) (b.generating point) generators none) :
  b.Course point start generators [] []
  := by
  have hplan := (h.mono hm.request_eq).append_of_none (b.joining point)
  constructor
  · rw [List.append_nil]
    exact hplan.map_prefix id
  · have hle := (h.map_prefix hm.request_eq).length_le
    simpa [generating, Point.sources] using hle
  · rw [List.append_nil]
    exact fun hl => exists_order_of_placed hplan hl
  · rw [List.append_nil]
    exact fun l hl => hplan.exists_answer_eq_ok hl
  · rintro i c ⟨⟩
  · intro hne
    exact absurd rfl hne
  · rw [List.take_nil, List.append_nil]
    exact hm.image_eq_base_of_generating h
  · rintro i l ⟨⟩

/-- An experiment gets beyond the launches that generate data. -/
theorem course_of_placed
    (h : Placed (Order.Makes m (m.baseOf start)) (b.generating point) generators (some units))
    (hsealed : Sealed units commits whole)
    (hprotocol : Placed (Order.Makes m stock) (b.joining point) protocol units')
    (hwhole : ∀ l ∈ protocol, whole = true ∧ Restocks (m.baseOf start) stock units commits) :
  b.Course point start generators commits protocol
  := by
  have hplan := (h.mono hm.request_eq).append (hprotocol.mono hm.request_eq)
  have hlength : generators.length = point.nSources ∧ units.length = point.nSources := by
    simpa [generating, Point.sources] using h.length_eq
  constructor
  · exact hplan.map_prefix id
  · exact hlength.1.le
  · exact fun hl => exists_order_of_placed hplan hl
  · exact fun l hl => hplan.exists_answer_eq_ok hl
  · intro i c hc
    obtain ⟨o, l, -, hl, -, hyields, hhost, hstatus⟩ := hsealed.exists_yields h hc
    exact ⟨l, hl, hyields.answer_eq, hhost, hstatus⟩
  · intro hne
    obtain ⟨rfl, -⟩ := hwhole _ (List.head_mem hne)
    exact ⟨hlength.1, hsealed.length_eq.trans hlength.2⟩
  · intro l hl
    obtain hl | hl := List.mem_append.mp hl
    · exact hm.image_eq_base_of_generating h l hl
    · obtain ⟨-, hrestocks⟩ := hwhole l (List.mem_of_mem_take hl)
      exact hm.image_eq_base_of_joining h hrestocks hprotocol l hl
  · intro i l hl
    obtain ⟨rfl, hrestocks⟩ := hwhole l (List.mem_of_getElem? hl)
    exact image_eq_commit_of_joining h hsealed hrestocks hprotocol hl

end Manages

theorem course_nil (b : Benchmark) (point : Point) (start : Scene) :
  b.Course point start [] [] []
  := by
  constructor
  · exact List.nil_prefix
  · exact Nat.zero_le _
  · rintro i l ⟨⟩
  · rintro l ⟨⟩
  · rintro i c ⟨⟩
  · intro hne
    exact absurd rfl hne
  · rintro l ⟨⟩
  · rintro i l ⟨⟩

section Running

open Story Program

/-- On hosts that are there an experiment takes some course, and it only succeeds behind the whole
plan. -/
theorem goes_runPoint (hthere : b.fabric.IsThere start)
    (hid : ∀ {id : HostId} {host : Memory}, start.hosts id = some host → host.id = id)
    (hapart : b.env.image.IsApart) {Q : Except Error ResultRecord → Story → Prop}
    (hQ : ∀ r generators commits protocol sc', b.Course point start generators commits protocol →
      (∀ record, r = .ok record → (generators ++ protocol).length = (b.plan point).length) →
        Q r ⟨sc', generators.map .launched ++ commits.map .committed ++ protocol.map .launched⟩) :
  (Story.mk start []).Goes (b.runPoint point) Q
  := by
  have herror : ∀ e generators commits sc', b.Course point start generators commits [] →
      Q (.error e) ⟨sc', generators.map .launched ++ commits.map .committed⟩ := by
    intro e generators commits sc' hcourse
    have hresult := hQ (.error e) generators commits [] sc' hcourse (by rintro record ⟨⟩)
    rw [List.map_nil, List.append_nil] at hresult
    exact hresult
  have hidle : ∀ e sc', Q (.error e) ⟨sc', []⟩ :=
    fun e sc' => herror e [] [] sc' (course_nil b point start)
  apply leads_bind
  apply leads_ofExcept
  cases hmanager : b.manager point.nSources with
  | error e => exact hidle e start
  | ok m =>
      have hm := manages_of_manager hmanager
      have hapart' : m.IsApart := isApart_of_image (hm.image_eq ▸ hapart)
      have hputBack : m.PutBack start [] start := putBack_nil (hm.fabric_eq ▸ hthere) hid
      rw [onward_ok]
      apply leads_bind
      apply goes_forgetStates
      rw [onward_ok]
      apply leads_bind
      apply goes_of_leads (m.tends_cleanAll.mono fun _ => Tends.isQuiet)
      apply PutBack.leads_cleanAll (hputBack.clean (.refl start) fun _ => .noImage) hidle
      intro n sc₁ h₁
      rw [onward_ok]
      apply leads_bind
      apply goes_of_leads m.isQuiet_prepareImages
      apply h₁.leads_prepareImages hapart' hidle
      intro sc₂ h₂
      rw [onward_ok]
      apply leads_bind
      apply goes_pause
      rw [onward_ok]
      apply leads_bind
      apply hm.goes_generateData h₂
      · intro e ls sc' hplaced
        have hresult := herror e ls [] sc' (hm.course_of_generating hplaced)
        rw [List.map_nil, List.append_nil] at hresult
        exact hresult
      · intro e ls units cs sc' hplaced hsealed
        apply herror e ls cs sc'
        have hrefused : Placed (Order.Makes m (m.baseOf start)) (b.joining point) [] none :=
          .refused
        apply hm.course_of_placed hplaced hsealed hrefused
        rintro l ⟨⟩
      · intro ls units cs stock sc₃ hplaced hsealed hrestocks h₃
        rw [onward_ok]
        apply hm.goes_joining h₃
        intro r protocol units' sc₄ hprotocol hwhole
        apply hQ r ls cs protocol sc₄
        · exact hm.course_of_placed hplaced hsealed hprotocol fun _ _ => ⟨rfl, hrestocks⟩
        · intro record hrecord
          obtain ⟨units', rfl⟩ := Option.ne_none_iff_exists'.mp (hwhole record hrecord)
          rw [List.length_append, hplaced.length_eq.1, hprotocol.length_eq.1, plan,
            List.length_append]

/-- On hosts that are there an experiment ends.  It launches what generates the data, commits the
units of these launches and launches the protocol, in this order and each as far as it gets, and
yields a record only behind the whole plan. -/
theorem run_runPoint_launches {w : World Cluster} (h : b.fabric.IsIn w)
    (hapart : b.env.image.IsApart) (point : Point) :
  ∃ r w' generators commits protocol, World.run Cluster.layer (b.runPoint point) w = (some r, w')
    ∧ w.deeds (b.runPoint point)
      = generators.map .launched ++ commits.map .committed ++ protocol.map .launched
    ∧ b.Course point w.scene generators commits protocol
    ∧ ∀ record, r = .ok record → (generators ++ protocol).length = (b.plan point).length
  := by
  have hgoes : (Story.mk w.scene []).Goes (b.runPoint point) fun r st' =>
      ∃ generators commits protocol,
        st'.deeds = generators.map .launched ++ commits.map .committed ++ protocol.map .launched
          ∧ b.Course point w.scene generators commits protocol
          ∧ ∀ record, r = .ok record →
            (generators ++ protocol).length = (b.plan point).length := by
    apply goes_runPoint h.isThere
    · intro id host hhost
      exact Cluster.id_of_host? hhost
    · exact hapart
    · intro r generators commits protocol sc' hcourse hwhole
      exact ⟨generators, commits, protocol, rfl, hcourse, hwhole⟩
  obtain ⟨r, w', hrun, -, generators, commits, protocol, hdeeds, hcourse⟩ :=
    exists_run_of_goes h.deadline_eq hgoes
  exact ⟨r, w', generators, commits, protocol, hrun, hdeeds, hcourse⟩

/-- An experiment with two sources in the usual environment. -/
theorem run_runPoint_launches_usual :
  ∃ r w' generators commits protocol,
    World.run Cluster.layer (usual.runPoint ⟨0, 2, 5, 0, 0⟩) usualWorld = (some r, w')
    ∧ usualWorld.deeds (usual.runPoint ⟨0, 2, 5, 0, 0⟩)
      = generators.map .launched ++ commits.map .committed ++ protocol.map .launched
    ∧ usual.Course ⟨0, 2, 5, 0, 0⟩ usualWorld.scene generators commits protocol
    ∧ ∀ record, r = .ok record →
      (generators ++ protocol).length = (usual.plan ⟨0, 2, 5, 0, 0⟩).length
  := by
  apply run_runPoint_launches
  · exact isReadyIn_usualWorld.isIn
  · exact Environment.isApart_usual

end Running

end Benchmark

end JoinBench
