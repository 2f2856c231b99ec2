import JoinBench.Proofs.Lifecycle.Outcomes

/-!
# The images that units start from

The stock of a manager tells which image is behind the checkpoint of every role.  Putting the roles
back makes the base image the stock of all of them, launching leaves the stock as it is, and a
commit replaces the image of one role by a new one.  So for every launch it is known from which
image its unit starts, however far a group of operations gets.
-/

namespace JoinBench

open Host

/-- The image behind a tag of a host. -/
def Scene.image? (sc : Scene) (id : HostId) (image : ImageRef) : Option Nat :=
  (sc.hosts id).bind fun host => host.images[image]?

namespace Manager

variable {m : Manager} {sc sc' : Scene} {st : Story} {stock stock' : Role → Option Nat}
  {role : Role} {id : HostId} {host host' : Memory}

/-! ### Stocks -/

/-- The hosts of the fabric are there under their names, and the stock tells what is behind the
checkpoints of the roles that are placed on them. -/
structure Stocked (m : Manager) (stock : Role → Option Nat) (sc : Scene) : Prop where
  isThere : m.fabric.IsThere sc
  id_eq : ∀ {id : HostId} {host : Memory}, sc.hosts id = some host → host.id = id
  getElem?_images : ∀ {role : Role} {id : HostId} {host : Memory}, m.hostFor role = .ok id →
    sc.hosts id = some host → host.images[m.checkpoint role]? = stock role

/-- One host gets other images, and the stock of its roles is what is behind their checkpoints
then. -/
theorem Stocked.setHost (h : m.Stocked stock sc) (hhost : sc.hosts id = some host)
    (hid : host'.id = host.id)
    (himages : ∀ {role : Role}, m.hostFor role = .ok id →
      host'.images[m.checkpoint role]? = stock' role)
    (hothers : ∀ {role : Role}, m.hostFor role ≠ .ok id → stock' role = stock role) :
  m.Stocked stock' (sc.setHost id host')
  := by
  constructor
  · exact h.isThere.setHost id host'
  · intro other found hfound
    obtain ⟨rfl, rfl⟩ | ⟨-, hfound⟩ := Scene.hosts_setHost_cases hfound
    · exact hid.trans (h.id_eq hhost)
    · exact h.id_eq hfound
  · intro role other found hplaced hfound
    obtain ⟨rfl, rfl⟩ | ⟨hne, hfound⟩ := Scene.hosts_setHost_cases hfound
    · exact himages hplaced
    · rw [hothers, h.getElem?_images hplaced hfound]
      intro hother
      rw [hplaced] at hother
      cases hother
      exact hne rfl

/-- One host changes, but none of its images. -/
theorem Stocked.setHost_of_images_eq (h : m.Stocked stock sc) (hhost : sc.hosts id = some host)
    (hid : host'.id = host.id) (himages : host'.images = host.images) :
  m.Stocked stock (sc.setHost id host')
  := by
  apply h.setHost hhost hid
  · intro role hplaced
    rw [himages, h.getElem?_images hplaced hhost]
  · intro _ _
    rfl

theorem Stocked.setState (h : m.Stocked stock sc) (role : Role) (state : UnitState) :
  m.Stocked stock (sc.setState role state)
  := ⟨h.isThere, h.id_eq, h.getElem?_images⟩

/-! ### Putting roles back -/

/-- The base image on the host of a role. -/
def baseOf (m : Manager) (sc : Scene) (role : Role) : Option Nat :=
  (m.hostFor role).toOption.bind fun id => sc.image? id m.image.base

/-- All hosts hold the base image that they held at the start, and the roles that were put back have
it behind their checkpoints. -/
structure PutBack (m : Manager) (start : Scene) (roles : List Role) (sc : Scene) : Prop where
  isThere : m.fabric.IsThere sc
  id_eq : ∀ {id : HostId} {host : Memory}, sc.hosts id = some host → host.id = id
  base_eq : ∀ {id : HostId} {host : Memory}, sc.hosts id = some host →
    host.images[m.image.base]? = start.image? id m.image.base
  checkpoint_eq : ∀ {role : Role} {id : HostId} {host : Memory}, role ∈ roles →
    m.hostFor role = .ok id → sc.hosts id = some host →
      host.images[m.checkpoint role]? = start.image? id m.image.base

section PuttingBack

open Scene

variable {start : Scene} {roles done : List Role}

theorem putBack_nil (hthere : m.fabric.IsThere sc)
    (hid : ∀ {id : HostId} {host : Memory}, sc.hosts id = some host → host.id = id) :
  m.PutBack sc [] sc
  where
    isThere := hthere
    id_eq := hid
    base_eq := by
      intro id host hhost
      rw [image?, hhost, Option.bind_some]
    checkpoint_eq := by
      intro role id host hrole
      cases hrole

/-- Cleaning only removes units. -/
theorem PutBack.clean (h : m.PutBack start [] sc) (hcleans : Fabric.Cleans sc sc')
    (states : Role → UnitState) :
  m.PutBack start [] { sc' with states := states }
  := by
  have hhosts : ∀ {id : HostId} {host' : Memory}, sc'.hosts id = some host' →
      ∃ host, sc.hosts id = some host ∧ host'.id = host.id ∧ host'.images = host.images := by
    intro id host' hhost'
    obtain ⟨refs, hrefs⟩ := hcleans.exists_refs id
    rw [hrefs] at hhost'
    obtain ⟨host, hhost, rfl⟩ := Option.map_eq_some_iff.mp hhost'
    exact ⟨host, hhost, rfl, rfl⟩
  constructor
  · intro id hid
    obtain ⟨host, hhost⟩ := h.isThere id hid
    obtain ⟨refs, hrefs⟩ := hcleans.exists_host hhost
    exact ⟨_, hrefs⟩
  · intro id host' hhost'
    obtain ⟨host, hhost, hid, -⟩ := hhosts hhost'
    rw [hid, h.id_eq hhost]
  · intro id host' hhost'
    obtain ⟨host, hhost, -, himages⟩ := hhosts hhost'
    rw [himages, h.base_eq hhost]
  · intro role id host' hrole
    cases hrole

theorem PutBack.leads_cleanAll (h : m.PutBack start [] sc)
    {Q : Except Error Nat → Scene → Prop} (herror : ∀ e sc', Q (.error e) sc')
    (hok : ∀ n sc', m.PutBack start [] sc' → Q (.ok n) sc') :
  sc.Leads m.cleanAll Q
  := by
  apply leads_bind
  apply Fabric.leads_cleanAll_of_isThere h.isThere
  · intro e sc' _ _
    exact herror e sc'
  · apply leads_bind
    apply leads_forgetStates
    apply leads_pure
    exact hok _ _ (h.clean (Fabric.cleans_swept sc m.label m.fabric.hosts) fun _ => .noImage)

/-- A further role is put back. -/
theorem PutBack.step (h : m.PutBack start done sc) (hapart : m.image.IsApartFrom role)
    (hid : m.hostFor role = .ok id) (hhost : sc.hosts id = some host) {image : Nat}
    (hbase : (m.untagged role host).images[m.image.base]? = some image) :
  m.PutBack start (role :: done)
    ((sc.setHost id (m.retagged role image host)).setState role .baseImage)
  := by
  rw [getElem?_images_untagged (checkpoint_ne_base hapart) (stale_ne_base hapart)] at hbase
  have hstart : start.image? id m.image.base = some image :=
    (h.base_eq hhost).symm.trans hbase
  have hsame := h.id_eq hhost
  constructor
  · exact h.isThere.setHost id _
  · intro other found hfound
    obtain ⟨rfl, rfl⟩ | ⟨-, hfound⟩ := hosts_setHost_cases hfound
    · exact hsame
    · exact h.id_eq hfound
  · intro other found hfound
    obtain ⟨rfl, rfl⟩ | ⟨-, hfound⟩ := hosts_setHost_cases hfound
    · rw [getElem?_images_retagged (stale_ne_base hapart), if_neg (checkpoint_ne_base hapart),
        h.base_eq hhost]
    · exact h.base_eq hfound
  · intro other otherId found hother hplaced hfound
    obtain ⟨rfl, rfl⟩ | ⟨hne, hfound⟩ := hosts_setHost_cases hfound
    · rw [getElem?_images_retagged (stale_ne_checkpoint m role other)]
      split_ifs with heq
      · exact hstart.symm
      · have hother' : other ≠ role := fun hsame => heq (by rw [hsame])
        exact h.checkpoint_eq (List.mem_of_ne_of_mem hother' hother) hplaced hhost
    · have hother' : other ≠ role := by
        rintro rfl
        rw [hid] at hplaced
        cases hplaced
        exact hne rfl
      exact h.checkpoint_eq (List.mem_of_ne_of_mem hother' hother) hplaced hfound

/-- Roles are put back one after the other, as long as none is refused or lacks its base image. -/
theorem PutBack.leads_forEach (h : m.PutBack start done sc) (hapart : m.IsApart)
    {Q : Except Error Unit → Scene → Prop} (herror : ∀ e sc', Q (.error e) sc')
    (hok : ∀ sc', m.PutBack start (roles.reverse ++ done) sc' → Q (.ok ()) sc') :
  sc.Leads (Program.forEach m.prepareImage roles) Q
  := by
  induction roles generalizing sc done with
  | nil => exact leads_pure (hok sc h)
  | cons role rest ih =>
      apply leads_bind
      apply leads_prepareImage_of_isThere h.isThere
      · exact fun _ => herror _ sc
      · exact fun e _ _ => herror e sc
      · intro id host e _ _ _ _
        exact herror e _
      · intro id host image _ hid hhost hbase
        apply ih (h.step (hapart role (mem_roles_of_hostFor hid)) hid hhost hbase)
        intro sc' hback
        apply hok
        rw [List.reverse_cons, List.append_assoc]
        exact hback

/-- Putting all roles back makes the base image their stock. -/
theorem PutBack.leads_prepareImages (h : m.PutBack start [] sc) (hapart : m.IsApart)
    {Q : Except Error Unit → Scene → Prop} (herror : ∀ e sc', Q (.error e) sc')
    (hok : ∀ sc', m.Stocked (m.baseOf start) sc' → Q (.ok ()) sc') :
  sc.Leads m.prepareImages Q
  := by
  apply h.leads_forEach hapart herror
  intro sc' hback
  apply hok
  constructor
  · exact hback.isThere
  · exact hback.id_eq
  · intro role id host hid hhost
    have hrole : role ∈ m.topology.roles.reverse ++ [] := by
      simpa using mem_roles_of_hostFor hid
    rw [hback.checkpoint_eq hrole hid hhost, baseOf, hid]
    rfl

end PuttingBack

/-! ### Launching -/

/-- What a role is launched with. -/
structure Order where
  role : Role
  command : String
  flags : UnitFlags

/-- The launch that an order leads to: on the host of its role, from the image in stock. -/
structure Order.Makes (m : Manager) (stock : Role → Option Nat) (o : Order) (l : Launch) :
    Prop where
  hostFor_eq : m.hostFor o.role = .ok l.host
  spec_eq : l.spec = m.specFor o.command o.flags o.role
  image_eq : l.image = stock o.role

/-- The unit that the launch of an order led to. -/
structure Order.Yields (o : Order) (l : Launch) (unit : UnitHandle) : Prop where
  answer_eq : l.answer = .ok unit
  host_eq : unit.host = l.host
  role_eq : unit.role = o.role.id

/-- Orders are carried out one after the other up to the first that is refused or fails; the
launches of this, each of which its order makes, and the units if there is no such order. -/
inductive Placed (makes : Order → Launch → Prop) :
    List Order → List Launch → Option (List UnitHandle) → Prop where
  | done : Placed makes [] [] (some [])
  | refused {orders : List Order} : Placed makes orders [] none
  | failed {o : Order} {rest : List Order} {l : Launch} (hmakes : makes o l) :
    Placed makes (o :: rest) [l] none
  | next {o : Order} {rest : List Order} {l : Launch} {unit : UnitHandle} {ls : List Launch}
    {units : Option (List UnitHandle)} (hmakes : makes o l) (hyields : o.Yields l unit)
    (hrest : Placed makes rest ls units) :
    Placed makes (o :: rest) (l :: ls) (units.map (unit :: ·))

namespace Placed

variable {makes makes' : Order → Launch → Prop} {orders more : List Order} {ls ls' : List Launch}
  {units : List UnitHandle} {units' : Option (List UnitHandle)}

theorem mono (h : Placed makes orders ls units') (himp : ∀ {o l}, makes o l → makes' o l) :
  Placed makes' orders ls units'
  := by
  induction h with
  | done => exact .done
  | refused => exact .refused
  | failed hmakes => exact .failed (himp hmakes)
  | next hmakes hyields _ ih => exact .next (himp hmakes) hyields ih

/-- Behind an order that was refused or failed no other is carried out. -/
theorem append_of_none (h : Placed makes orders ls none) (more : List Order) :
  Placed makes (orders ++ more) ls none
  := by
  generalize hnone : (none : Option (List UnitHandle)) = units at h
  induction h with
  | done => cases hnone
  | refused => exact .refused
  | failed hmakes => exact .failed hmakes
  | next hmakes hyields _ ih =>
      rw [eq_comm, Option.map_eq_none_iff] at hnone
      subst hnone
      exact .next hmakes hyields (ih rfl)

/-- Orders are carried out behind others that all were. -/
theorem append (h : Placed makes orders ls (some units)) (h' : Placed makes more ls' units') :
  Placed makes (orders ++ more) (ls ++ ls') (units'.map (units ++ ·))
  := by
  generalize hsome : some units = found at h
  induction h generalizing units with
  | done =>
      cases hsome
      rw [List.nil_append, List.nil_append]
      simpa using h'
  | refused => cases hsome
  | failed => cases hsome
  | next hmakes hyields _ ih =>
      obtain ⟨rest, rfl, rfl⟩ := Option.map_eq_some_iff.mp hsome.symm
      have hnext := Placed.next hmakes hyields (ih rfl)
      rw [Option.map_map] at hnext
      exact hnext

/-- Every launch is made by the order of its place. -/
theorem exists_order (h : Placed makes orders ls units') {i : Nat} {l : Launch}
    (hl : ls[i]? = some l) :
  ∃ o, orders[i]? = some o ∧ makes o l
  := by
  induction h generalizing i with
  | done | refused => cases hl
  | failed hmakes =>
      cases i with
      | zero =>
          cases hl
          exact ⟨_, rfl, hmakes⟩
      | succ i => cases hl
  | next hmakes _ _ ih =>
      cases i with
      | zero =>
          cases hl
          exact ⟨_, rfl, hmakes⟩
      | succ i => exact ih hl

/-- Where all orders are carried out, every unit is that of the launch of its place. -/
theorem exists_yields (h : Placed makes orders ls (some units)) {i : Nat} {unit : UnitHandle}
    (hunit : units[i]? = some unit) :
  ∃ o l, orders[i]? = some o ∧ ls[i]? = some l ∧ makes o l ∧ o.Yields l unit
  := by
  generalize hsome : some units = found at h
  induction h generalizing units i with
  | done =>
      cases hsome
      cases hunit
  | refused | failed => cases hsome
  | next hmakes hyields _ ih =>
      obtain ⟨rest, rfl, rfl⟩ := Option.map_eq_some_iff.mp hsome.symm
      cases i with
      | zero =>
          cases hunit
          exact ⟨_, _, rfl, rfl, hmakes, hyields⟩
      | succ i => exact ih hunit rfl

/-- Where all orders are carried out the units have the names of the roles, in order. -/
theorem map_role (h : Placed makes orders ls (some units)) :
  units.map UnitHandle.role = orders.map fun o => o.role.id
  := by
  generalize hsome : some units = found at h
  induction h generalizing units with
  | done =>
      cases hsome
      rfl
  | refused | failed => cases hsome
  | next _ hyields _ ih =>
      obtain ⟨rest, rfl, rfl⟩ := Option.map_eq_some_iff.mp hsome.symm
      rw [List.map_cons, List.map_cons, hyields.role_eq, ih rfl]

/-- Where all orders are carried out there are as many launches and units. -/
theorem length_eq (h : Placed makes orders ls (some units)) :
  ls.length = orders.length ∧ units.length = orders.length
  := by
  generalize hsome : some units = found at h
  induction h generalizing units with
  | done =>
      cases hsome
      exact ⟨rfl, rfl⟩
  | refused | failed => cases hsome
  | next _ _ _ ih =>
      obtain ⟨rest, rfl, rfl⟩ := Option.map_eq_some_iff.mp hsome.symm
      obtain ⟨hls, hunits⟩ := ih rfl
      simp only [List.length_cons, hls, hunits, and_self]

/-- What the launches have of their orders, they have in the order of these. -/
theorem map_prefix {β : Type} (h : Placed makes orders ls units') {f : Launch → β} {g : Order → β}
    (hfg : ∀ {o l}, makes o l → f l = g o) :
  ls.map f <+: orders.map g
  := by
  induction h with
  | done => exact List.nil_prefix
  | refused => exact List.nil_prefix
  | failed hmakes =>
      rw [List.map_cons, List.map_cons, hfg hmakes, List.cons_prefix_cons]
      exact ⟨rfl, List.nil_prefix⟩
  | next hmakes _ _ ih =>
      rw [List.map_cons, List.map_cons, hfg hmakes, List.cons_prefix_cons]
      exact ⟨rfl, ih⟩

/-- Only the last launch may have failed. -/
theorem exists_answer_eq_ok (h : Placed makes orders ls units') {l : Launch}
    (hl : l ∈ ls.dropLast) :
  ∃ unit, l.answer = .ok unit
  := by
  induction h with
  | done | refused | failed => cases hl
  | @next o rest first unit ls units _ hyields _ ih =>
      cases ls with
      | nil => cases hl
      | cons second ls =>
          rw [List.dropLast_cons_cons, List.mem_cons] at hl
          obtain rfl | hl := hl
          · exact ⟨unit, hyields.answer_eq⟩
          · exact ih hl

end Placed

section Launching

open Story Program

/-- A role is launched from the image in stock. -/
theorem Stocked.goes_runRole (h : m.Stocked stock st.scene) {o : Order}
    {Q : Except Error UnitHandle → Story → Prop}
    (herror : ∀ e ls sc', Placed (Order.Makes m stock) [o] ls none →
      Q (.error e) ⟨sc', st.deeds ++ ls.map .launched⟩)
    (hok : ∀ unit l sc', o.Makes m stock l → o.Yields l unit → m.Stocked stock sc' →
      Q (.ok unit) ⟨sc', st.deeds ++ [.launched l]⟩) :
  st.Goes (m.runRole o.role o.command o.flags) Q
  := by
  have hrefused : ∀ e, Q (.error e) st := by
    intro e
    have hresult := herror e [] st.scene .refused
    rw [List.map_nil, List.append_nil] at hresult
    exact hresult
  apply Manager.goes_runRole h.isThere
  · exact fun e _ => hrefused e
  · exact fun e _ => hrefused e
  · intro id host e hid hhost _
    apply herror e [_]
    exact .failed ⟨hid, rfl, h.getElem?_images hid hhost⟩
  · intro id host unit hid hhost _ _ _ hunit
    apply hok
    · exact ⟨hid, rfl, h.getElem?_images hid hhost⟩
    · constructor
      · rfl
      · rw [hunit]
        exact h.id_eq hhost
      · rw [hunit]
    · apply Stocked.setState
      apply h.setHost_of_images_eq hhost
      · rfl
      · rfl

/-- Several roles are launched together with the same command. -/
theorem Stocked.goes_runAll (h : m.Stocked stock st.scene) {command : String} {roles : List Role}
    {flags : UnitFlags} {Q : Except Error (List UnitHandle) → Story → Prop}
    (herror : ∀ e ls sc',
      Placed (Order.Makes m stock) (roles.map fun role => ⟨role, command, flags⟩) ls none →
        Q (.error e) ⟨sc', st.deeds ++ ls.map .launched⟩)
    (hok : ∀ units ls sc',
      Placed (Order.Makes m stock) (roles.map fun role => ⟨role, command, flags⟩) ls (some units) →
        m.Stocked stock sc' → Q (.ok units) ⟨sc', st.deeds ++ ls.map .launched⟩) :
  st.Goes (m.runAll command roles flags) Q
  := by
  apply leads_all
  induction roles generalizing st Q with
  | nil =>
      apply leads_pure
      have hresult := hok [] [] st.scene .done h
      rw [List.map_nil, List.append_nil] at hresult
      exact hresult
  | cons role rest ih =>
      apply leads_bind
      apply h.goes_runRole (o := ⟨role, command, flags⟩)
      · intro e ls sc' hplaced
        exact herror e ls sc' (hplaced.append_of_none _)
      · intro unit l sc' hmakes hyields h'
        rw [onward_ok]
        apply leads_bind
        apply ih h'
        · intro e ls sc'' hplaced
          have hresult := herror e (l :: ls) sc'' (.next hmakes hyields hplaced)
          rw [List.map_cons, List.append_cons] at hresult
          exact hresult
        · intro units ls sc'' hplaced h''
          rw [onward_ok]
          apply leads_pure
          have hresult := hok (unit :: units) (l :: ls) sc'' (.next hmakes hyields hplaced) h''
          rw [List.map_cons, List.append_cons] at hresult
          exact hresult

end Launching

/-! ### Committing -/

/-- Units are committed one after the other up to the first that cannot be; the commits of those
before it, and whether there is none. -/
inductive Sealed : List UnitHandle → List Commit → (whole : Bool) → Prop where
  | done : Sealed [] [] true
  | broken {units : List UnitHandle} : Sealed units [] false
  | next {rest : List UnitHandle} {c : Commit} {cs : List Commit} {whole : Bool}
    (hhost : c.host = c.unit.host) (hstatus : c.status = 0) (hrest : Sealed rest cs whole) :
    Sealed (c.unit :: rest) (c :: cs) whole

namespace Sealed

variable {units : List UnitHandle} {cs : List Commit} {whole : Bool}

/-- Every commit is of the unit of its place, which exited with zero. -/
theorem getElem?_eq (h : Sealed units cs whole) {i : Nat} {c : Commit} (hc : cs[i]? = some c) :
  units[i]? = some c.unit ∧ c.host = c.unit.host ∧ c.status = 0
  := by
  induction h generalizing i with
  | done | broken => cases hc
  | next hhost hstatus _ ih =>
      cases i with
      | zero =>
          cases hc
          exact ⟨rfl, hhost, hstatus⟩
      | succ i => exact ih hc

theorem length_eq (h : Sealed units cs true) :
  cs.length = units.length
  := by
  generalize htrue : true = whole at h
  induction h with
  | done => rfl
  | broken => cases htrue
  | next _ _ _ ih => rw [List.length_cons, List.length_cons, ih htrue]

/-- A commit is of the unit that the order of its place led to. -/
theorem exists_yields {makes : Order → Launch → Prop} {orders : List Order} {ls : List Launch}
    (h : Sealed units cs whole) (hplaced : Placed makes orders ls (some units)) {i : Nat}
    {c : Commit} (hc : cs[i]? = some c) :
  ∃ o l, orders[i]? = some o ∧ ls[i]? = some l ∧ makes o l ∧ o.Yields l c.unit
    ∧ c.host = l.host ∧ c.status = 0
  := by
  obtain ⟨hunit, hhost, hstatus⟩ := h.getElem?_eq hc
  obtain ⟨o, l, ho, hl, hmakes, hyields⟩ := hplaced.exists_yields hunit
  exact ⟨o, l, ho, hl, hmakes, hyields, hhost.trans hyields.host_eq, hstatus⟩

end Sealed

/-- The new stock: the role of a unit that was committed gets the image that was made of the unit,
and the other roles keep theirs. -/
structure Restocks (stock stock' : Role → Option Nat) (units : List UnitHandle)
    (cs : List Commit) : Prop where
  image_eq : ∀ c ∈ cs, ∀ {role : Role}, c.unit.role = role.id → stock' role = c.image
  eq_of_ne : ∀ {role : Role}, (∀ unit ∈ units, unit.role ≠ role.id) → stock' role = stock role

section Committing

open Story Program

/-- A unit of a role is committed, and its image is the new stock of the role. -/
theorem Stocked.goes_commitUnit (h : m.Stocked stock st.scene) {unit : UnitHandle}
    (hrole : unit.role = role.id) (hid : m.hostFor role = .ok unit.host)
    {Q : Except Error Unit → Story → Prop}
    (herror : ∀ e sc', Q (.error e) ⟨sc', st.deeds⟩)
    (hok : ∀ c sc', c.unit = unit → c.host = unit.host → c.status = 0 →
      m.Stocked (Function.update stock role c.image) sc' →
        Q (.ok ()) ⟨sc', st.deeds ++ [.committed c]⟩) :
  st.Goes (m.commitUnit unit) Q
  := by
  obtain hlost | ⟨found, host, u, hfinds⟩ := m.isLost_or_finds st.scene unit
  · apply hlost.goes_commitUnit h.isThere
    exact fun e => herror e st.scene
  · apply hfinds.goes_commitUnit
    · exact fun e _ => herror e _
    · intro _ _
      have hroleOf := roleOf_eq_ok (mem_roles_of_hostFor hid) hrole
      obtain rfl := Except.ok.inj (hroleOf.symm.trans hfinds.roleOf_eq)
      apply hok ⟨unit.host, unit, 0, m.checkpoint role, some (host.lastId + 1)⟩
      · rfl
      · rfl
      · rfl
      · apply Stocked.setState
        apply h.setHost hfinds.hosts_eq
        · rfl
        · intro other hplaced
          rw [getElem?_images_committed (stale_ne_checkpoint m role other)]
          by_cases heq : other = role
          · rw [heq, if_pos rfl, Function.update_self]
          · rw [if_neg fun hsame => heq (checkpoint_inj.mp hsame).symm,
              Function.update_of_ne heq, h.getElem?_images hplaced hfinds.hosts_eq]
        · intro other hother
          rw [Function.update_of_ne]
          rintro rfl
          exact hother hid

theorem Restocks.cons {units : List UnitHandle} {c : Commit} {cs : List Commit}
    (hrole : c.unit.role = role.id) (hnotMem : ∀ unit ∈ units, unit.role ≠ role.id)
    (h : Restocks (Function.update stock role c.image) stock' units cs) :
  Restocks stock stock' (c.unit :: units) (c :: cs)
  where
    image_eq := by
      rw [List.forall_mem_cons]
      refine ⟨?_, fun c hc => h.image_eq c hc⟩
      intro other hother
      obtain rfl : role = other := Role.id_injective (hrole.symm.trans hother)
      rw [h.eq_of_ne hnotMem, Function.update_self]
    eq_of_ne := by
      intro other hother
      obtain ⟨hne, hrest⟩ := List.forall_mem_cons.mp hother
      rw [h.eq_of_ne hrest, Function.update_of_ne]
      rintro rfl
      exact hne hrole

/-- Units of different roles are committed together. -/
theorem Stocked.goes_commit (h : m.Stocked stock st.scene) {units : List UnitHandle}
    (hunits : ∀ unit ∈ units, ∃ role : Role, unit.role = role.id ∧ m.hostFor role = .ok unit.host)
    (hnodup : (units.map UnitHandle.role).Nodup) {Q : Except Error Unit → Story → Prop}
    (herror : ∀ e cs sc', Sealed units cs false →
      Q (.error e) ⟨sc', st.deeds ++ cs.map .committed⟩)
    (hok : ∀ cs stock' sc', Sealed units cs true → m.Stocked stock' sc' →
      Restocks stock stock' units cs → Q (.ok ()) ⟨sc', st.deeds ++ cs.map .committed⟩) :
  st.Goes (m.commit units) Q
  := by
  apply leads_bind
  apply leads_all
  induction units generalizing st stock Q with
  | nil =>
      apply leads_pure
      rw [onward_ok]
      apply leads_pure
      have hresult := hok [] stock st.scene .done h
        ⟨fun _ hc => absurd hc List.not_mem_nil, fun _ => rfl⟩
      rw [List.map_nil, List.append_nil] at hresult
      exact hresult
  | cons unit rest ih =>
      obtain ⟨⟨role, hrole, hid⟩, hrest⟩ := List.forall_mem_cons.mp hunits
      rw [List.map_cons, List.nodup_cons] at hnodup
      obtain ⟨hnotMem, hnodup⟩ := hnodup
      have hothers : ∀ other ∈ rest, other.role ≠ role.id := by
        intro other hother heq
        exact hnotMem (List.mem_map.mpr ⟨other, hother, heq.trans hrole.symm⟩)
      apply leads_bind
      apply h.goes_commitUnit hrole hid
      · intro e sc'
        have hresult := herror e [] sc' .broken
        rw [List.map_nil, List.append_nil] at hresult
        exact hresult
      · rintro c sc' rfl hhost hstatus h'
        have htail : Story.Goes ⟨sc', st.deeds ++ [.committed c]⟩
            (sequence (rest.map m.commitUnit)) (Onward outlook (fun _ => pure ()) Q) := by
          apply ih h' hrest hnodup
          · intro e cs sc'' hsealed
            have hresult := herror e (c :: cs) sc'' (.next hhost hstatus hsealed)
            rw [List.map_cons, List.append_cons] at hresult
            exact hresult
          · intro cs stock' sc'' hsealed h'' hrestocks
            have hresult := hok (c :: cs) stock' sc'' (.next hhost hstatus hsealed) h''
              (hrestocks.cons hrole hothers)
            rw [List.map_cons, List.append_cons] at hresult
            exact hresult
        rw [onward_ok]
        apply leads_bind
        apply htail.mono
        rintro (e | all) st' hq
        · exact hq
        · exact leads_pure hq

end Committing

end Manager

end JoinBench
