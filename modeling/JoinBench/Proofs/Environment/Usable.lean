import JoinBench.Proofs.Docker.Conversation
import JoinBench.Proofs.Environment
import JoinBench.Proofs.Lifecycle.Hosted
import JoinBench.Proofs.UnitFlags.Arguments

/-!
# Environments that can be used

The hosts of a checked environment stand in ascending order, each once, and are those that its
settings name.  A fabric of these hosts has the host of every role, for however many sources, so no
operation of a manager misses a host.  Where one of them is remote there are certificate files, so
that all hosts can be connected to, and the address of the helper is the one that the settings give.
-/

namespace JoinBench

open Host

namespace Environment

variable {env : Environment} {s : Settings}

/-! ### All hosts -/

theorem pairwise_allHosts (env : Environment) :
  (env.allHosts.map HostId.text).Pairwise (· < ·)
  := by
  have htexts : env.allHosts.map HostId.text = sortedDistinct
      ((env.sourceHosts ++ [env.helperHost, env.receiverHost]).map HostId.text) := by
    rw [allHosts, List.map_map]
    exact List.map_id _
  rw [htexts]
  exact pairwise_sortedDistinct _

theorem nodup_allHosts (env : Environment) :
  env.allHosts.Nodup
  := by
  apply List.Nodup.of_map HostId.text
  apply env.pairwise_allHosts.imp
  rintro text _ hlt rfl
  exact String.lt_irrefl text hlt

/-- A fabric of all hosts has them in the same order. -/
theorem hosts_ofHosts_allHosts (env : Environment) :
  (Fabric.ofHosts env.allHosts).hosts = env.allHosts
  := by
  rw [Fabric.ofHosts, sortedDistinct_eq_self env.pairwise_allHosts, List.map_map]
  exact List.map_id _

theorem Follows.mem_allHosts_iff (h : env.Follows s) (id : HostId) :
  id ∈ env.allHosts ↔ id.text ∈ s.sourceHosts ∨ id.text = s.helperHost ∨ id.text = s.receiverHost
  := by
  obtain ⟨text⟩ := id
  rw [mem_allHosts, h.sourceHosts_eq, h.helperHost_eq, h.receiverHost_eq]
  simp

/-- There are certificate files as soon as a host is not the local one. -/
theorem Follows.isSome_tls (h : env.Follows s) {id : HostId} (hid : id ∈ env.allHosts)
    (hremote : id ≠ .localhost) :
  env.tls.isSome = true
  := by
  have hneeds : (namedHosts s).any (· ≠ HostId.localhost.text) = true := by
    have hname : id.text ∈ namedHosts s := by
      simpa [namedHosts] using (h.mem_allHosts_iff id).mp hid
    have htext : id.text ≠ HostId.localhost.text := fun heq => hremote (congrArg HostId.mk heq)
    exact List.any_eq_true.mpr ⟨id.text, hname, by simpa using htext⟩
  rw [h.tls_eq, if_pos hneeds]
  cases s.tls <;> rfl

/-- With a socket and usable certificate files every host can be asked. -/
theorem Follows.obstacle?_eq_none (h : env.Follows s) {id : HostId} (hid : id ∈ env.allHosts) :
  Docker.Reach.obstacle? ⟨none, env.tls.map (⟨·, none⟩)⟩ id = none
  := by
  rw [Docker.Reach.obstacle?]
  by_cases hlocal : id = .localhost
  · rw [if_pos hlocal]
    rfl
  · obtain ⟨files, hfiles⟩ := Option.isSome_iff_exists.mp (h.isSome_tls hid hlocal)
    rw [if_neg hlocal, hfiles]
    rfl

/-! ### The address of the helper -/

theorem Follows.helperAddress_cases (h : env.Follows s) :
  (∃ text, s.helperAddress = some text ∧ HelperAddress.parse text = .ok env.helperAddress)
    ∨ s.helperAddress = none ∧ env.helperAddress = ⟨s.helperHost, s.helperPort⟩
  := by
  have hparse := h.parse_helperAddress
  cases haddress : s.helperAddress with
  | some text =>
      rw [haddress] at hparse
      exact .inl ⟨text, rfl, hparse⟩
  | none =>
      rw [haddress] at hparse
      exact .inr ⟨rfl, HelperAddress.eq_of_parse_display hparse⟩

theorem Follows.hasBlank_helperAddress (h : env.Follows s) :
  Text.hasBlank env.helperAddress.display = false
  := by
  have hhost := (HelperAddress.host_of_parse h.parse_helperAddress).2
  exact UnitFlags.hasBlank_eq_false_iff.mpr (UnitFlags.isOf_display hhost).2

/-! ### Every experiment -/

/-- Each role of an experiment has a host of the environment. -/
theorem exists_hostOf_mem_allHosts {t : Topology} {parties : Nat}
    (h : t.Places parties env.sourceHosts env.helperHost env.receiverHost) {role : Role}
    (hrole : role ∈ t.roles) :
  ∃ id ∈ env.allHosts, t.hostOf role = .ok id
  := by
  obtain ⟨i, hi, rfl⟩ | rfl | rfl := (h.mem_roles_iff role).mp hrole
  · obtain ⟨host, hget, hhost⟩ := h.hostOf_source i hi
    exact ⟨host, mem_allHosts.mpr (List.mem_append_left _ (List.mem_of_getElem? hget)), hhost⟩
  · exact ⟨env.helperHost, mem_allHosts.mpr (by simp), h.hostOf_helper⟩
  · exact ⟨env.receiverHost, mem_allHosts.mpr (by simp), h.hostOf_receiver⟩

/-- An environment on which every experiment finds its hosts. -/
structure IsUsable (env : Environment) (s : Settings) : Prop where
  pairwise_allHosts : (env.allHosts.map HostId.text).Pairwise (· < ·)
  mem_allHosts_iff : ∀ id, id ∈ env.allHosts
    ↔ id.text ∈ s.sourceHosts ∨ id.text = s.helperHost ∨ id.text = s.receiverHost
  isSome_tls : ∀ id ∈ env.allHosts, id ≠ .localhost → env.tls.isSome = true
  helperAddress_cases :
    (∃ text, s.helperAddress = some text ∧ HelperAddress.parse text = .ok env.helperAddress)
      ∨ s.helperAddress = none ∧ env.helperAddress = ⟨s.helperHost, s.helperPort⟩
  hasBlank_helperAddress : Text.hasBlank env.helperAddress.display = false
  /-- Connecting to all hosts leads to a fabric of them. -/
  hosts_of_connectAll : ∀ {σ : Type} (handle : Handler Http.interface σ) (reach : Docker.Reach)
    (servers servers' : σ) (c : Docker.Connected) (fabric : Fabric),
    Program.run handle (Docker.connectAll reach [] env.allHosts) servers
        = (some (.ok c), servers') →
      c.fabric = .ok fabric → fabric.hosts = env.allHosts
  /-- With a socket and usable certificate files every host can be asked. -/
  obstacle?_eq_none : ∀ id ∈ env.allHosts,
    Docker.Reach.obstacle? ⟨none, env.tls.map (⟨·, none⟩)⟩ id = none
  /-- Where all hosts can be asked and reply, they are all connected to. -/
  exists_run_connectAll : ∀ {σ : Type} (handle : Handler Http.interface σ) (reach : Docker.Reach),
    reach.Admits handle env.allHosts → ∀ servers, ∃ servers',
      Program.run handle (Docker.connectAll reach [] env.allHosts) servers
        = (some (.ok ⟨env.allHosts, none⟩), servers')
  hosts_ofHosts : (Fabric.ofHosts env.allHosts).hosts = env.allHosts
  resolves : ∀ parties, 1 ≤ parties → ∃ t,
    Topology.resolve parties env.sourceHosts env.helperHost env.receiverHost = .ok t
      ∧ (∀ role ∈ t.roles, ∃ id ∈ env.allHosts, t.hostOf role = .ok id)
      ∧ ∀ m : Manager, m.topology = t → m.fabric.hosts = env.allHosts →
        (∀ role, m.hostFor role = t.hostOf role)
          ∧ m.NeverMisses Cluster.layer
          ∧ ∀ {σ : Type} (handle : HostId → Handler Http.interface σ),
            m.NeverMisses (Docker.layers handle)

/-- Every experiment finds its hosts on an environment whose settings were accepted. -/
theorem isUsable_ofSettings (h : ofSettings s = .ok env) :
  env.IsUsable s
  := by
  have hfollows := follows_of_ofSettings h
  have hsources := sourceHosts_ne_nil h
  constructor
  · exact env.pairwise_allHosts
  · exact hfollows.mem_allHosts_iff
  · intro id
    exact hfollows.isSome_tls
  · exact hfollows.helperAddress_cases
  · exact hfollows.hasBlank_helperAddress
  · intro σ handle reach servers servers' c fabric hrun hfabric
    rw [Docker.fabric_connectAll env.nodup_allHosts hrun hfabric, hosts_ofHosts_allHosts]
  · intro id
    exact hfollows.obstacle?_eq_none
  · intro σ handle reach hadmits servers
    exact Docker.exists_run_connectAll hadmits env.nodup_allHosts servers
  · exact env.hosts_ofHosts_allHosts
  · intro parties hparties
    have hplaces := Topology.places_resolved hsources parties env.helperHost env.receiverHost
    refine ⟨_, Topology.resolve_eq_ok hparties hsources,
      fun role => exists_hostOf_mem_allHosts hplaces, ?_⟩
    intro m htopology hfabric
    have hhosted : m.IsHosted := by
      rw [Manager.IsHosted, htopology, hfabric]
      exact fun role => exists_hostOf_mem_allHosts hplaces
    refine ⟨?_, hhosted.neverMisses Cluster.isFaithful_layer,
      fun handle => hhosted.neverMisses (Docker.isFaithful_layers handle)⟩
    rw [← htopology]
    exact hhosted.hostFor_eq

/-- Remote hosts, of which one is named twice and one has colons in its name. -/
def remote : Settings where
  sourceHosts := ["b", "a", "b"]
  helperHost := "fd00::2"
  receiverHost := "a"

/-- Servers that reply to every request. -/
def replying : Handler Http.interface Unit :=
  fun _ s => (some (.response 200 []), s)

/-- All daemons reply, and the certificate files can be used. -/
theorem isUsable_ofSettings_remote :
  ∃ env, ofSettings remote = .ok env ∧ env.IsUsable remote
    ∧ env.allHosts = [⟨"a"⟩, ⟨"b"⟩, ⟨"fd00::2"⟩] ∧ env.tls = some {}
    ∧ env.helperAddress = ⟨"fd00::2", 40000⟩
    ∧ ∃ c fabric, Program.run replying
        (Docker.connectAll ⟨none, env.tls.map (⟨·, none⟩)⟩ [] env.allHosts) () = (some (.ok c), ())
      ∧ c.fabric = .ok fabric ∧ fabric.hosts = [⟨"a"⟩, ⟨"b"⟩, ⟨"fd00::2"⟩]
  := by
  obtain ⟨env, henv, hhosts, htls, haddress⟩ : ∃ env, ofSettings remote = .ok env
      ∧ env.allHosts = [⟨"a"⟩, ⟨"b"⟩, ⟨"fd00::2"⟩] ∧ env.tls = some {}
      ∧ env.helperAddress = ⟨"fd00::2", 40000⟩ := by
    refine ⟨_, rfl, ?_, rfl, rfl⟩
    decide
  have husable := isUsable_ofSettings henv
  refine ⟨env, henv, husable, hhosts, htls, haddress, ?_⟩
  have hadmits : Docker.Reach.Admits ⟨none, env.tls.map (⟨·, none⟩)⟩ replying env.allHosts :=
    ⟨husable.obstacle?_eq_none, fun s => ⟨.response 200 [], s, [], rfl, rfl⟩⟩
  obtain ⟨⟨⟩, hrun⟩ := husable.exists_run_connectAll replying _ hadmits ()
  refine ⟨_, _, hrun, rfl, ?_⟩
  rw [← hhosts]
  exact husable.hosts_of_connectAll _ _ _ _ _ _ hrun rfl

end Environment

end JoinBench
