import JoinBench.Docker.Connect
import JoinBench.Proofs.Host.Faithful
import JoinBench.Proofs.Program.Contract
import JoinBench.Proofs.Program.Ends

/-!
# Conversations with docker daemons

Whatever a daemon replies, an operation that fails does so with an error of its host, and a
container that was launched is a unit of its host.  Where the daemons of distinct hosts could all be
connected to, the fabric has exactly these hosts.
-/

namespace JoinBench.Docker

open Program Host

variable {α σ : Type} {host : HostId}

/-! ### Operations -/

/-- A conversation in which anything may be replied, and only certain errors come of it. -/
def openContract (fails : Error → Prop) : Contract Http.interface Error :=
  ⟨fun _ => True, fun _ _ => True, fails⟩

theorem isUpheld_openContract (fails : Error → Prop) (handle : Handler Http.interface σ) :
  (openContract fails).IsUpheld handle fun _ => True
  := ⟨fun _ _ _ _ => trivial, fun _ _ _ _ _ _ _ => trivial⟩

theorem Trouble.isFrom_error (host : HostId) (operation : Operation) (trouble : Trouble) :
  (trouble.error host operation).IsFrom host
  := by
  cases trouble <;> constructor

theorem honours_exchange {V : α → Prop} {operation : Operation} {request : Http.Request}
    {read : Except Trouble (List UInt8) → Except Trouble α}
    (h : ∀ body x, read body = .ok x → V x) :
  (exchange host operation request read).Honours (openContract (·.IsFrom host)) V
  := by
  refine ⟨trivial, fun reply _ => ?_⟩
  cases hread : read (bodyOf reply) with
  | ok x =>
      simp only [Program.bind, hread]
      exact h _ _ hread
  | error trouble =>
      simp only [Program.bind, hread]
      exact trouble.isFrom_error host operation

theorem honours_launch (spec : LaunchSpec) :
  (launch host spec).Honours (openContract (·.IsFrom host)) fun unit => unit.host = host
  := by
  have hexchange : ∀ {α : Type} {operation : Operation} {request : Http.Request}
      {read : Except Trouble (List UInt8) → Except Trouble α},
      (exchange host operation request read).Honours (openContract (·.IsFrom host))
        fun _ => True :=
    honours_exchange fun _ _ _ => trivial
  apply honours_bind hexchange
  intro unitId _
  apply honours_bind hexchange
  intro _ _
  split_ifs
  · exact honours_bind hexchange fun _ _ => rfl
  · exact honours_pure rfl

theorem honours_ask (r : Request) :
  (ask host r).Honours (openContract (·.IsFrom host)) (r.Yields host)
  := by
  cases r with
  | launch spec => exact honours_launch spec
  | list | wait | logs | follow | remove | tag | removeImage | commit =>
      rw [ask]
      exact honours_exchange fun _ _ _ => trivial

/-- Hosts that have a daemon each, as a layer. -/
def layers (handle : HostId → Handler Http.interface σ) : Layer σ :=
  fun id => layer (handle id) id

theorem isFaithful_layers (handle : HostId → Handler Http.interface σ) :
  (layers handle).IsFaithful
  := by
  intro id r s x s' h
  rw [layers, layer] at h
  split at h
  · rename_i result _ hrun
    cases h
    have hallows := allows_of_run (isUpheld_openContract _ (handle id)) hrun (honours_ask r) trivial
    cases result with
    | ok value => exact Request.isFaithful_ok r hallows
    | error e => exact Request.isFaithful_error r hallows
  · cases h

/-! ### Connecting -/

theorem honours_connect (reach : Reach) (host : HostId) :
  (connect reach host).Honours (openContract fun _ => True) fun _ => True
  := by
  rw [connect]
  split
  · trivial
  · refine ⟨trivial, fun reply _ => ?_⟩
    simp only [Program.bind]
    split <;> trivial

theorem not_contains_of_nodup {done rest : List HostId} (hnodup : (done ++ host :: rest).Nodup) :
  ¬ done.contains host = true
  := by
  rw [List.contains_iff_mem]
  intro hmem
  exact List.disjoint_of_nodup_append hnodup hmem List.mem_cons_self

/-- Where none of the hosts failed, each of them was connected to. -/
theorem honours_connectAll {reach : Reach} {done hosts : List HostId}
    (hnodup : (done ++ hosts).Nodup) :
  (connectAll reach done hosts).Honours (openContract fun _ => True)
    fun c => c.failure = none → c.hosts = done ++ hosts
  := by
  induction hosts generalizing done with
  | nil =>
      apply honours_pure
      intro _
      rw [List.append_nil]
  | cons host rest ih =>
      have hsplit : done ++ host :: rest = done ++ [host] ++ rest := List.append_cons done host rest
      rw [connectAll, if_neg (not_contains_of_nodup hnodup), hsplit]
      apply honours_bind (honours_attempt (honours_connect reach host))
      rintro (e | _) _
      · apply honours_pure
        rintro ⟨⟩
      · rw [hsplit] at hnodup
        exact ih hnodup

/-- The fabric of distinct hosts that could be connected to. -/
theorem fabric_connectAll {handle : Handler Http.interface σ} {reach : Reach} {hosts : List HostId}
    (hnodup : hosts.Nodup) {s s' : σ} {c : Connected} {fabric : Fabric}
    (hrun : Program.run handle (connectAll reach [] hosts) s = (some (.ok c), s'))
    (hfabric : c.fabric = .ok fabric) :
  fabric = .ofHosts hosts
  := by
  have hhosts := allows_of_run (isUpheld_openContract _ handle) hrun
    (honours_connectAll (show ([] ++ hosts).Nodup from hnodup)) trivial
  rw [Connected.fabric] at hfabric
  split at hfabric
  · next hnone =>
      cases hfabric
      rw [hhosts hnone, List.nil_append]
  · cases hfabric

section

variable {handle : Handler Http.interface σ} {reach : Reach} {done hosts : List HostId}

/-- Nothing keeps the hosts from being asked, and the servers always reply that they are there. -/
structure Reach.Admits (reach : Reach) (handle : Handler Http.interface σ) (hosts : List HostId) :
    Prop where
  obstacle?_eq : ∀ host ∈ hosts, reach.obstacle? host = none
  exists_reply : ∀ s, ∃ reply s' body,
    handle pingRequest s = (some reply, s') ∧ bodyOf reply = .ok body

theorem exists_run_connect (h : reach.Admits handle hosts) (hhost : host ∈ hosts) (s : σ) :
  ∃ s', Program.run handle (connect reach host) s = (some (.ok ()), s')
  := by
  obtain ⟨reply, s', body, hreply, hbody⟩ := h.exists_reply s
  use s'
  rw [connect, h.obstacle?_eq host hhost]
  simp only [Http.send, Bind.bind, Program.bind, Program.run, hreply, hbody]
  rfl

/-- Hosts that can all be asked and that all reply are all connected to. -/
theorem exists_run_connectAll (h : reach.Admits handle hosts) (hnodup : (done ++ hosts).Nodup)
    (s : σ) :
  ∃ s', Program.run handle (connectAll reach done hosts) s = (some (.ok ⟨done ++ hosts, none⟩), s')
  := by
  induction hosts generalizing done s with
  | nil =>
      rw [List.append_nil]
      exact ⟨s, rfl⟩
  | cons host rest ih =>
      have hnew := not_contains_of_nodup hnodup
      have hrest : reach.Admits handle rest :=
        ⟨fun other hother => h.obstacle?_eq other (List.mem_cons_of_mem _ hother), h.exists_reply⟩
      rw [List.append_cons] at hnodup ⊢
      obtain ⟨s₁, hconnect⟩ := exists_run_connect h List.mem_cons_self s
      obtain ⟨s', hrun⟩ := ih hrest hnodup s₁
      use s'
      rw [connectAll, if_neg hnew]
      refine (run_bind (connect reach host).attempt _ s).trans ?_
      rw [run_attempt, hconnect]
      exact hrun

end

end JoinBench.Docker
