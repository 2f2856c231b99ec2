import JoinBench.Proofs.Benchmark.Verdict
import JoinBench.Proofs.Outcome

/-!
# Checked environments

Settings that pass the checks name a host for the sources, and the hosts of an environment are
those that its settings name.
-/

namespace JoinBench

theorem mem_insertName {name other : String} {names : List String} :
  other ∈ insertName name names ↔ other = name ∨ other ∈ names
  := by
  induction names with
  | nil => simp [insertName]
  | cons first rest ih =>
      rw [insertName]
      split_ifs with hlt heq
      · rw [List.mem_cons]
      · subst heq
        simp
      · rw [List.mem_cons, ih, List.mem_cons]
        exact or_left_comm

theorem mem_sortedDistinct {name : String} {names : List String} :
  name ∈ sortedDistinct names ↔ name ∈ names
  := by
  induction names with
  | nil => rfl
  | cons first rest ih =>
      have hcons : sortedDistinct (first :: rest) = insertName first (sortedDistinct rest) := rfl
      rw [hcons, mem_insertName, ih, List.mem_cons]

theorem pairwise_insertName {names : List String} (h : names.Pairwise (· < ·)) (name : String) :
  (insertName name names).Pairwise (· < ·)
  := by
  induction names with
  | nil => exact List.pairwise_singleton _ _
  | cons first rest ih =>
      obtain ⟨hfirst, hrest⟩ := List.pairwise_cons.mp h
      rw [insertName]
      split_ifs with hlt heq
      · refine List.pairwise_cons.mpr ⟨?_, h⟩
        rw [List.forall_mem_cons]
        exact ⟨hlt, fun other hother => String.lt_trans hlt (hfirst other hother)⟩
      · exact h
      · refine List.pairwise_cons.mpr ⟨?_, ih hrest⟩
        intro other hother
        obtain rfl | hother := mem_insertName.mp hother
        · exact Std.lt_of_le_of_ne hlt (Ne.symm heq)
        · exact hfirst other hother

theorem pairwise_sortedDistinct (names : List String) :
  (sortedDistinct names).Pairwise (· < ·)
  := by
  induction names with
  | nil => exact .nil
  | cons first rest ih => exact pairwise_insertName ih first

/-- Names that are in ascending order stay as they are. -/
theorem sortedDistinct_eq_self {names : List String} (h : names.Pairwise (· < ·)) :
  sortedDistinct names = names
  := by
  induction names with
  | nil => rfl
  | cons first rest ih =>
      obtain ⟨hfirst, hrest⟩ := List.pairwise_cons.mp h
      have hcons : sortedDistinct (first :: rest) = insertName first (sortedDistinct rest) := rfl
      rw [hcons, ih hrest]
      cases rest with
      | nil => rfl
      | cons next _ => rw [insertName, if_pos (hfirst next List.mem_cons_self)]

namespace Environment

variable {env : Environment} {s : Settings}

theorem mem_allHosts {id : HostId} :
  id ∈ env.allHosts ↔ id ∈ env.sourceHosts ++ [env.helperHost, env.receiverHost]
  := by
  rw [allHosts, List.mem_map]
  simp only [mem_sortedDistinct]
  constructor
  · rintro ⟨name, hname, rfl⟩
    obtain ⟨host, hhost, rfl⟩ := List.mem_map.mp hname
    exact hhost
  · intro hid
    exact ⟨id.text, List.mem_map.mpr ⟨id, hid, rfl⟩, rfl⟩

/-- What an environment takes over from its settings where it runs the roles and reaches them. -/
structure Follows (env : Environment) (s : Settings) : Prop where
  ne_nil : s.sourceHosts ≠ []
  sourceHosts_eq : env.sourceHosts = s.sourceHosts.map HostId.mk
  helperHost_eq : env.helperHost = ⟨s.helperHost⟩
  receiverHost_eq : env.receiverHost = ⟨s.receiverHost⟩
  parse_helperAddress :
    HelperAddress.parse (s.helperAddress.getD (s.helperHost ++ ":" ++ s.helperPort.repr))
      = .ok env.helperAddress
  tls_eq : env.tls
    = s.tls.or (if (namedHosts s).any (· ≠ HostId.localhost.text) then some {} else none)

theorem follows_of_ofSettings (h : ofSettings s = .ok env) :
  env.Follows s
  := by
  rw [ofSettings] at h
  obtain ⟨hempty, h⟩ := check_eq_ok.mp h
  obtain ⟨-, h⟩ := check_eq_ok.mp h
  obtain ⟨-, h⟩ := check_eq_ok.mp h
  obtain ⟨-, h⟩ := check_eq_ok.mp h
  have hne : s.sourceHosts ≠ [] := by simpa using hempty
  split at h
  · next haddress =>
      obtain ⟨address, hparse, h⟩ := bind_eq_ok.mp h
      cases h
      refine ⟨hne, rfl, rfl, rfl, ?_, rfl⟩
      rw [haddress]
      exact hparse
  · next haddress =>
      obtain ⟨address, hparse, h⟩ := bind_eq_ok.mp h
      cases h
      refine ⟨hne, rfl, rfl, rfl, ?_, rfl⟩
      rw [haddress]
      exact hparse

/-- There is a host for the sources in every checked environment. -/
theorem sourceHosts_ne_nil (h : ofSettings s = .ok env) :
  env.sourceHosts ≠ []
  := by
  have hfollows := follows_of_ofSettings h
  rw [hfollows.sourceHosts_eq, Ne, List.map_eq_nil_iff]
  exact hfollows.ne_nil

/-- A role runs on one of the hosts of the environment. -/
theorem hostOf_mem_allHosts (h : env.sourceHosts ≠ []) (role : Role) :
  env.hostOf role ∈ env.allHosts
  := by
  rw [mem_allHosts, List.mem_append]
  cases role with
  | source i =>
      have hlt := Nat.mod_lt i (List.length_pos_iff.mpr h)
      apply Or.inl
      rw [hostOf, List.getElem?_eq_getElem hlt, Option.getD_some]
      apply List.getElem_mem
  | helper => exact .inr List.mem_cons_self
  | receiver => exact .inr (List.mem_cons_of_mem _ List.mem_cons_self)

/-! ### The usual environment -/

/-- The environment of a single-machine setup. -/
def usual : Environment where
  sourceHosts := [.localhost]
  helperHost := .localhost
  receiverHost := .localhost
  helperAddress := ⟨"localhost", 40000⟩
  tls := none
  nCpuPerSource := 4
  image := {}
  containerLabel := "mppj-exp"
  unitShell := ["sh", "-c"]
  commands := {}
  cleanupDelayMs := 1000
  helperStartupDelayMs := 3000
  grids := []

/-- Settings that leave everything open are those of the usual environment. -/
theorem ofSettings_usual :
  ofSettings {} = .ok usual
  := rfl

/-- The usual base tag is told apart from the names of roles by its first letter. -/
theorem isApart_usual :
  usual.image.IsApart
  := by
  intro role
  have hhead := role.head?_id
  constructor
  · intro h
    rw [← h] at hhead
    cases role <;> simp [usual] at hhead
  · intro h
    have hstale : role.staleTag.toList.head? = role.id.text.toList.head? := by
      rw [Role.staleTag, String.toList_append, List.head?_append, hhead, Option.some_or]
    rw [← h, hhead] at hstale
    cases role <;> simp [usual] at hstale

end Environment

end JoinBench
