import JoinBench.Proofs.Lifecycle.Committing
import JoinBench.Proofs.World.Steps

/-!
# Launches that are dropped

Roles that are launched together make their requests in any order, and the first launch that fails
drops the calls for the other roles where they stand.  A role is marked as launching before its
host is asked, and gets another state only when the host has answered.  So behind a launch that
failed every role whose launch was answered with a unit runs that unit, every role whose launch
failed or was not begun is as it was, and a role whose call was dropped while it waited for its host
is left marked as launching.
-/

namespace JoinBench

open Host Program

namespace Manager

variable {τ : Type} {layer : Layer τ} {m : Manager} {role : Role}

/-- A launch under the name of the role was answered with the unit.  This says nothing about units
that a host starts without an answer. -/
def IsAnsweredWith (layer : Layer τ) (role : Role) (calls : List (Action × World τ))
    (unit : UnitHandle) : Prop :=
  ∃ host spec w, (Action.ask host (.launch spec), w) ∈ calls ∧ spec.name = role.id.text
    ∧ (World.handler layer (.ask host (.launch spec)) w).1 = some (.ok unit)

/-- The action is one of those that launch the role. -/
def IsLaunchOf (role : Role) : Action → Prop
  | .ask _ (.launch spec) => spec.name = role.id.text
  | .stateOf _ => True
  | .setState other _ => other = role
  | .log _ => True
  | _ => False

theorem makes_runRole (m : Manager) (role : Role) (command : String) (flags : UnitFlags) :
  (m.runRole role command flags).Makes (IsLaunchOf role)
  := by
  apply makes_bind
  · apply makes_ofExcept
  intro rendered
  apply makes_bind
  · apply makes_ofExcept
  intro host
  apply makes_bind
  · exact makes_perform trivial
  intro previous
  apply makes_check
  apply makes_bind
  · exact makes_perform rfl
  intro _
  apply makes_bind
  · exact makes_perform trivial
  intro _
  apply makes_bind
  · have hlaunch : IsLaunchOf role (.ask host
        (.launch (m.launchSpec role (command ++ " " ++ rendered)))) := rfl
    apply makes_attempt
    exact makes_ask hlaunch
  intro answer
  cases answer with
  | ok unit =>
      apply makes_bind
      · exact makes_perform trivial
      intro _
      apply makes_bind
      · exact makes_perform rfl
      intro _
      apply makes_pure
  | error e =>
      apply makes_bind
      · exact makes_perform rfl
      intro _
      apply makes_throw

/-! ### What a role has come to -/

/-- The state of a role, and the unit with which its launch was answered. -/
structure Is (layer : Layer τ) (role : Role) (state : UnitState) (unit? : Option UnitHandle)
    (s : List (Action × World τ) × World τ) : Prop where
  state_eq : s.2.states role = state
  isAnsweredWith_iff : ∀ unit, IsAnsweredWith layer role s.1 unit ↔ unit? = some unit

section Is

variable {state state' : UnitState} {unit? : Option UnitHandle} {action : Action}
  {s : List (Action × World τ) × World τ}

theorem isAnsweredWith_append_singleton {calls : List (Action × World τ)} {w : World τ}
    {unit : UnitHandle} :
  IsAnsweredWith layer role (calls ++ [(action, w)]) unit
    ↔ IsAnsweredWith layer role calls unit ∨ IsAnsweredWith layer role [(action, w)] unit
  := by
  constructor
  · rintro ⟨host, spec, w', hmem, h⟩
    obtain hmem | hmem := List.mem_append.mp hmem
    · exact .inl ⟨host, spec, w', hmem, h⟩
    · exact .inr ⟨host, spec, w', hmem, h⟩
  · rintro (⟨host, spec, w', hmem, h⟩ | ⟨host, spec, w', hmem, h⟩)
    · exact ⟨host, spec, w', List.mem_append_left _ hmem, h⟩
    · exact ⟨host, spec, w', List.mem_append_right _ hmem, h⟩

/-- An action that is answered with no unit for the role only counts for the state that it
leaves. -/
theorem Is.recording (h : Is layer role state unit? s)
    (hanswered : ∀ unit, ¬ IsAnsweredWith layer role [(action, s.2)] unit)
    (hstate : (World.handler layer action s.2).2.states role = state') :
  Is layer role state' unit? ((World.handler layer).recording action s).2
  where
    state_eq := hstate
    isAnsweredWith_iff := by
      intro unit
      simp only [Handler.recording, isAnsweredWith_append_singleton, hanswered, or_false]
      exact h.isAnsweredWith_iff unit

theorem not_isAnsweredWith_of_ne {w : World τ} {unit : UnitHandle}
    (h : ∀ host spec, action ≠ .ask host (.launch spec)) :
  ¬ IsAnsweredWith layer role [(action, w)] unit
  := by
  rintro ⟨host, spec, w', hmem, -⟩
  obtain ⟨rfl, -⟩ := Prod.mk.injEq _ _ _ _ ▸ List.mem_singleton.mp hmem
  exact h host spec rfl

/-- The launch of another role leaves a role alone. -/
theorem Is.of_other (h : Is layer role state unit? s) {other : Role} (hne : other ≠ role)
    (haction : IsLaunchOf other action) :
  Is layer role state unit? ((World.handler layer).recording action s).2
  := by
  apply h.recording
  · rintro unit ⟨host, spec, w, hmem, hname, -⟩
    obtain ⟨rfl, -⟩ := Prod.mk.injEq _ _ _ _ ▸ List.mem_singleton.mp hmem
    exact hne (Role.text_id_inj.mp (haction.symm.trans hname))
  · rw [← h.state_eq]
    cases action with
    | setState found state =>
        obtain rfl : found = other := haction
        exact if_neg hne.symm
    | ask | stateOf | log => rfl
    | forgetStates | pause | now | emit => cases haction

/-- A launch counts with the unit that the host answers with. -/
theorem Is.launch (h : Is layer role state none s) {host : HostId} {spec : LaunchSpec}
    (hname : spec.name = role.id.text) {r? : Option (Except Error UnitHandle)}
    (hanswer : (World.handler layer (.ask host (.launch spec)) s.2).1 = r?) :
  Is layer role state (r?.bind Except.toOption)
    ((World.handler layer).recording (.ask host (.launch spec)) s).2
  where
    state_eq := h.state_eq
    isAnsweredWith_iff := by
      intro unit
      have hnone : ¬ IsAnsweredWith layer role s.1 unit := by simp [h.isAnsweredWith_iff]
      simp only [Handler.recording, isAnsweredWith_append_singleton, hnone, false_or]
      constructor
      · rintro ⟨host', spec', w, hmem, -, hok⟩
        cases List.mem_singleton.mp hmem
        rw [← hanswer, hok]
        rfl
      · intro hunit
        refine ⟨host, spec, s.2, List.mem_singleton_self _, hname, ?_⟩
        rw [hanswer]
        obtain ⟨e | unit, rfl, hr⟩ := Option.bind_eq_some_iff.mp hunit
        · cases hr
        · cases hr
          rfl

end Is

/-! ### Launching one role amid others -/

/-- Such actions launch other roles. -/
def AreOthers (role : Role) (others : Action → Prop) : Prop :=
  ∀ action, others action → ∃ other, other ≠ role ∧ IsLaunchOf other action

/-- What the call that launches a role left, where it rests. -/
inductive Stands (layer : Layer τ) (role : Role) (before : UnitState)
    (s : List (Action × World τ) × World τ) : Job UnitHandle → Prop where
  | launched {unit : UnitHandle} (h : Is layer role (.running unit) (some unit) s) :
    Stands layer role before s (.done unit)
  | failed {e : Error} (h : Is layer role before none s) : Stands layer role before s (.fail e)
  | unbegun {left : Job UnitHandle} (h : Is layer role before none s) (hleft : ¬ left.IsOver) :
    Stands layer role before s left
  | waiting {left : Job UnitHandle} (h : Is layer role .launching none s)
    (hleft : left.Awaits Action.IsAwaited) : Stands layer role before s left

section Amid

variable {others : Action → Prop} {s s' : List (Action × World τ) × World τ}
  {before : UnitState} {command : String} {flags : UnitFlags} {left : Job UnitHandle}

theorem Is.of_others {state : UnitState} {unit? : Option UnitHandle}
    (h : Is layer role state unit? s) (hothers : AreOthers role others) {action : Action}
    (haction : others action) :
  Is layer role state unit? ((World.handler layer).recording action s).2
  := by
  obtain ⟨other, hne, hother⟩ := hothers action haction
  exact h.of_other hne hother

/-- Behind a result nothing is left but the result, and only the other roles go on. -/
theorem stepsAmid_result {state : UnitState} {unit? : Option UnitHandle}
    {r : Except Error UnitHandle} (hothers : AreOthers role others)
    (h : StepsAmid (World.handler layer).recording others (Program.ofExcept r) s left s')
    (hs : Is layer role state unit? s) :
  left = Program.ofExcept r ∧ Is layer role state unit? s'
  := by
  constructor
  · exact h.eq_of_isOver (isOver_iff.mpr ⟨r, rfl⟩)
  · exact h.keeps (P := fun _ => False) _ (makes_ofExcept r) (fun _ _ h => h.elim)
      (fun _ _ haction h => h.of_others hothers haction) hs

/-- An action that is answered at once and starts nothing leads from one state of the role to
another. -/
theorem stepsAmid_quiet (action : Action) (answer : action.Answer) (state' : UnitState)
    {state : UnitState} {unit? : Option UnitHandle} {f : action.Answer → Job UnitHandle}
    (h : StepsAmid (World.handler layer).recording others (Job.perform action >>= f) s left s')
    (hs : Is layer role state unit? s) (hothers : AreOthers role others)
    (haction : ¬ action.IsAwaited)
    (hanswer : ∀ w : World τ, w.states role = state →
      (World.handler layer action w).1 = some answer
        ∧ (World.handler layer action w).2.states role = state') :
  (left = (Job.perform action >>= f) ∧ Is layer role state unit? s')
    ∨ ∃ s₁, Is layer role state' unit? s₁
      ∧ StepsAmid (World.handler layer).recording others (f answer) s₁ left s'
  := by
  have hquiet : ∀ host spec, action ≠ .ask host (.launch spec) := by
    rintro host spec rfl
    exact haction trivial
  have hsteps := Job.stepsAmid_perform _ (fun x s => x = answer ∧ Is layer role state' unit? s)
    h hs ?_ ?_ ?_
  · obtain hleft | ⟨x, s₁, ⟨rfl, h₁⟩, h⟩ := hsteps
    · exact .inl hleft
    · exact .inr ⟨s₁, h₁, h⟩
  · intro other s₁ hother h₁
    exact h₁.of_others hothers hother
  · intro s₁ s₂ h₁ hnone
    have hunanswered : (World.handler layer action s₁.2).1 = none := congrArg Prod.fst hnone
    rw [(hanswer s₁.2 h₁.state_eq).1] at hunanswered
    cases hunanswered
  · intro s₁ x s₂ h₁ hsome
    have hanswered : (World.handler layer action s₁.2).1 = some x := congrArg Prod.fst hsome
    obtain rfl : ((World.handler layer).recording action s₁).2 = s₂ := congrArg Prod.snd hsome
    obtain ⟨hx, hstate⟩ := hanswer s₁.2 h₁.state_eq
    constructor
    · exact Option.some_inj.mp (hanswered.symm.trans hx)
    · exact h₁.recording (fun unit => not_isAnsweredWith_of_ne hquiet) hstate

/-- A call that rests, and not where it began, is past such an action. -/
theorem stepsAmid_past (action : Action) (answer : action.Answer) (state' : UnitState)
    {state : UnitState} {unit? : Option UnitHandle} {f : action.Answer → Job UnitHandle}
    {start : Job UnitHandle}
    (h : StepsAmid (World.handler layer).recording others (Job.perform action >>= f) s left s')
    (hs : Is layer role state unit? s) (hothers : AreOthers role others)
    (hrests : Rests Action.IsAwaited start left) (hstart : (Job.perform action >>= f) ≠ start)
    (haction : ¬ action.IsAwaited)
    (hanswer : ∀ w : World τ, w.states role = state →
      (World.handler layer action w).1 = some answer
        ∧ (World.handler layer action w).2.states role = state') :
  ∃ s₁, Is layer role state' unit? s₁
    ∧ StepsAmid (World.handler layer).recording others (f answer) s₁ left s'
  := by
  obtain ⟨rfl, -⟩ | hpast := stepsAmid_quiet action answer state' h hs hothers haction hanswer
  · obtain hbegin | hawaits | hover := hrests
    · exact (hstart hbegin).elim
    · exact (haction hawaits).elim
    · cases hover
  · exact hpast

/-- A launch waits for its host, which answers with a unit or an error. -/
theorem stepsAmid_launch {host : HostId} {spec : LaunchSpec}
    (h : StepsAmid (World.handler layer).recording others (Job.launch host spec) s left s')
    (hs : Is layer role .launching none s) (hothers : AreOthers role others)
    (hname : spec.name = role.id.text) :
  (left.Awaits Action.IsAwaited ∧ Is layer role .launching none s')
    ∨ ∃ r, left = Program.ofExcept r ∧ Is layer role .launching r.toOption s'
  := by
  have hsteps := Job.stepsAmid_perform _
    (fun (r : Except Error UnitHandle) s => Is layer role .launching r.toOption s)
    h hs (fun _ _ hother h => h.of_others hothers hother) ?_ ?_
  · obtain ⟨rfl, hs'⟩ | ⟨r, s₁, h₁, h⟩ := hsteps
    · exact .inl ⟨trivial, hs'⟩
    · exact .inr ⟨r, stepsAmid_result hothers h h₁⟩
  · intro s₁ s₂ h₁ hnone
    obtain rfl : ((World.handler layer).recording _ s₁).2 = s₂ := congrArg Prod.snd hnone
    have hanswer : (World.handler layer (.ask host (.launch spec)) s₁.2).1 = none :=
      congrArg Prod.fst hnone
    exact h₁.launch hname hanswer
  · intro s₁ r s₂ h₁ hsome
    obtain rfl : ((World.handler layer).recording _ s₁).2 = s₂ := congrArg Prod.snd hsome
    have hanswer : (World.handler layer (.ask host (.launch spec)) s₁.2).1 = some r :=
      congrArg Prod.fst hsome
    exact h₁.launch hname hanswer

/-- Where the call that launches a role rests amid those that launch others, the role has come to
something. -/
theorem stepsAmid_runRole (hothers : AreOthers role others) (hs : Is layer role before none s)
    (h : StepsAmid (World.handler layer).recording others (m.runRole role command flags) s left s')
    (hrests : Rests Action.IsAwaited (m.runRole role command flags) left) :
  Stands layer role before s' left
  := by
  rw [runRole] at h hrests
  cases hrendered : flags.render role.id with
  | error e =>
      rw [hrendered] at h
      obtain ⟨rfl, hs'⟩ := stepsAmid_result (r := .error e) hothers h hs
      exact .failed hs'
  | ok rendered =>
  cases hhost : m.hostFor role with
  | error e =>
      rw [hrendered, hhost] at h
      obtain ⟨rfl, hs'⟩ := stepsAmid_result (r := .error e) hothers h hs
      exact .failed hs'
  | ok host =>
  rw [hrendered, hhost] at h hrests
  obtain ⟨rfl, hs'⟩ | ⟨s₁, h₁, h⟩ := stepsAmid_quiet (.stateOf role) before before h hs hothers id
    fun w hw => ⟨congrArg some hw, hw⟩
  · exact .unbegun hs' id
  cases hlaunch : before.canLaunch with
  | false =>
      simp only [hlaunch] at h
      obtain ⟨rfl, hs'⟩ := stepsAmid_result (r := .error _) hothers h h₁
      exact .failed hs'
  | true =>
  simp only [hlaunch] at h
  obtain ⟨s₂, h₂, h⟩ := stepsAmid_past (.setState role .launching) () .launching h h₁ hothers hrests
    (by rintro ⟨⟩) id fun w hw => ⟨rfl, if_pos rfl⟩
  obtain ⟨s₃, h₃, h⟩ := stepsAmid_past (.log _) () .launching h h₂ hothers hrests
    (by rintro ⟨⟩) id fun w hw => ⟨rfl, hw⟩
  have hname : (m.launchSpec role (command ++ " " ++ rendered)).name = role.id.text := rfl
  obtain ⟨q, hq, rfl⟩ | ⟨answer, s₄, hanswer, h⟩ := stepsAmid_bind h
  · obtain ⟨p, hp, rfl⟩ := stepsAmid_attempt hq
    obtain ⟨hawaits, hs'⟩ | ⟨e | unit, rfl, -⟩ := stepsAmid_launch hp h₃ hothers hname
    · exact .waiting hs' (hawaits.attempt.bind _)
    -- behind an answer the call goes on to an action that does not wait
    · obtain hrests | hrests | hrests := hrests <;> cases hrests
    · obtain hrests | hrests | hrests := hrests <;> cases hrests
  · obtain ⟨p, hp, hdone⟩ := stepsAmid_attempt hanswer
    obtain rfl := eq_ofExcept_of_attempt_eq_done hdone.symm
    obtain ⟨hawaits, -⟩ | ⟨r, hr, h₄⟩ := stepsAmid_launch hp h₃ hothers hname
    · exact ((isOver_iff.mpr ⟨answer, rfl⟩).not_awaits hawaits).elim
    obtain rfl := ofExcept_inj.mp hr
    cases answer with
    | error e =>
        obtain ⟨s₅, h₅, h⟩ := stepsAmid_past (.setState role before) () before h h₄ hothers hrests
          (by rintro ⟨⟩) id fun w hw => ⟨rfl, if_pos rfl⟩
        obtain ⟨rfl, hs'⟩ := stepsAmid_result (r := .error e) hothers h h₅
        exact .failed hs'
    | ok unit =>
        obtain ⟨s₅, h₅, h⟩ := stepsAmid_past (.log _) () .launching h h₄ hothers hrests
          (by rintro ⟨⟩) id fun w hw => ⟨rfl, hw⟩
        obtain ⟨s₆, h₆, h⟩ := stepsAmid_past (.setState role (.running unit)) () (.running unit) h
          h₅ hothers hrests (by rintro ⟨⟩) id fun w hw => ⟨rfl, if_pos rfl⟩
        obtain ⟨rfl, hs'⟩ := stepsAmid_result (r := .ok unit) hothers h h₆
        exact .launched hs'

end Amid

/-! ### Launching several roles -/

section All

variable {roles : List Role} {command : String} {flags : UnitFlags} {w w' : World τ}
  {calls : List (Action × World τ)} {r : Except Error (List UnitHandle)}
  {left : Fin (roles.map fun role => m.runRole role command flags).length → Job UnitHandle}

/-- Launches of several roles come to a result at a moment at which each of the calls rests; those
that are not over are dropped there. -/
structure Returns (layer : Layer τ) (m : Manager) (command : String) (roles : List Role)
    (flags : UnitFlags) (w : World τ)
    (left : Fin (roles.map fun role => m.runRole role command flags).length → Job UnitHandle)
    (r : Except Error (List UnitHandle)) (calls : List (Action × World τ)) (w' : World τ) :
    Prop where
  steps : Steps (World.handler layer).recording (m.runAll command roles flags) ([], w)
    (.together _ left .ofExcept) (calls, w')
  rests : ∀ i, Rests Action.IsAwaited
    ((roles.map fun role => m.runRole role command flags).get i) (left i)
  settles : Settles left r

/-- Launches that are run and come to a result return it at such a moment. -/
theorem exists_returns_of_run
    (hrun : World.run layer (m.runAll command roles flags) w = (some r, w')) :
  ∃ left calls, Returns layer m command roles flags w left r calls w'
  := by
  have hplain : (m.runAll command roles flags).run (World.handler layer) w = (some r, w') := hrun
  have hrecord : (m.runAll command roles flags).run (World.handler layer).recording ([], w)
      = (some r, [] ++ (m.runAll command roles flags).calls (World.handler layer) w, w') := by
    rw [run_recording, hplain]
  have hanswers : ∀ (action : Action) (s : List (Action × World τ) × World τ),
      ¬ action.IsAwaited → ∃ x s', (World.handler layer).recording action s = (some x, s') := by
    rintro action ⟨calls, w₁⟩ haction
    obtain ⟨x, w₂, hanswer⟩ := World.exists_handler_of_not_isAwaited layer haction w₁
    exact ⟨x, (calls ++ [(action, w₁)], w₂), by simp only [Handler.recording, hanswer]⟩
  obtain ⟨left, hsteps, hrests, hsettles⟩ := exists_settles_of_run hanswers hrecord
  exact ⟨left, _, hsteps, hrests, hsettles⟩

/-- Each of the calls has come to something, whatever the others did. -/
theorem Returns.stands (h : Returns layer m command roles flags w left r calls w')
    (hnodup : roles.Nodup) {role : Role}
    {i : Fin (roles.map fun role => m.runRole role command flags).length}
    (hi : roles[(i : Nat)]? = some role) :
  Stands layer role (w.states role) (calls, w') (left i)
  := by
  have hget : ∀ {role : Role} (i : Fin (roles.map fun role => m.runRole role command flags).length),
      roles[(i : Nat)]? = some role →
        (roles.map fun role => m.runRole role command flags).get i
          = m.runRole role command flags := by
    intro role i hi
    obtain ⟨hlength, rfl⟩ := List.getElem?_eq_some_iff.mp hi
    simp
  have hmakes : ∀ i, ((roles.map fun role => m.runRole role command flags).get i).Makes
      fun action => ∃ role, roles[(i : Nat)]? = some role ∧ IsLaunchOf role action := by
    intro i
    have hlength : (i : Nat) < roles.length := by simpa using i.isLt
    have hrole := List.getElem?_eq_getElem hlength
    rw [hget i hrole]
    exact (makes_runRole m _ command flags).mono fun _ h => ⟨_, hrole, h⟩
  obtain ⟨left', s₁, hleft, ⟨heq, rfl⟩ | ⟨r', -, hover⟩⟩ := steps_together hmakes h.steps
  · cases heq
    have hjob := hleft i
    have hrests := h.rests i
    rw [hget i hi] at hjob hrests
    refine stepsAmid_runRole ?_ ⟨rfl, ?_⟩ hjob hrests
    · rintro action ⟨j, hne, other, hj, haction⟩
      refine ⟨other, ?_, haction⟩
      rintro rfl
      exact hne (Fin.ext ((List.getElem?_inj (by simpa using j.isLt) hnodup).mp (hj.trans hi.symm)))
    · intro unit
      simp [IsAnsweredWith]
  · have heq := hover.eq_of_isOver (isOver_iff.mpr ⟨r', rfl⟩)
    cases r' <;> cases heq

/-- The roles that were not to be launched are as they were. -/
theorem Returns.states_eq (h : Returns layer m command roles flags w left r calls w')
    {role : Role} (hrole : role ∉ roles) :
  w'.states role = w.states role
  := by
  have hmakes : (m.runAll command roles flags).Makes
      fun action => ∃ other, other ≠ role ∧ IsLaunchOf other action := by
    apply makes_all
    intro job hjob
    obtain ⟨other, hother, rfl⟩ := List.mem_map.mp hjob
    apply (makes_runRole m other command flags).mono
    exact fun _ haction => ⟨other, ne_of_mem_of_not_mem hother hrole, haction⟩
  have his : Is layer role (w.states role) none (calls, w') := by
    apply h.steps.keeps (Is layer role (w.states role) none) hmakes _
      (fun _ _ h => h.elim) ⟨rfl, ?_⟩
    · rintro action s ⟨other, hne, haction⟩ hs
      exact hs.of_other hne haction
    · intro unit
      simp [IsAnsweredWith]
  exact his.state_eq

/-- When launches of several roles come to a result, whatever the order of their requests, every
role whose launch was answered with a unit is running that unit.  A role whose launch failed or was
not begun is as it was, and only a role whose call is dropped while it waits for its host is left
launching.  Where all launches succeed all roles are running, and the other roles are never
touched. -/
theorem states_runAll (hnodup : roles.Nodup)
    (hlaunchable : ∀ role ∈ roles, (w.states role).canLaunch = true)
    (h : Returns layer m command roles flags w left r calls w') :
  (∀ role ∈ roles,
    (∃ unit, w'.states role = .running unit ∧ ∀ u, IsAnsweredWith layer role calls u ↔ u = unit)
    ∨ (w'.states role = w.states role ∧ w'.states role ≠ .launching
      ∧ ∀ u, ¬ IsAnsweredWith layer role calls u)
    ∨ (w'.states role = .launching ∧ (∀ u, ¬ IsAnsweredWith layer role calls u)
      ∧ ∃ i : Fin _, roles[(i : Nat)]? = some role ∧ (left i).Awaits Action.IsAwaited))
  ∧ (∀ role, role ∉ roles → w'.states role = w.states role)
  ∧ ∀ units, r = .ok units →
    List.Forall₂ (fun role unit => w'.states role = .running unit) roles units
  := by
  refine ⟨?_, fun role hrole => h.states_eq hrole, ?_⟩
  · intro role hrole
    obtain ⟨i, hlength, hget⟩ := List.getElem_of_mem hrole
    have hi := List.getElem?_eq_some_iff.mpr ⟨hlength, hget⟩
    have hstands := h.stands (i := ⟨i, by simpa using hlength⟩) hnodup hi
    have hnone : ∀ {state}, Is layer role state none (calls, w') →
        ∀ u, ¬ IsAnsweredWith layer role calls u := by
      intro state hstate u
      simp [hstate.isAnsweredWith_iff]
    have hkept : Is layer role (w.states role) none (calls, w') →
        w'.states role = w.states role ∧ w'.states role ≠ .launching
          ∧ ∀ u, ¬ IsAnsweredWith layer role calls u := by
      intro hstate
      refine ⟨hstate.state_eq, ?_, hnone hstate⟩
      rw [hstate.state_eq]
      intro hlaunching
      have := hlaunchable role hrole
      rw [hlaunching] at this
      cases this
    generalize hleft : left ⟨i, _⟩ = q at hstands
    cases hstands with
    | @launched unit hstate =>
        refine .inl ⟨unit, hstate.state_eq, fun u => ?_⟩
        rw [hstate.isAnsweredWith_iff, Option.some_inj, eq_comm]
    | failed hstate => exact .inr (.inl (hkept hstate))
    | unbegun hstate => exact .inr (.inl (hkept hstate))
    | waiting hstate hawaits =>
        exact .inr (.inr ⟨hstate.state_eq, hnone hstate, _, hi, hleft ▸ hawaits⟩)
  · rintro units rfl
    cases h.settles with
    | @finished values hvalues =>
        rw [List.forall₂_iff_get]
        refine ⟨by simp, ?_⟩
        intro i hlength hvalue
        have hi : roles[i]? = some (roles.get ⟨i, hlength⟩) :=
          List.getElem?_eq_getElem hlength
        have hstands := h.stands (i := ⟨i, by simpa using hlength⟩) hnodup hi
        rw [hvalues] at hstands
        cases hstands with
        | launched hstate =>
            rw [hstate.state_eq]
            simp
        | unbegun _ hleft => exact (hleft trivial).elim
        | waiting _ hleft => cases hleft

end All

/-- Lets the first launch on each host hang and the second one fail. -/
def stallThenFail : Guard where
  keeps := fun id request number =>
    match request with
    | .launch _ => if number = 1 then some none else some (some (.error (.connection id "lost")))
    | _ => none
  counts := []

/-- Surroundings in which all roles may be launched, behind that guard. -/
def stalling : World (Guard × Cluster) :=
  { World.start (stallThenFail, Session.loneHosts) [] with states := fun _ => .baseImage }

theorem states_runAll_stalling :
  ∃ left r calls w', Returns (Guard.layer Cluster.layer) Session.lone "serve"
      [.helper, .receiver] .none stalling left r calls w'
    ∧ ((∃ unit, w'.states .helper = .running unit
        ∧ ∀ u, IsAnsweredWith (Guard.layer Cluster.layer) .helper calls u ↔ u = unit)
      ∨ (w'.states .helper = .baseImage ∧ w'.states .helper ≠ .launching
        ∧ ∀ u, ¬ IsAnsweredWith (Guard.layer Cluster.layer) .helper calls u)
      ∨ (w'.states .helper = .launching
        ∧ (∀ u, ¬ IsAnsweredWith (Guard.layer Cluster.layer) .helper calls u)
        ∧ ∃ i : Fin _, [Role.helper, .receiver][(i : Nat)]? = some .helper
          ∧ (left i).Awaits Action.IsAwaited))
  := by
  have hsome : (World.run (Guard.layer Cluster.layer)
      (Session.lone.runAll "serve" [.helper, .receiver] .none) stalling).1.isSome = true := by
    decide +kernel
  obtain ⟨r, hr⟩ := Option.isSome_iff_exists.mp hsome
  obtain ⟨left, calls, hreturns⟩ := exists_returns_of_run (Prod.ext hr rfl)
  refine ⟨left, r, calls, _, hreturns, ?_⟩
  exact (states_runAll (by decide) (fun _ _ => rfl) hreturns).1 .helper (by decide)

/-- A launch that fails may leave another role launching. -/
theorem exists_runAll_launching :
  ∃ e w', World.run (Guard.layer Cluster.layer)
      (Session.lone.runAll "serve" [.helper, .receiver] .none) stalling = (some (.error e), w')
    ∧ w'.states .helper = .launching
  := by
  refine ⟨.connection .localhost "lost", _, Prod.ext ?_ rfl, ?_⟩
  · decide +kernel
  · decide +kernel

end Manager

end JoinBench
