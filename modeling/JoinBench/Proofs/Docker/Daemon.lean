import JoinBench.Docker.Daemon
import JoinBench.Proofs.Lifecycle.Attempts

/-!
# Launching behind a docker daemon

A launch makes two requests: one creates a container under the name of the unit, the other starts
it.  A daemon that keeps its names apart has the container from the first on, so a launch that fails
at the second leaves it behind, and with its name taken no further launch succeeds.
-/

namespace JoinBench.Docker

open Http (Reply)

variable {δ : Type}

/-! ### Replies to a request to create a container -/

/-- The container that a reply tells of. -/
def createdBy (reply : Reply) : Except Trouble String :=
  (bodyOf reply).bind (readBody readCreated)

/-- A reply with the status of an error tells of no container. -/
theorem createdBy_ne_ok {status : Nat} (h : 400 ≤ status) (body : List UInt8) (unitId : String) :
  createdBy (.response status body) ≠ .ok unitId
  := by
  have hbodiless : isBodiless status = false := by
    simp [isBodiless]
    omega
  have hsuccess : isSuccess status = false := by
    simp [isSuccess]
    omega
  rw [createdBy, bodyOf, hbodiless, hsuccess]
  split
  · simp [Except.bind]
  · simp only [Bool.false_eq_true, if_false]
    cases refusalReason body <;> simp [Except.bind]

/-! ### Runs -/

section Runs

variable {α : Type} {handle : Handler Http.interface δ} {s s' : δ} {id : HostId}
  {spec : LaunchSpec} {e : Error}

theorem run_exchange (handle : Handler Http.interface δ) (s : δ) (id : HostId)
    (operation : Operation) (request : Http.Request)
    (read : Except Trouble (List UInt8) → Except Trouble α) :
  Program.run handle (exchange id operation request read) s
    = ((handle request s).1.map fun reply =>
        (read (bodyOf reply)).mapError (Trouble.error id operation), (handle request s).2)
  := by
  simp only [exchange, Http.send, bind, Program.bind, Program.run]
  generalize handle request s = answer
  obtain ⟨reply?, s'⟩ := answer
  cases reply? with
  | none => rfl
  | some reply =>
      simp only [Option.map_some]
      cases read (bodyOf reply) <;> rfl

/-- The two requests of a launch that does not wait for the exit. -/
theorem run_launch (h : spec.detach = true) :
  Program.run handle (launch id spec) s
    = match handle (createRequest spec) s with
      | (none, s) => (none, s)
      | (some reply, s) =>
        match createdBy reply with
        | .error trouble => (some (.error (trouble.error id .create)), s)
        | .ok unitId =>
          ((handle (startRequest unitId) s).1.map fun reply =>
            ((bodyOf reply).map fun _ => ⟨id, unitId, ⟨spec.name⟩⟩).mapError
              (Trouble.error id .start), (handle (startRequest unitId) s).2)
  := by
  have hcreate := run_exchange handle s id .create (createRequest spec)
    (fun body => body.bind (readBody readCreated))
  simp only [launch, bind, pure, h, Bool.not_true, Bool.false_eq_true, if_false]
  rw [Program.run_bind, hcreate]
  cases handle (createRequest spec) s with
  | mk reply? s' =>
      cases reply? with
      | none => rfl
      | some reply =>
          simp only [Option.map_some]
          rw [← createdBy]
          cases createdBy reply with
          | error trouble => rfl
          | ok unitId =>
              have hstart := run_exchange handle s' id .start (startRequest unitId) ignoreBody
              simp only [Except.mapError]
              rw [Program.run_bind, hstart]
              cases handle (startRequest unitId) s' with
              | mk reply? s'' =>
                  cases reply? with
                  | none => rfl
                  | some reply =>
                      simp only [Option.map_some, ignoreBody]
                      cases bodyOf reply <;> rfl

/-- A launch that fails either got no container, or got one that was to be started. -/
theorem of_run_launch_eq_error (hdetach : spec.detach = true)
    (h : Program.run handle (launch id spec) s = (some (.error e), s')) :
  (∃ reply, handle (createRequest spec) s = (some reply, s')
      ∧ ∀ unitId, createdBy reply ≠ .ok unitId)
    ∨ ∃ reply unitId created, handle (createRequest spec) s = (some reply, created)
      ∧ createdBy reply = .ok unitId ∧ s' = (handle (startRequest unitId) created).2
  := by
  rw [run_launch hdetach] at h
  cases hcreate : handle (createRequest spec) s with
  | mk reply? created =>
      rw [hcreate] at h
      cases reply? with
      | none => cases h
      | some reply =>
          simp only at h
          cases hread : createdBy reply with
          | error trouble =>
              rw [hread] at h
              cases h
              refine .inl ⟨reply, rfl, ?_⟩
              rw [hread]
              rintro unitId ⟨⟩
          | ok unitId =>
              rw [hread] at h
              exact .inr ⟨reply, unitId, created, rfl, hread, (Prod.mk.inj h).2.symm⟩

end Runs

/-- A launch that succeeds gets a container, which is started. -/
def Launches (handle : Handler Http.interface δ) (spec : LaunchSpec) (s : δ) : Prop :=
  ∃ reply unitId created started body, handle (createRequest spec) s = (some reply, created)
    ∧ createdBy reply = .ok unitId
    ∧ (handle (startRequest unitId) created).1 = some started ∧ bodyOf started = .ok body

theorem exists_run_launch_eq_ok_iff {handle : Handler Http.interface δ} {spec : LaunchSpec} {s : δ}
    (hdetach : spec.detach = true) (id : HostId) :
  (∃ unit s', Program.run handle (launch id spec) s = (some (.ok unit), s'))
    ↔ Launches handle spec s
  := by
  rw [run_launch hdetach, Launches]
  cases hcreate : handle (createRequest spec) s with
  | mk reply? created =>
      cases reply? with
      | none => simp
      | some reply =>
          cases hread : createdBy reply with
          | error trouble => simp [hread]
          | ok unitId =>
              cases hstart : (handle (startRequest unitId) created).1 with
              | none => simp [hread, hstart]
              | some started =>
                  cases hbody : bodyOf started with
                  | error trouble => simp [hread, hstart, hbody, Except.map, Except.mapError]
                  | ok body => simp [hread, hstart, hbody, Except.map, Except.mapError]

/-! ### Daemons that keep their names apart -/

/-- A name that was free is taken. -/
def Takes (name : String) (before after : Set String) : Prop :=
  name ∉ before ∧ after = insert name before

/-- A daemon as far as launches are concerned: every container has a name of its own, which it has
from its creation on, whether it runs or not. -/
structure Daemon (δ : Type) where
  handle : Handler Http.interface δ
  /-- The names of its containers. -/
  names : δ → Set String
  /-- The images behind its tags. -/
  images : δ → ImageRef → Option String
  names_create : ∀ spec s, names (handle (createRequest spec) s).2 = names s
    ∨ Takes spec.name (names s) (names (handle (createRequest spec) s).2)
  images_create : ∀ spec s, images (handle (createRequest spec) s).2 = images s
  /-- A container that the daemon tells of was created. -/
  takes_of_createdBy : ∀ {spec s reply created unitId},
    handle (createRequest spec) s = (some reply, created) → createdBy reply = .ok unitId →
      Takes spec.name (names s) (names created)
  /-- A request for a container that is refused has no effect. -/
  names_of_refused : ∀ {spec s status body refused},
    handle (createRequest spec) s = (some (.response status body), refused) → 400 ≤ status →
      names refused = names s
  /-- Starting a container that the daemon has told of changes neither names nor images. -/
  start : ∀ {spec s reply created unitId},
    handle (createRequest spec) s = (some reply, created) → createdBy reply = .ok unitId →
      names (handle (startRequest unitId) created).2 = names created
        ∧ images (handle (startRequest unitId) created).2 = images created

namespace Daemon

variable {d : Daemon δ} {hosts hosts' : HostId → δ} {id : HostId} {spec : LaunchSpec} {e : Error}

/-- Hosts that have a daemon each, as a layer. -/
def layer (d : Daemon δ) : Host.Layer (HostId → δ) := fun id request hosts =>
  let (x, s) := Docker.layer d.handle id request (hosts id)
  (x, Function.update hosts id s)

/-- The names and the images of all hosts. -/
def shelves (d : Daemon δ) (hosts : HostId → δ) : Shelves String :=
  ⟨fun id => d.names (hosts id), fun id => d.images (hosts id)⟩

/-- A name that was free on a host is taken, and nothing else has changed. -/
def LeavesBehind (d : Daemon δ) (id : HostId) (name : String) (hosts hosts' : HostId → δ) : Prop :=
  name ∉ d.names (hosts id) ∧ d.shelves hosts' = (d.shelves hosts).add id name

/-- The container of a launch is created. -/
def Creates (d : Daemon δ) (spec : LaunchSpec) (s : δ) : Prop :=
  ∃ reply unitId, (d.handle (createRequest spec) s).1 = some reply ∧ createdBy reply = .ok unitId

/-- The container of a launch is refused. -/
def Refuses (d : Daemon δ) (spec : LaunchSpec) (s : δ) : Prop :=
  ∃ status body, 400 ≤ status
    ∧ (d.handle (createRequest spec) s).1 = some (.response status body)

theorem layer_launch {x : Option (Except Error UnitHandle)} {s : δ}
    (h : Program.run d.handle (launch id spec) (hosts id) = (x, s)) :
  d.layer id (.launch spec) hosts = (x, Function.update hosts id s)
  := by
  simp only [layer, Docker.layer, ask, h]
  cases x <;> rfl

theorem shelves_update (s : δ) :
  d.shelves (Function.update hosts id s)
    = ⟨Function.update (d.shelves hosts).names id (d.names s),
      Function.update (d.shelves hosts).images id (d.images s)⟩
  := by
  rw [shelves, Shelves.mk.injEq]
  constructor
  · funext other
    exact Function.apply_update (fun _ => d.names) hosts id s other
  · funext other
    exact Function.apply_update (fun _ => d.images) hosts id s other

theorem shelves_update_of_eq {s : δ} (hnames : d.names s = d.names (hosts id))
    (himages : d.images s = d.images (hosts id)) :
  d.shelves (Function.update hosts id s) = d.shelves hosts
  := by
  rw [shelves_update, hnames, himages]
  exact congrArg₂ Shelves.mk (Function.update_eq_self id _) (Function.update_eq_self id _)

theorem leavesBehind_update {s : δ} {name : String}
    (hnames : Takes name (d.names (hosts id)) (d.names s))
    (himages : d.images s = d.images (hosts id)) :
  d.LeavesBehind id name hosts (Function.update hosts id s)
  := by
  refine ⟨hnames.1, ?_⟩
  rw [shelves_update, hnames.2, himages]
  exact congrArg (Shelves.mk _) (Function.update_eq_self id _)

theorem LeavesBehind.mem_names {name : String} (h : d.LeavesBehind id name hosts hosts') :
  name ∈ d.names (hosts' id)
  := by
  have hnames : d.names (hosts' id) = insert name (d.names (hosts id)) :=
    (congrFun (congrArg Shelves.names h.2) id).trans (Function.update_self id _ _)
  rw [hnames]
  exact Set.mem_insert name _

/-- What a launch that fails leaves: everything as it was, or a container besides that does not
run.  It is the latter if the container was created, and not if it was refused. -/
structure Leaves (d : Daemon δ) (spec : LaunchSpec) (id : HostId) (hosts hosts' : HostId → δ) :
    Prop where
  shelves : d.shelves hosts' = d.shelves hosts ∨ d.LeavesBehind id spec.name hosts hosts'
  leavesBehind : d.Creates spec (hosts id) → d.LeavesBehind id spec.name hosts hosts'
  shelves_of_refuses : d.Refuses spec (hosts id) → d.shelves hosts' = d.shelves hosts

theorem not_creates_of_refuses {s : δ} (h : d.Refuses spec s) :
  ¬ d.Creates spec s
  := by
  obtain ⟨status, body, hstatus, hrefused⟩ := h
  rintro ⟨reply, unitId, hcreate, hread⟩
  obtain rfl := Option.some_inj.mp (hrefused.symm.trans hcreate)
  exact createdBy_ne_ok hstatus body unitId hread

theorem leaves_of_layer_eq_error (hdetach : spec.detach = true)
    (h : d.layer id (.launch spec) hosts = (some (.error e), hosts')) :
  d.Leaves spec id hosts hosts'
  := by
  cases hrun : Program.run d.handle (launch id spec) (hosts id) with
  | mk x s =>
      rw [layer_launch hrun] at h
      obtain ⟨rfl, rfl⟩ := Prod.mk.inj h
      obtain ⟨reply, hcreate, hread⟩ | ⟨reply, unitId, created, hcreate, hread, rfl⟩ :=
        of_run_launch_eq_error hdetach hrun
      · -- No container is told of, and yet one may be there, if it is the reply that was lost.
        have hnames := d.names_create spec (hosts id)
        have himages := d.images_create spec (hosts id)
        rw [hcreate] at hnames himages
        refine ⟨hnames.imp (shelves_update_of_eq · himages) (leavesBehind_update · himages),
          ?_, ?_⟩
        · rintro ⟨reply', unitId, hreply, hread'⟩
          rw [hcreate] at hreply
          obtain rfl := Option.some_inj.mp hreply
          exact absurd hread' (hread unitId)
        · rintro ⟨status, body, hstatus, hrefused⟩
          rw [hcreate] at hrefused
          obtain rfl := Option.some_inj.mp hrefused
          exact shelves_update_of_eq (d.names_of_refused hcreate hstatus) himages
      · have htakes := d.takes_of_createdBy hcreate hread
        have himages := d.images_create spec (hosts id)
        obtain ⟨hnames, himages'⟩ := d.start hcreate hread
        rw [hcreate] at himages
        rw [← hnames] at htakes
        have hbehind := leavesBehind_update htakes (himages'.trans himages)
        refine ⟨.inr hbehind, fun _ => hbehind, fun hrefuses => ?_⟩
        exact absurd ⟨reply, unitId, congrArg Prod.fst hcreate, hread⟩
          (not_creates_of_refuses hrefuses)

theorem exists_layer_launch_eq_ok_iff (hdetach : spec.detach = true) :
  (∃ unit hosts', d.layer id (.launch spec) hosts = (some (.ok unit), hosts'))
    ↔ Launches d.handle spec (hosts id)
  := by
  rw [← exists_run_launch_eq_ok_iff hdetach id]
  constructor
  · rintro ⟨unit, hosts', h⟩
    cases hrun : Program.run d.handle (launch id spec) (hosts id) with
    | mk x s =>
        rw [layer_launch hrun] at h
        obtain ⟨rfl, -⟩ := Prod.mk.inj h
        exact ⟨unit, s, rfl⟩
  · rintro ⟨unit, s, hrun⟩
    exact ⟨unit, _, layer_launch hrun⟩

/-- Under a name that is taken nothing is launched. -/
theorem not_launches_of_mem_names {s : δ} (h : spec.name ∈ d.names s) :
  ¬ Launches d.handle spec s
  := by
  rintro ⟨reply, unitId, created, started, body, hcreate, hread, -⟩
  exact (d.takes_of_createdBy hcreate hread).1 h

end Daemon

/-! ### A daemon with room for one container -/

/-- A daemon with one image and room for one container. -/
structure Berth where
  /-- The name of its container. -/
  name? : Option String
  /-- The tags of its image. -/
  tags : List ImageRef
  /-- Whether a container can be started. -/
  isAble : Bool
deriving DecidableEq

namespace Berth

/-- The only container. -/
def unitId : String :=
  "c1"

/-- The reply to a request that created the container. -/
def created : Reply :=
  .response 201 "\x7b\"Id\":\"c1\",\"Warnings\":[]\x7d".toUTF8.toList

/-- The image in the body of a request. -/
def imageOf (request : Http.Request) : String :=
  match request.body.bind (·.member? "Image") with
  | some (.text image) => image
  | _ => ""

/-- Creates the container, under a name and out of an image. -/
def create (s : Berth) (name image : String) : Reply × Berth :=
  if s.name?.isSome then (.response 409 [], s)
  else if s.tags.any (·.display = image) then (created, { s with name? := some name })
  else (.response 404 [], s)

/-- The reply to a request that the container be started. -/
def started (s : Berth) : Reply :=
  .response (if s.name?.isNone then 404 else if s.isAble then 204 else 500) []

/-- Removes the tag that a path names. -/
def untag (s : Berth) (path : String) : Reply × Berth :=
  match s.tags.find? fun tag => path = versionPath ++ "/images/" ++ tag.display with
  | none => (.response 404 [], s)
  | some tag => (.response 200 "[]".toUTF8.toList, { s with tags := s.tags.erase tag })

/-- Puts a further tag on the image that a path names. -/
def retag (s : Berth) (path : String) (query : List (String × String)) : Reply × Berth :=
  match s.tags.find? fun tag => path = versionPath ++ "/images/" ++ tag.display ++ "/tag" with
  | none => (.response 404 [], s)
  | some _ =>
    let tag := ⟨(query.lookup "repo").getD "", (query.lookup "tag").getD ""⟩
    (.response 201 [], { s with tags := tag :: s.tags })

/-- Answers the requests of preparing images and of launching. -/
def handle : Handler Http.interface Berth := fun request s =>
  let (reply, s) :=
    if request.path = versionPath ++ "/containers/c1/start" then (s.started, s)
    else if request.path = versionPath ++ "/containers/create" then
      s.create ((request.query.lookup "name").getD "") (imageOf request)
    else match request.method with
      | .delete => s.untag request.path
      | .post => s.retag request.path request.query
      | .get => (.response 501 [], s)
  (some reply, s)

theorem handle_createRequest (spec : LaunchSpec) (s : Berth) :
  handle (createRequest spec) s
    = (some (s.create spec.name spec.image.display).1, (s.create spec.name spec.image.display).2)
  := by
  have hpath : (address "/containers/create").path = versionPath ++ "/containers/create" := by
    decide +kernel
  have hother : versionPath ++ "/containers/create" ≠ versionPath ++ "/containers/c1/start" := by
    decide +kernel
  simp only [handle, createRequest, hpath, hother, if_false, if_true]
  rfl

theorem createdBy_created :
  createdBy created = .ok unitId
  := by decide +kernel

/-- The container is created where there is room, or the request is refused. -/
theorem create_cases (s : Berth) (name image : String) :
  s.name? = none ∧ s.create name image = (created, { s with name? := some name })
    ∨ ∃ status, 400 ≤ status ∧ s.create name image = (.response status [], s)
  := by
  rw [create]
  split_ifs with htaken htagged
  · exact .inr ⟨409, by decide, rfl⟩
  · exact .inl ⟨Option.not_isSome_iff_eq_none.mp htaken, rfl⟩
  · exact .inr ⟨404, by decide, rfl⟩

variable {spec : LaunchSpec} {s s' : Berth} {reply : Reply}

/-- Behind a request for a container either nothing has changed or the container is there. -/
theorem of_handle_createRequest (h : handle (createRequest spec) s = (some reply, s')) :
  s.name? = none ∧ reply = created ∧ s' = { s with name? := some spec.name }
    ∨ (∃ status, 400 ≤ status ∧ reply = .response status []) ∧ s' = s
  := by
  rw [handle_createRequest] at h
  obtain ⟨hreply, rfl⟩ := Prod.mk.inj h
  obtain rfl := Option.some_inj.mp hreply
  obtain ⟨hroom, hcreate⟩ | ⟨status, hstatus, hcreate⟩ :=
    s.create_cases spec.name spec.image.display
  · rw [hcreate]
    exact .inl ⟨hroom, rfl, rfl⟩
  · rw [hcreate]
    exact .inr ⟨⟨status, hstatus, rfl⟩, rfl⟩

theorem handle_startRequest (s : Berth) :
  handle (startRequest unitId) s = (some s.started, s)
  := by
  have hpath : (startRequest unitId).path = versionPath ++ "/containers/c1/start" := by
    decide +kernel
  simp only [handle, hpath, if_true]

/-- The names that the daemon has given. -/
def names (s : Berth) : Set String :=
  {name | s.name? = some name}

/-- The image of the daemon is behind all of its tags. -/
def images (s : Berth) (tag : ImageRef) : Option String :=
  if tag ∈ s.tags then some "sha256" else none

theorem takes_names (h : s.name? = none) (name : String) :
  Takes name s.names { s with name? := some name }.names
  := by
  rw [Takes, names, names, h]
  constructor
  · rintro ⟨⟩
  · ext other
    simp [eq_comm]

/-- A container that the daemon tells of is its only one, and there was none before. -/
theorem of_createdBy {id : String} (h : handle (createRequest spec) s = (some reply, s'))
    (hread : createdBy reply = .ok id) :
  id = unitId ∧ s.name? = none ∧ s' = { s with name? := some spec.name }
  := by
  obtain ⟨hroom, rfl, rfl⟩ | ⟨⟨status, hstatus, rfl⟩, -⟩ := of_handle_createRequest h
  · exact ⟨Except.ok.inj (hread.symm.trans createdBy_created), hroom, rfl⟩
  · exact absurd hread (createdBy_ne_ok hstatus [] id)

/-- The daemon keeps its names apart. -/
def daemon : Daemon Berth where
  handle := handle
  names := names
  images := images
  names_create spec s := by
    rw [handle_createRequest]
    obtain ⟨hroom, hcreate⟩ | ⟨_, -, hcreate⟩ := s.create_cases spec.name spec.image.display
    · rw [hcreate]
      exact .inr (takes_names hroom spec.name)
    · rw [hcreate]
      exact .inl rfl
  images_create spec s := by
    rw [handle_createRequest]
    obtain ⟨-, hcreate⟩ | ⟨_, -, hcreate⟩ := s.create_cases spec.name spec.image.display
    · rw [hcreate]
      rfl
    · rw [hcreate]
  takes_of_createdBy h hread := by
    obtain ⟨-, hroom, rfl⟩ := of_createdBy h hread
    exact takes_names hroom _
  names_of_refused h hstatus := by
    obtain ⟨-, hcreated, -⟩ | ⟨-, rfl⟩ := of_handle_createRequest h
    · obtain ⟨rfl, -⟩ := Reply.response.inj hcreated
      omega
    · rfl
  start h hread := by
    obtain ⟨rfl, -⟩ := of_createdBy h hread
    rw [handle_startRequest]
    exact ⟨rfl, rfl⟩

end Berth

end JoinBench.Docker
