import JoinBench.Benchmark
import JoinBench.Proofs.Docker.Conversation
import JoinBench.Proofs.Docker.Daemon
import JoinBench.Proofs.Text.Pieces
import JoinBench.World

/-!
# Output that comes in frames

A stream of frames comes apart into their contents.  Each content is decoded on its own, so the
output of a container is the decoded text of its bytes just if no frame ends within a character, and
the lines that are repeated in the log are the lines of that text just if every frame with something
behind it ends with a line.
-/

namespace JoinBench.Docker

open Http (Reply)

/-! ### Frames -/

namespace LogStream

variable {frames : List Frame} {bytes rest : List UInt8}

theorem ofBigEndian_bigEndian {n : Nat} (hn : n < 2 ^ 32) :
  ∃ a b c d, bigEndian n = [a, b, c, d] ∧ ofBigEndian a b c d = n
  := by
  refine ⟨_, _, _, _, rfl, ?_⟩
  simp only [ofBigEndian, Nat.toUInt8_eq, UInt8.toNat_ofNat']
  omega

theorem splitBytes?_append (bytes rest : List UInt8) :
  splitBytes? bytes.length (bytes ++ rest) = some (bytes, rest)
  := by
  simp [splitBytes?]

/-- The first frame of a stream is its first piece. -/
theorem next?_encode {frame : Frame} (hsize : frame.content.length < 2 ^ 32) (rest : List UInt8) :
  next? (frame.encode ++ rest) = some (frame.content, rest)
  := by
  obtain ⟨a, b, c, d, hlength, hvalue⟩ := ofBigEndian_bigEndian hsize
  have hsource : ¬ 2 < frame.source.code := by
    cases frame.source <;> decide
  simp only [Frame.encode, hlength, List.cons_append, List.nil_append, next?, if_neg hsource,
    hvalue]
  exact splitBytes?_append _ _

theorem decode_nil :
  decode [] = ⟨[], true⟩
  := by
  rw [decode]
  rfl

theorem decode_of_next? {piece : List UInt8} (h : next? bytes = some (piece, rest)) :
  decode bytes = (decode rest).cons piece
  := by
  rw [decode]
  split
  · next hnext =>
    rw [h] at hnext
    cases hnext
    rfl
  · next hnext =>
    rw [h] at hnext
    cases hnext

/-- A stream of frames comes apart into their contents. -/
theorem decode_encode (hsize : ∀ frame ∈ frames, frame.content.length < 2 ^ 32) :
  decode (encode frames) = ⟨frames.map Frame.content, true⟩
  := by
  induction frames with
  | nil => exact decode_nil
  | cons frame frames ih =>
      obtain ⟨hframe, hframes⟩ := List.forall_mem_cons.mp hsize
      rw [encode, List.flatMap_cons, decode_of_next? (next?_encode hframe _), ← encode, ih hframes]
      rfl

end LogStream

/-! ### Pieces -/

/-- The bytes of some frames. -/
def contents (frames : List Frame) : List (List UInt8) :=
  frames.map Frame.content

/-- The text of pieces of output that are decoded one by one. -/
def textOf (pieces : List (List UInt8)) : String :=
  .ofList (pieces.flatMap fun piece => (Text.Utf8.decode piece).toList)

/-- The lines of pieces of output that are decoded one by one. -/
def linesOf (pieces : List (List UInt8)) : List String :=
  pieces.flatMap fun piece => Text.lines (Text.Utf8.decode piece)

theorem piecesOf_encode {frames : List Frame}
    (hsize : ∀ frame ∈ frames, frame.content.length < 2 ^ 32) :
  piecesOf (LogStream.encode frames)
    = (contents frames).map fun piece => .ok (Text.Utf8.decode piece)
  := by
  rw [piecesOf, LogStream.decode_encode hsize]
  exact List.append_nil _

theorem joinPieces_map_ok (pieces : List (List UInt8)) :
  joinPieces (pieces.map fun piece => .ok (Text.Utf8.decode piece)) = .ok (textOf pieces)
  := by
  induction pieces with
  | nil => rfl
  | cons piece pieces ih =>
      rw [List.map_cons, joinPieces, ih]
      simp [bind, Except.bind, pure, Except.pure, textOf, String.ofList_append]

/-! ### Operations -/

section

variable {σ : Type} {handle : Handler Http.interface σ} {request : Http.Request}
  {frames : List Frame} {s s' : σ}

/-- A daemon replies to a request with a stream of frames. -/
structure Streams (handle : Handler Http.interface σ) (request : Http.Request)
    (frames : List Frame) (s s' : σ) : Prop where
  reply : handle request s = (some (.response 200 (LogStream.encode frames)), s')
  /-- The length of a frame has four bytes. -/
  length_lt : ∀ frame ∈ frames, frame.content.length < 2 ^ 32

theorem layer_logs {id : HostId} {unit : UnitHandle} {select : LogSelect}
    (h : Streams handle (logsRequest unit.unitId false select) frames s s') :
  layer handle id (.logs unit select) s = (some (.ok (textOf (contents frames))), s')
  := by
  rw [layer, ask, run_exchange, h.reply]
  have hpieces : joinPieces (piecesOf (LogStream.encode frames))
      = .ok (textOf (contents frames)) := by
    rw [piecesOf_encode h.length_lt, joinPieces_map_ok]
  have hbody : bodyOf (.response 200 (LogStream.encode frames))
      = .ok (LogStream.encode frames) := rfl
  simp only [Option.map_some, hbody, Except.bind, hpieces]
  rfl

theorem layer_follow {id : HostId} {unit : UnitHandle}
    (h : Streams handle (logsRequest unit.unitId true .both) frames s s') :
  layer handle id (.follow unit) s
    = (some ((contents frames).map fun piece => .ok (Text.Utf8.decode piece)), s')
  := by
  rw [layer, ask, run_exchange, h.reply]
  have hbody : bodyOf (.response 200 (LogStream.encode frames))
      = .ok (LogStream.encode frames) := rfl
  simp only [Option.map_some, hbody, Except.map, piecesOf_encode h.length_lt, List.map_map]
  rfl

end

end JoinBench.Docker

namespace JoinBench

open Host

/-! ### Repeating lines in the log -/

section

variable {τ : Type} {layer : Layer τ}

/-- A line of the helper in the log. -/
def LogLine.echoed (line : String) : LogLine :=
  ⟨.info, .helper, line⟩

/-- The surroundings with further lines of the helper in the log. -/
def World.echo (w : World τ) (lines : List String) : World τ :=
  { w with log := (lines.map LogLine.echoed).reverse ++ w.log }

theorem World.echo_echo (w : World τ) (lines more : List String) :
  (w.echo lines).echo more = w.echo (lines ++ more)
  := by
  simp [echo]

theorem World.run_forEach_echo (lines : List String) (w : World τ) :
  World.run layer (Program.forEach Job.echo lines) w = (some (.ok ()), w.echo lines)
  := by
  induction lines generalizing w with
  | nil => rfl
  | cons line lines ih =>
      have hline : World.run layer (Program.forEach Job.echo (line :: lines)) w
          = World.run layer (Program.forEach Job.echo lines) (w.echo [line]) := rfl
      rw [hline, ih, World.echo_echo]
      rfl

/-- The lines of pieces that all came are repeated one piece after the other. -/
theorem World.run_echoPieces (pieces : List String) (w : World τ) :
  World.run layer (echoPieces (pieces.map .ok)) w
    = (some (.ok ()), w.echo (pieces.flatMap Text.lines))
  := by
  induction pieces generalizing w with
  | nil => rfl
  | cons piece pieces ih =>
      have hbind : World.run layer (echoPieces ((piece :: pieces).map .ok)) w = _ :=
        Program.run_bind (Program.forEach Job.echo (Text.lines piece)) _ w
      have hlines : Program.run (World.handler layer) _ w = _ :=
        World.run_forEach_echo (Text.lines piece) w
      rw [hbind, hlines, List.flatMap_cons, ← World.echo_echo]
      exact ih _

end

namespace Docker

variable {σ : Type} {handle : HostId → Handler Http.interface σ} {unit : UnitHandle}
  {frames : List Frame}

theorem run_echoHelper {m : Manager} {w : World σ} {s' : σ}
    (hhost : m.fabric.host unit.host = .ok unit.host)
    (h : Streams (handle unit.host) (logsRequest unit.unitId true .both) frames w.hosts s') :
  World.run (layers handle) (echoHelper m unit) w
    = (some (.ok ()), World.echo { w with hosts := s' } (linesOf (contents frames)))
  := by
  have hfollow : Program.run (World.handler (layers handle)) (m.follow unit) w
      = (some (.ok ((contents frames).map fun piece => .ok (Text.Utf8.decode piece))),
        { w with hosts := s' }) := by
    have hask : World.handler (layers handle) (.ask unit.host (.follow unit)) w
        = (some ((contents frames).map fun piece => .ok (Text.Utf8.decode piece)),
          { w with hosts := s' }) := by
      simp only [World.handler, layers, layer_follow h]
    simp only [Manager.follow, hhost, Program.ofExcept, bind, Program.bind, Job.follow, Job.perform,
      Program.run, hask]
  have hbind : World.run (layers handle) (echoHelper m unit) w = _ :=
    Program.run_bind (m.follow unit).attempt _ w
  rw [hbind, Program.run_attempt, hfollow]
  have hecho : World.run (layers handle) _ _ = _ :=
    World.run_echoPieces ((contents frames).map Text.Utf8.decode) { w with hosts := s' }
  rw [List.map_map, List.flatMap_map] at hecho
  exact hecho

/-- The output of a container is what its frames are decoded to one by one.  That is the text of all
its bytes just if no frame ends within a character, and its lines are the lines of that text just if
every frame with something behind it ends with a line. -/
theorem logs_and_echo_spec :
  (∀ select s s', Streams (handle unit.host) (logsRequest unit.unitId false select) frames s s' →
      layers handle unit.host (.logs unit select) s = (some (.ok (textOf (contents frames))), s'))
    ∧ (∀ (m : Manager) (w : World σ) (s' : σ), m.fabric.host unit.host = .ok unit.host →
      Streams (handle unit.host) (logsRequest unit.unitId true .both) frames w.hosts s' →
        World.run (layers handle) (echoHelper m unit) w
          = (some (.ok ()), World.echo { w with hosts := s' } (linesOf (contents frames))))
    ∧ (textOf (contents frames) = Text.Utf8.decode (contents frames).flatten
      ↔ Text.AtBorders (fun front behind => ¬ Text.Utf8.IsCut front behind) (contents frames))
    ∧ (linesOf (contents frames) = Text.lines (Text.Utf8.decode (contents frames).flatten)
      ↔ Text.AtBorders (fun front behind => Text.EndsLine front ∨ behind = []) (contents frames))
  := by
  refine ⟨fun select s s' h => layer_logs h, fun m w s' hhost h => run_echoHelper hhost h, ?_, ?_⟩
  · rw [← Text.flatMap_decode_eq_iff, textOf, ← String.toList_inj, String.toList_ofList]
  · exact Text.flatMap_lines_decode_eq_iff _

/-- A manager on the local host. -/
def localManager : Manager :=
  ⟨⟨[], .localhost, .localhost⟩, .ofHosts [.localhost], {}, "mppj-exp", ["sh", "-c"]⟩

/-- The helper on the local host. -/
def localHelper : UnitHandle :=
  ⟨.localhost, "u1", ⟨"helper"⟩⟩

/-- A daemon that is about to send some frames. -/
def sending (frames : List Frame) : Http.Script :=
  ⟨[.response 200 (LogStream.encode frames)], .lost, []⟩

theorem streams_sending (request : Http.Request)
    (hsize : ∀ frame ∈ frames, frame.content.length < 2 ^ 32) :
  Streams Http.Script.handler request frames (sending frames) ⟨[], .lost, [request]⟩
  where
    reply := rfl
    length_lt := hsize

/-- Two lines in two frames, with a character of two bytes. -/
def twoLines : List Frame :=
  [⟨.stderr, [0xc3, 0xa9, 10]⟩, ⟨.stdout, [0x6f, 0x6b]⟩]

theorem logs_and_echo_spec_twoLines :
  (layers (fun _ => Http.Script.handler) localHelper.host (.logs localHelper .both)
      (sending twoLines)).1 = some (.ok "é\nok")
    ∧ (∃ w, World.run (layers fun _ => Http.Script.handler) (echoHelper localManager localHelper)
        (.start (sending twoLines) []) = (some (.ok ()), w)
      ∧ w.lines = [.echoed "é", .echoed "ok"])
    ∧ textOf (contents twoLines) = Text.Utf8.decode [0xc3, 0xa9, 10, 0x6f, 0x6b]
    ∧ linesOf (contents twoLines) = Text.lines (Text.Utf8.decode [0xc3, 0xa9, 10, 0x6f, 0x6b])
  := by
  obtain ⟨hlogs, hecho, htext, hlines⟩ :=
    @logs_and_echo_spec _ (fun _ => Http.Script.handler) localHelper twoLines
  have hstreams request : Streams _ _ twoLines _ _ := streams_sending request (by decide)
  have hends : Text.EndsLine [0xc3, 0xa9, 10] := by decide
  have hlast : ∀ front, ¬ Text.Utf8.IsCut front [] := by
    rintro front ⟨-, -, b, hb, -⟩
    cases hb
  refine ⟨?_, ?_, ?_, ?_⟩
  · rw [hlogs .both _ _ (hstreams _)]
    decide
  · exact ⟨_, hecho localManager _ _ rfl (hstreams _), by decide⟩
  · exact htext.mpr ⟨Text.not_isCut_of_endsLine hends _, hlast _, trivial⟩
  · exact hlines.mpr ⟨.inl hends, .inr rfl, trivial⟩

/-- One character and a line feed in one frame. -/
def inOne : List Frame :=
  [⟨.stderr, [0xc3, 0xa9, 10]⟩]

/-- The same bytes in two frames, of which the first ends within the character. -/
def inTwo : List Frame :=
  [⟨.stderr, [0xc3]⟩, ⟨.stderr, [0xa9, 10]⟩]

theorem exists_logs_and_echo_ne :
  (contents inOne).flatten = (contents inTwo).flatten
    ∧ (layers (fun _ => Http.Script.handler) localHelper.host (.logs localHelper .both)
        (sending inOne)).1 = some (.ok "é\n")
    ∧ (layers (fun _ => Http.Script.handler) localHelper.host (.logs localHelper .both)
        (sending inTwo)).1 = some (.ok "\ufffd\ufffd\n")
    ∧ (World.run (layers fun _ => Http.Script.handler) (echoHelper localManager localHelper)
        (.start (sending inOne) [])).2.lines = [.echoed "é"]
    ∧ (World.run (layers fun _ => Http.Script.handler) (echoHelper localManager localHelper)
        (.start (sending inTwo) [])).2.lines = [.echoed "\ufffd", .echoed "\ufffd"]
  := by
  have hone request : Streams _ _ inOne _ _ := streams_sending request (by decide)
  have htwo request : Streams _ _ inTwo _ _ := streams_sending request (by decide)
  refine ⟨rfl, ?_, ?_, ?_, ?_⟩
  · rw [layers, layer_logs (hone _)]
    decide
  · rw [layers, layer_logs (htwo _)]
    decide
  · rw [run_echoHelper rfl (hone _)]
    decide
  · rw [run_echoHelper rfl (htwo _)]
    decide

end Docker

end JoinBench
