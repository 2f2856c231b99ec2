import JoinBench.Output
import JoinBench.Proofs.ResultRecord
import JoinBench.Proofs.Sink
import JoinBench.Proofs.Storage

/-!
# Records at the end of a file

The text of a record is one line also in bytes.  Records that are put into the sinks of a run one
after another stand at the end of its file, each with a line feed behind it and nothing in front
of it.  So the lines of the file are the earlier ones and one for each record, unless the file
did not end in a line feed: then the first record goes on with the line that was left open.
-/

namespace JoinBench

/-! ### Bytes of a text -/

namespace Text

variable {c : Char} {text : String}

/-- The bytes of a text. -/
def bytes (text : String) : List UInt8 :=
  text.toUTF8.data.toList

theorem bytes_append (text more : String) :
  bytes (text ++ more) = bytes text ++ bytes more
  := by
  simp [bytes]

/-- Only a line feed is encoded with the byte of a line feed. -/
theorem lineFeed_notMem_utf8EncodeChar (hc : c ≠ '\n') :
  10 ∉ String.utf8EncodeChar c
  := by
  have hval : c.toNat ≠ 10 := fun h => hc (Char.ext (UInt32.toNat_inj.mp h))
  simp only [String.utf8EncodeChar, Char.toNat_val]
  split_ifs <;> simp [← UInt8.toNat_inj] <;> omega

theorem lineFeed_notMem_bytes (h : '\n' ∉ text.toList) :
  10 ∉ bytes text
  := by
  have hbytes : bytes text = text.toList.flatMap String.utf8EncodeChar := by
    rw [bytes, String.toUTF8, ← String.utf8Encode_toList, List.utf8Encode, List.data_toByteArray]
  rw [hbytes, List.mem_flatMap]
  rintro ⟨c, hc, hfeed⟩
  exact lineFeed_notMem_utf8EncodeChar (fun heq => h (heq ▸ hc)) hfeed

theorem bytes_join (lines : List String) :
  bytes (String.join (lines.map (· ++ "\n"))) = ended (lines.map bytes)
  := by
  induction lines with
  | nil => rfl
  | cons line lines ih =>
      rw [List.map_cons, String.join_cons, bytes_append, bytes_append, ih]
      rfl

end Text

/-! ### Records one after another -/

theorem ResultRecord.lineFeed_notMem_bytes (r : ResultRecord) :
  10 ∉ Text.bytes r.jsonText
  := Text.lineFeed_notMem_bytes r.isOneLine_jsonText.lineFeed_notMem

namespace Output

open Text

variable {folder : Folder} {path : String} {o : Output} {records : List ResultRecord}

/-- Puts records into every sink, one after another, up to the first that cannot be put. -/
def emitAll : List ResultRecord → Output → Output × Except Error Unit
  | [], o => (o, .ok ())
  | r :: rest, o =>
    match o.emit r with
    | (o, .error e) => (o, .error e)
    | (o, .ok ()) => emitAll rest o

/-- Either all sinks accept as many lines as there are records, and hold them, or not all records
can be put. -/
theorem emitAll_cases (records : List ResultRecord) (o : Output) :
  ((∀ sink ∈ o.sinks, sink.Accepts records.length) ∧ o.emitAll records
      = ({ o with sinks := o.sinks.map (Sink.holding (records.map (·.jsonText))) }, .ok ()))
    ∨ ((¬∀ sink ∈ o.sinks, sink.Accepts records.length) ∧ ∃ e, (o.emitAll records).2 = .error e)
  := by
  induction records generalizing o with
  | nil =>
      left
      constructor
      · exact fun sink _ => sink.accepts_zero
      · rw [emitAll, List.map_nil, Sinks.map_holding_nil]
  | cons r rest ih =>
      obtain ⟨haccepts, hput⟩ | ⟨ahead, sink, behind, step, e, sink', hsinks, -, hrefuses, hput⟩ :=
        Sinks.put_cases r.jsonText o.sinks
      · simp only [emitAll, emit, Sinks.emit, hput, List.length_cons, Nat.add_comm _ 1]
        obtain ⟨hrest, hall⟩ | ⟨hrest, hall⟩ :=
          ih { o with sinks := o.sinks.map (Sink.holding [r.jsonText]) }
        · left
          constructor
          · intro sink hsink
            have hline : sink.Accepts [r.jsonText].length := haccepts sink hsink
            exact hline.append (hrest _ (List.mem_map_of_mem hsink))
          · rw [hall, Sinks.map_holding_holding]
            rfl
        · right
          refine ⟨fun hboth => hrest ?_, hall⟩
          intro sink hsink
          obtain ⟨earlier, hearlier, rfl⟩ := List.mem_map.mp hsink
          have hline : earlier.Accepts ([r.jsonText].length + rest.length) := hboth earlier hearlier
          exact hline.holding
      · right
        constructor
        · intro haccepts
          have hsink := haccepts sink (hsinks ▸ List.mem_append_cons_self)
          exact hrefuses.not_accepts (hsink.mono (Nat.le_add_left 1 _))
        · simp only [emitAll, emit, Sinks.emit, hput]
          exact ⟨e, rfl⟩

/-- Opened on a path over a folder.  The sinks may fail later; nothing was written to them so
far. -/
structure IsOpened (folder : Folder) (path : String) (o : Output) : Prop where
  begins : ∃ opened, begin folder (some path) = .ok opened ∧ o.folder = opened.folder
    ∧ o.place = opened.place
  sinks : ∃ printed stored, o.sinks = [printed, stored] ∧ printed.content = ""
    ∧ stored.content = ""

theorem begin_eq_ok (h : begin folder (some path) = .ok o) :
  ∃ place, folder.openForAppend path = .ok (o.folder, place) ∧ o.place = some place
    ∧ o.sinks = [.empty, .empty]
  := by
  simp only [begin] at h
  split at h
  next folder' place hopen =>
    cases h
    exact ⟨place, hopen, rfl, rfl⟩
  next => cases h

theorem isOpened_begin (h : begin folder (some path) = .ok o) :
  o.IsOpened folder path
  := by
  obtain ⟨place, -, -, hsinks⟩ := begin_eq_ok h
  exact ⟨⟨o, h, rfl, rfl⟩, .empty, .empty, hsinks, rfl, rfl⟩

/-- The sinks that a run opens never fail. -/
theorem emitAll_begin (h : begin folder (some path) = .ok o) (records : List ResultRecord) :
  (o.emitAll records).2 = .ok ()
  := by
  obtain ⟨place, -, -, hsinks⟩ := begin_eq_ok h
  obtain ⟨-, hdone⟩ | ⟨hnot, -⟩ := emitAll_cases records o
  · rw [hdone]
  · exact absurd (by simp [hsinks, Sink.accepts_empty]) hnot

/-- Records that were all put stand at the end of the file. -/
theorem file?_emitAll (hopened : o.IsOpened folder path) (hall : (o.emitAll records).2 = .ok ()) :
  ∃ place, o.place = some place ∧ (o.emitAll records).1.file?
      = some ((folder.file? place).getD .empty
        ++ (String.join ((records.map (·.jsonText)).map (· ++ "\n"))).toUTF8)
  := by
  obtain ⟨⟨opened, hbegin, hfolder, hplace⟩, printed, stored, hsinks, -, hstored⟩ := hopened
  obtain ⟨place, hopen, hopened, -⟩ := begin_eq_ok hbegin
  rw [hopened] at hplace
  obtain ⟨-, hdone⟩ | ⟨-, e, he⟩ := emitAll_cases records o
  · use place, hplace
    have hwritten : (o.emitAll records).1.written 1
        = String.join ((records.map (·.jsonText)).map (· ++ "\n")) := by
      simp [hdone, written, hsinks, Sink.holding, hstored]
    rw [file?, Output.stored, hwritten, hdone]
    simp only [hplace, Option.bind_some, Folder.file?_append, hfolder,
      Folder.file?_openForAppend hopen, Option.map_some]
  · rw [hall] at he
    cases he

/-- Records put one after another into a file opened for appending stand behind what it held,
each with a line feed.  They are lines of their own behind the earlier lines just where the file
was empty or ended in a line feed; else the first of them goes on with the line left open. -/
theorem byteLines_emitAll (hopened : o.IsOpened folder path)
    (hall : (o.emitAll records).2 = .ok ()) :
  ∃ place content, o.place = some place ∧ (o.emitAll records).1.file? = some content ∧
    let before := ((folder.file? place).getD .empty).data.toList
    let after := content.data.toList
    let texts := records.map fun r => bytes r.jsonText
    after = before ++ ended texts ∧ (∀ text ∈ texts, 10 ∉ text)
      ∧ (byteLines after = byteLines before ++ texts ↔ records = [] ∨ openLine before = [])
      ∧ ∀ first rest, texts = first :: rest →
        byteLines after = endedLines before ++ (openLine before ++ first) :: rest
  := by
  obtain ⟨place, hplace, hfile⟩ := file?_emitAll hopened hall
  refine ⟨place, _, hplace, hfile, ?_⟩
  intro before after texts
  have htexts : ∀ text ∈ texts, 10 ∉ text := by
    simp only [texts, List.forall_mem_map]
    exact fun r _ => r.lineFeed_notMem_bytes
  have hafter : after = before ++ ended texts := by
    simp only [after, before, texts, ByteArray.data_append, Array.toList_append]
    rw [← bytes, bytes_join, List.map_map]
    rfl
  use hafter, htexts
  rw [hafter]
  constructor
  · rw [byteLines_append_ended_iff htexts, List.map_eq_nil_iff]
  · intro first rest heq
    rw [heq, List.forall_mem_cons] at htexts
    rw [heq, byteLines_append_ended_cons htexts.1 htexts.2]

/-- A folder with a file of results whose second line was cut off. -/
def cutOff : Folder :=
  .ofFiles [("out.jsonl", "\x7b\x7d\n\x7b\"n_sources\":2".toUTF8)]

theorem isOpened_cutOff :
  ∃ o, begin cutOff (some "out.jsonl") = .ok o ∧ o.place = some ["out.jsonl"]
  := by
  have hplace : (begin cutOff (some "out.jsonl")).toOption.bind (·.place) = some ["out.jsonl"] := by
    decide +kernel
  cases hbegin : begin cutOff (some "out.jsonl") with
  | error e =>
      rw [hbegin] at hplace
      cases hplace
  | ok o =>
      rw [hbegin] at hplace
      exact ⟨o, rfl, hplace⟩

/-- The first of two records goes on with the line that was cut off. -/
theorem byteLines_emitAll_cutOff :
  let r : ResultRecord := ⟨2, 10, 8, 0, []⟩
  ∃ (o : Output) (content : ByteArray), o.IsOpened cutOff "out.jsonl" ∧ (o.emitAll [r, r]).2 = .ok ()
    ∧ (o.emitAll [r, r]).1.file? = some content
    ∧ byteLines content.data.toList
      = [bytes "\x7b\x7d", bytes "\x7b\"n_sources\":2" ++ bytes r.jsonText, bytes r.jsonText]
  := by
  intro r
  obtain ⟨o, hbegin, hout⟩ := isOpened_cutOff
  have hopened := isOpened_begin hbegin
  have hall := emitAll_begin hbegin [r, r]
  obtain ⟨place, content, hplace, hfile, -, -, -, hlines⟩ := byteLines_emitAll hopened hall
  obtain rfl : ["out.jsonl"] = place := Option.some.inj (hout.symm.trans hplace)
  have hbefore : endedLines ((cutOff.file? ["out.jsonl"]).getD .empty).data.toList
        = [bytes "\x7b\x7d"]
      ∧ openLine ((cutOff.file? ["out.jsonl"]).getD .empty).data.toList
        = bytes "\x7b\"n_sources\":2" := by
    decide +kernel
  refine ⟨o, content, hopened, hall, hfile, ?_⟩
  rw [hlines (bytes r.jsonText) [bytes r.jsonText] rfl, hbefore.1, hbefore.2]
  rfl

/-- A record that is put behind a line that was cut off is no line of its own, and the line that
was there is no line any more. -/
theorem exists_byteLines_emitAll_ne :
  let r : ResultRecord := ⟨2, 10, 8, 0, []⟩
  ∃ (o : Output) (content : ByteArray), o.IsOpened cutOff "out.jsonl" ∧ (o.emitAll [r]).2 = .ok ()
    ∧ (o.emitAll [r]).1.file? = some content
    ∧ byteLines content.data.toList
      ≠ byteLines (bytes "\x7b\x7d\n\x7b\"n_sources\":2") ++ [bytes r.jsonText]
  := by
  intro r
  obtain ⟨o, hbegin, hout⟩ := isOpened_cutOff
  have hopened := isOpened_begin hbegin
  have hall := emitAll_begin hbegin [r]
  obtain ⟨place, hplace, hfile⟩ := file?_emitAll hopened hall
  obtain rfl : ["out.jsonl"] = place := Option.some.inj (hout.symm.trans hplace)
  refine ⟨o, _, hopened, hall, hfile, ?_⟩
  have hbefore : ((cutOff.file? ["out.jsonl"]).getD .empty).data.toList
      = bytes "\x7b\x7d\n\x7b\"n_sources\":2" := by
    decide +kernel
  have htext : ∀ text ∈ [bytes r.jsonText], 10 ∉ text :=
    List.forall_mem_singleton.mpr r.lineFeed_notMem_bytes
  rw [ByteArray.data_append, Array.toList_append, hbefore, ← bytes, bytes_join]
  intro heq
  obtain hnil | hclosed := (byteLines_append_ended_iff htext).mp heq
  · cases hnil
  · exact absurd hclosed (by decide +kernel)

end Output

end JoinBench
