import JoinBench.Proofs.Outcome
import JoinBench.Storage

/-!
# Files that are appended to

Opening a file for appending keeps every file of the folder, the one that is opened included;
one that is made is empty.  The content of a file falls into lines at its line feeds: those that
are ended, and behind them one that is still open, of which there is something only if the file
does not end in a line feed.  What is appended goes on with the open line.
-/

namespace JoinBench

/-- What a file contains. -/
def Entry.content? : Entry → Option ByteArray
  | .file content => some content
  | .folder => none

namespace Folder

variable {folder folder' : Folder} {path name : String} {paths : List String}
  {place : List String} {entry : Option Entry}

theorem files_makeFolder (h : folder.makeFolder path = .ok folder') :
  folder'.files = folder.files
  := by
  obtain ⟨target, -, h⟩ := bind_eq_ok.mp h
  cases target with
  | dots => cases h
  | name place name slash =>
      obtain ⟨entry, -, h⟩ := bind_eq_ok.mp h
      cases entry with
      | some _ => cases h
      | none =>
          cases h
          rfl

theorem files_makeFolders (h : folder.makeFolders paths = .ok folder') :
  folder'.files = folder.files
  := by
  induction paths generalizing folder folder' with
  | nil =>
      cases h
      rfl
  | cons path rest ih =>
      simp only [makeFolders] at h
      split at h
      next made hmade =>
        cases h
        exact files_makeFolder hmade
      next =>
        split at h
        next => cases h
        next among hamong =>
          split at h
          next made hmade =>
            cases h
            rw [files_makeFolder hmade, ih hamong]
          next =>
            split_ifs at h
            cases h
            exact ih hamong
      next =>
        split_ifs at h
        cases h
        rfl

theorem file?_eq_of_files (h : folder'.files = folder.files) (place : List String) :
  folder'.file? place = folder.file? place
  := by
  rw [file?, file?, h]

theorem file?_of_entry? (h : folder.entry? place name = .ok entry) :
  folder.file? (place ++ [name]) = entry.bind Entry.content?
  := by
  unfold entry? at h
  split_ifs at h
  cases hfile : folder.file? (place ++ [name]) with
  | some content =>
      simp only [hfile] at h
      cases h
      rfl
  | none =>
      simp only [hfile] at h
      cases h
      split_ifs <;> rfl

/-- A file opened for appending has the content that it had, none if it was not there. -/
theorem file?_openForAppend (h : folder.openForAppend path = .ok (folder', place)) :
  folder'.file? place = some ((folder.file? place).getD .empty)
  := by
  obtain ⟨made, hmade, h⟩ := bind_eq_ok.mp h
  rw [← file?_eq_of_files (files_makeFolders hmade)]
  obtain ⟨target, -, h⟩ := bind_eq_ok.mp h
  cases target with
  | dots => cases h
  | name above name slash =>
      obtain ⟨-, h⟩ := check_eq_ok.mp h
      obtain ⟨entry, hentry, h⟩ := bind_eq_ok.mp h
      have hfile := file?_of_entry? hentry
      match entry with
      | some .folder => cases h
      | some (.file content) =>
          cases h
          rw [hfile]
          rfl
      | none =>
          cases h
          rw [hfile]
          simp [file?]

/-- Text appended to a file stands behind its content. -/
theorem file?_append (folder : Folder) (place : List String) (text : String) :
  (folder.append place text).file? place = (folder.file? place).map (· ++ text.toUTF8)
  := by
  have hsame : (fun f : List String × ByteArray => decide (f.1 = place))
      ∘ (fun f => if f.1 = place then (f.1, f.2 ++ text.toUTF8) else f)
      = fun f => decide (f.1 = place) := by
    funext f
    by_cases hf : f.1 = place <;> simp [hf]
  rw [file?, file?, append, List.find?_map, hsame, Option.map_map, Option.map_map]
  apply Option.map_congr
  intro f hf
  have hplace := List.find?_some hf
  simp [of_decide_eq_true hplace]

end Folder

/-! ### Lines -/

namespace Text

variable {bytes last line : List UInt8} {lines : List (List UInt8)}

/-- The lines in some bytes that end in a line feed, without it. -/
def endedLines (bytes : List UInt8) : List (List UInt8) :=
  (bytes.splitOn 10).dropLast

/-- What stands in some bytes behind the last line feed. -/
def openLine (bytes : List UInt8) : List UInt8 :=
  (bytes.splitOn 10).getLastD []

/-- The lines in some bytes: the open one counts if there is something of it. -/
def byteLines (bytes : List UInt8) : List (List UInt8) :=
  endedLines bytes ++ if openLine bytes = [] then [] else [openLine bytes]

/-- Lines one after another, each with a line feed behind it. -/
def ended (lines : List (List UInt8)) : List UInt8 :=
  lines.flatMap (· ++ [10])

theorem splitOn_ended (hlines : ∀ line ∈ lines, 10 ∉ line) (hlast : 10 ∉ last) :
  (ended lines ++ last).splitOn 10 = lines ++ [last]
  := by
  induction lines with
  | nil => exact List.splitOn_eq_singleton hlast
  | cons line lines ih =>
      rw [List.forall_mem_cons] at hlines
      have hfeed : ended (line :: lines) ++ last = line ++ 10 :: (ended lines ++ last) := by
        simp [ended]
      rw [hfeed, List.splitOn, List.splitOnP_append_cons _ _ (by rfl), ← List.splitOn,
        ← List.splitOn, List.splitOn_eq_singleton hlines.1, ih hlines.2]
      rfl

theorem endedLines_ended_append (hlines : ∀ line ∈ lines, 10 ∉ line) (hlast : 10 ∉ last) :
  endedLines (ended lines ++ last) = lines
  := by
  rw [endedLines, splitOn_ended hlines hlast, List.dropLast_concat]

/-- Bytes are the lines that are ended, and the open one behind them. -/
theorem exists_eq_ended (bytes : List UInt8) :
  ∃ lines last, bytes = ended lines ++ last ∧ (∀ line ∈ lines, 10 ∉ line) ∧ 10 ∉ last
  := by
  induction bytes with
  | nil => exact ⟨[], [], rfl, List.forall_mem_nil _, List.not_mem_nil⟩
  | cons b bytes ih =>
      obtain ⟨lines, last, rfl, hlines, hlast⟩ := ih
      by_cases hb : b = 10
      · use [] :: lines, last
        exact ⟨by simp [ended, hb], List.forall_mem_cons.mpr ⟨List.not_mem_nil, hlines⟩, hlast⟩
      · have hcons : ∀ {piece : List UInt8}, 10 ∉ piece → 10 ∉ b :: piece :=
          List.not_mem_cons_of_ne_of_not_mem (Ne.symm hb)
        cases lines with
        | nil => exact ⟨[], b :: last, rfl, hlines, hcons hlast⟩
        | cons line lines =>
            rw [List.forall_mem_cons] at hlines
            use (b :: line) :: lines, last
            exact ⟨rfl, List.forall_mem_cons.mpr ⟨hcons hlines.1, hlines.2⟩, hlast⟩

/-- A line that is appended goes on with the open line and ends it. -/
theorem endedLines_append (hline : 10 ∉ line) (bytes : List UInt8) :
  endedLines (bytes ++ (line ++ [10])) = endedLines bytes ++ [openLine bytes ++ line]
    ∧ openLine (bytes ++ (line ++ [10])) = []
  := by
  obtain ⟨lines, last, rfl, hlines, hlast⟩ := exists_eq_ended bytes
  have hmore : ended lines ++ last ++ (line ++ [10]) = ended (lines ++ [last ++ line]) ++ [] := by
    simp [ended]
  have hlong : 10 ∉ last ++ line := by
    simp [hlast, hline]
  have hended : ∀ other ∈ lines ++ [last ++ line], 10 ∉ other :=
    List.forall_mem_append.mpr ⟨hlines, List.forall_mem_singleton.mpr hlong⟩
  rw [hmore, endedLines, openLine, endedLines, openLine, splitOn_ended hlines hlast,
    splitOn_ended hended List.not_mem_nil]
  simp

theorem endedLines_append_ended (hlines : ∀ line ∈ lines, 10 ∉ line)
    (hbytes : openLine bytes = []) :
  endedLines (bytes ++ ended lines) = endedLines bytes ++ lines
    ∧ openLine (bytes ++ ended lines) = []
  := by
  induction lines generalizing bytes with
  | nil => simp [ended, hbytes]
  | cons line lines ih =>
      rw [List.forall_mem_cons] at hlines
      obtain ⟨hended, hopen⟩ := endedLines_append hlines.1 bytes
      have hrest := ih hlines.2 hopen
      rw [hended, hbytes] at hrest
      simpa [ended] using hrest

/-- Lines that are appended to bytes go on with the open line and stand behind it one by one. -/
theorem byteLines_append_ended_cons (hline : 10 ∉ line) (hlines : ∀ line ∈ lines, 10 ∉ line)
    (bytes : List UInt8) :
  byteLines (bytes ++ ended (line :: lines)) = endedLines bytes ++ (openLine bytes ++ line) :: lines
  := by
  obtain ⟨hended, hopen⟩ := endedLines_append hline bytes
  obtain ⟨hrest, hclosed⟩ := endedLines_append_ended hlines hopen
  have hmore : bytes ++ ended (line :: lines) = bytes ++ (line ++ [10]) ++ ended lines := by
    simp [ended]
  rw [byteLines, hmore, hrest, hclosed, hended]
  simp

/-- Appended lines are lines of their own behind the earlier ones just where no line was left
open. -/
theorem byteLines_append_ended_iff (hlines : ∀ line ∈ lines, 10 ∉ line) :
  byteLines (bytes ++ ended lines) = byteLines bytes ++ lines ↔ lines = [] ∨ openLine bytes = []
  := by
  cases lines with
  | nil => simp [ended]
  | cons line lines =>
      rw [List.forall_mem_cons] at hlines
      rw [byteLines_append_ended_cons hlines.1 hlines.2, byteLines]
      constructor
      · intro h
        by_contra hopen
        have hlength := congrArg List.length h
        simp_all
      · intro h
        obtain h | h := h
        · cases h
        · simp [h]

end Text

end JoinBench
