import JoinBench.CommandLine.GenData
import JoinBench.Proofs.Oracle.Experiment
import JoinBench.Proofs.Oracle.Files
import JoinBench.Proofs.Text

/-!
# The generator and the oracle

Run once for each source with the parameters of an experiment, the command prints the tables
whose join the oracle expects: the names of the sources come apart at the commas as they were
put together, both draw the same tables, and each table is read back from what is printed of it.
-/

namespace JoinBench.GenData

/-! ### Names of sources -/

/-- A name that keeps its place in a list of names between commas: it is neither empty nor has it
a comma or a blank at either end. -/
structure IsPlain (name : String) : Prop where
  ne_empty : name ≠ ""
  notMem_comma : ',' ∉ name.toList
  isBlank_head : ∀ c ∈ name.toList.head?, Text.isBlank c = false
  isBlank_last : ∀ c ∈ name.toList.getLast?, Text.isBlank c = false

theorem isPlain_iff {name : String} :
  IsPlain name ↔ name ≠ "" ∧ ',' ∉ name.toList ∧ name.toList.head?.all (!Text.isBlank ·)
    ∧ name.toList.getLast?.all (!Text.isBlank ·)
  := by
  simp only [Option.all_eq_true, Bool.not_eq_true', ← Option.mem_def]
  constructor
  · intro h
    exact ⟨h.ne_empty, h.notMem_comma, h.isBlank_head, h.isBlank_last⟩
  · rintro ⟨hne, hcomma, hhead, hlast⟩
    exact ⟨hne, hcomma, hhead, hlast⟩

instance (name : String) : Decidable (IsPlain name) :=
  decidable_of_iff' _ isPlain_iff

theorem IsPlain.trim_eq {name : String} (h : IsPlain name) :
  Text.trim name = name
  := by
  rw [Text.trim, Text.trimBlanks_eq_self h.isBlank_head h.isBlank_last, String.ofList_toList]

/-- The arguments that ask for the data of an experiment. -/
def Arguments.ofExperiment (sources : List RoleId) (rows joinSize seed : Nat) (id : String) :
    Arguments :=
  ⟨String.intercalate "," (sources.map RoleId.text), .generate rows, some joinSize, some seed, id⟩

variable {sources : List RoleId} {rows joinSize seed fresh : Nat} {id : String}
  {content : String → Except FileProblem ByteArray} {tables : List Table}

/-- Plain names come apart as they were put together. -/
theorem sources_ofExperiment (hplain : ∀ source ∈ sources, IsPlain source.text) :
  (Arguments.ofExperiment sources rows joinSize seed id).sources = sources
  := by
  have hnames : (Arguments.ofExperiment sources rows joinSize seed id).sources
    = (((((String.intercalate "," (sources.map RoleId.text)).split ',').toList.map (·.copy)).map
        Text.trim).filter (· ≠ "")).map RoleId.mk := by
    rw [List.map_map]
    rfl
  have hsplit := String.toList_split_intercalate (c := ',') (l := sources.map RoleId.text) (by
    intro name hname
    obtain ⟨source, hsource, rfl⟩ := List.mem_map.mp hname
    exact (hplain source hsource).notMem_comma)
  have hcomma : String.singleton ',' = "," := rfl
  rw [hcomma] at hsplit
  rw [hnames, hsplit]
  by_cases hsources : sources = []
  · subst hsources
    rfl
  · have htrim : (sources.map RoleId.text).map Text.trim = sources.map RoleId.text := by
      rw [List.map_map]
      apply List.map_congr_left
      intro source hsource
      exact (hplain source hsource).trim_eq
    have hfilter : (sources.map RoleId.text).filter (· ≠ "") = sources.map RoleId.text := by
      rw [List.filter_eq_self]
      intro name hname
      obtain ⟨source, hsource, rfl⟩ := List.mem_map.mp hname
      simpa using (hplain source hsource).ne_empty
    rw [if_neg (by simpa using hsources), htrim, hfilter, List.map_map]
    apply List.map_id

/-! ### The tables of an experiment -/

/-- The command draws the tables that the oracle draws. -/
theorem tables_ofExperiment (sources : List RoleId) (rows joinSize seed : Nat) (id : String) :
  GenData.tables Random.stream content (.ofExperiment sources rows joinSize seed id)
      (.ofSeed seed)
    = (Experiment.tables (Arguments.ofExperiment sources rows joinSize seed id).sources rows
        joinSize seed).mapError .failed
  := by
  have htables : ∀ names, Experiment.tables names rows joinSize seed
    = (Experiment.controlJoinSize Random.stream joinSize
        (Experiment.generate Random.stream names rows (.ofSeed seed)).1
        (Experiment.generate Random.stream names rows (.ofSeed seed)).2).map (·.1) :=
    fun _ => rfl
  rw [htables, GenData.tables]
  generalize (Arguments.ofExperiment sources rows joinSize seed id).sources = names
  have horigin : originTables Random.stream content names (.generate rows) (.ofSeed seed)
    = .ok (Experiment.generate Random.stream names rows (.ofSeed seed)) := rfl
  simp only [Arguments.ofExperiment, horigin, Bind.bind, Except.bind]
  generalize Experiment.generate Random.stream names rows (.ofSeed seed) = drawn
  cases Experiment.controlJoinSize Random.stream joinSize drawn.1 drawn.2 with
  | ok shrunk => rfl
  | error e => rfl

/-- For an experiment with sources the command fails where the oracle does; else it prints what
it is asked for of the tables that the oracle draws. -/
theorem output_ofExperiment (hsources : sources ≠ [])
    (hplain : ∀ source ∈ sources, IsPlain source.text) :
  output fresh content (.ofExperiment sources rows joinSize seed id)
    = ((Experiment.tables sources rows joinSize seed).bind (print sources id)).mapError .failed
  := by
  have hnames :
      (Arguments.ofExperiment sources rows joinSize seed id).sources = sources :=
    sources_ofExperiment hplain
  have hne : sources.isEmpty = false := by
    rw [List.isEmpty_eq_false_iff]
    exact hsources
  have houtput : output fresh content (.ofExperiment sources rows joinSize seed id)
    = (GenData.tables Random.stream content (.ofExperiment sources rows joinSize seed id)
        (.ofSeed seed)).bind fun tables => (print sources id tables).mapError .failed := by
    rw [output, outputFrom, hnames, hne]
    rfl
  rw [houtput, tables_ofExperiment, hnames]
  cases Experiment.tables sources rows joinSize seed with
  | ok tables => rfl
  | error e => rfl

/-! ### What is printed -/

theorem find?_zip (hdistinct : sources.Nodup) {k : Nat} {source : RoleId} {t : Table}
    (hsource : sources[k]? = some source) (ht : tables[k]? = some t) :
  (sources.zip tables).find? (·.1.text = source.text) = some (source, t)
  := by
  induction sources generalizing tables k with
  | nil => cases hsource
  | cons first rest ih =>
      obtain ⟨hfirst, hrest⟩ := List.nodup_cons.mp hdistinct
      cases tables with
      | nil => cases ht
      | cons t' tables =>
          cases k with
          | zero =>
              cases hsource
              cases ht
              rw [List.zip_cons_cons, List.find?_cons_of_pos (by simp)]
          | succ k =>
              have hne : first.text ≠ source.text := by
                intro htext
                have hsame : first = source := by
                  cases first
                  cases source
                  cases htext
                  rfl
                rw [hsame] at hfirst
                exact hfirst (List.mem_of_getElem? hsource)
              rw [List.zip_cons_cons, List.find?_cons_of_neg (by simpa using hne)]
              apply ih hrest hsource ht

/-- For the name of a source its table is printed. -/
theorem print_source (hdistinct : sources.Nodup) {k : Nat} {source : RoleId} {t : Table}
    (hsource : sources[k]? = some source) (ht : tables[k]? = some t) :
  print sources source.text tables = t.toCsv
  := by
  rw [print, find?_zip hdistinct hsource ht]

/-- For any other name the join is printed. -/
theorem print_join (hid : ∀ source ∈ sources, source.text ≠ id) (tables : List Table) :
  print sources id tables = Table.joinToCsv sources (Table.join tables)
  := by
  have hnone : (sources.zip tables).find? (·.1.text = id) = none := by
    rw [List.find?_eq_none]
    intro entry hentry
    simpa using hid entry.1 (List.of_mem_zip hentry).1
  rw [print, hnone]

/-! ### Runs of an experiment -/

/-- What the command prints is read back as one table. -/
def PrintsTable (args : Arguments) (t : Table) : Prop :=
  ∃ text, (∀ fresh content, output fresh content args = .ok text)
    ∧ Table.ofCsv (.ofContent text.toUTF8) 1 = .ok [t]

/-- What the command prints is read back as a header and the entries of a join, each with its key
in front of its values. -/
def PrintsJoin (args : Arguments) (header : List String) (joined : Joined) : Prop :=
  ∃ text, (∀ fresh content, output fresh content args = .ok text)
    ∧ (Csv.Input.ofContent text.toUTF8).uniform
      = .ok header :: joined.map fun entry => .ok (entry.1 :: entry.2)

/-- Without sources the command fails, although the oracle does not. -/
theorem output_nil (rows joinSize seed : Nat) (id : String) (fresh : Nat)
    (content : String → Except FileProblem ByteArray) :
  output fresh content (.ofExperiment [] rows joinSize seed id) = .error .noSources
  := by
  have hnames : (Arguments.ofExperiment [] rows joinSize seed id).sources = [] := by
    apply sources_ofExperiment
    intro source hsource
    cases hsource
  rw [output, outputFrom, hnames]
  rfl

theorem printsTable_of_getElem? (hsources : sources ≠ []) (hdistinct : sources.Nodup)
    (hplain : ∀ source ∈ sources, IsPlain source.text)
    (htables : Experiment.tables sources rows joinSize seed = .ok tables) {k : Nat}
    {source : RoleId} {t : Table} (hsource : sources[k]? = some source)
    (ht : tables[k]? = some t) :
  PrintsTable (.ofExperiment sources rows joinSize seed source.text) t
  := by
  obtain ⟨text, htext, hread⟩ := Table.exists_toCsv t
  refine ⟨text, ?_, hread⟩
  intro fresh content
  rw [output_ofExperiment hsources hplain, htables, Except.bind,
    print_source hdistinct hsource ht, htext]
  rfl

theorem printsJoin_of_notMem (hsources : sources ≠ [])
    (hplain : ∀ source ∈ sources, IsPlain source.text)
    (htables : Experiment.tables sources rows joinSize seed = .ok tables)
    (hid : ∀ source ∈ sources, source.text ≠ id) :
  PrintsJoin (.ofExperiment sources rows joinSize seed id)
    (Table.keyColumn :: sources.map Table.valueColumnOf) (Table.join tables)
  := by
  obtain ⟨text, htext, hread⟩ :=
    Table.exists_joinToCsv (Experiment.length_of_tables htables)
  refine ⟨text, ?_, hread⟩
  intro fresh content
  rw [output_ofExperiment hsources hplain, htables, Except.bind, print_join hid, htext]
  rfl

/-- Where the oracle has tables, every run prints something. -/
theorem exists_output_eq_ok (hsources : sources ≠ []) (hdistinct : sources.Nodup)
    (hplain : ∀ source ∈ sources, IsPlain source.text)
    (htables : Experiment.tables sources rows joinSize seed = .ok tables) :
  ∃ text, output fresh content (.ofExperiment sources rows joinSize seed id) = .ok text
  := by
  by_cases hid : ∃ source ∈ sources, source.text = id
  · obtain ⟨source, hsource, rfl⟩ := hid
    obtain ⟨k, hk⟩ := List.mem_iff_getElem?.mp hsource
    have hlt : k < tables.length := by
      rw [Experiment.length_of_tables htables]
      exact (List.getElem?_eq_some_iff.mp hk).1
    obtain ⟨text, htext, -⟩ := printsTable_of_getElem? hsources hdistinct hplain htables hk
      (List.getElem?_eq_getElem hlt)
    exact ⟨text, htext fresh content⟩
  · push Not at hid
    obtain ⟨text, htext, -⟩ := printsJoin_of_notMem hsources hplain htables hid
    exact ⟨text, htext fresh content⟩

theorem output_eq_error_iff (hsources : sources ≠ []) (hdistinct : sources.Nodup)
    (hplain : ∀ source ∈ sources, IsPlain source.text) {failure : Failure} :
  output fresh content (.ofExperiment sources rows joinSize seed id) = .error failure
    ↔ ∃ e, failure = .failed e
      ∧ Experiment.expectedResult sources rows joinSize seed = .error e
  := by
  simp only [Experiment.expectedResult_eq_error]
  cases htables : Experiment.tables sources rows joinSize seed with
  | ok tables =>
      obtain ⟨text, htext⟩ := exists_output_eq_ok hsources hdistinct hplain htables
      rw [htext]
      simp
  | error e =>
      rw [output_ofExperiment hsources hplain, htables]
      simp [Except.bind, Except.mapError, eq_comm]

/-- Run for distinct plain sources with the parameters of an experiment, the command fails where
the oracle does, with the same error.  Where the oracle expects a result, the tables that are
printed for the sources join to it, and so does the join that is printed for any other name.
Without sources the command always fails. -/
theorem output_spec (hdistinct : sources.Nodup)
    (hplain : ∀ source ∈ sources, IsPlain source.text) (rows joinSize seed : Nat) :
  (∀ id fresh content failure,
    output fresh content (.ofExperiment sources rows joinSize seed id) = .error failure
      ↔ sources = [] ∧ failure = .noSources
        ∨ ∃ e, failure = .failed e
          ∧ Experiment.expectedResult sources rows joinSize seed = .error e)
  ∧ ∀ expected, Experiment.expectedResult sources rows joinSize seed = .ok expected →
    (∃ tables,
      List.Forall₂ (fun source t =>
          PrintsTable (.ofExperiment sources rows joinSize seed source.text) t) sources tables
        ∧ Table.rows (Table.join tables) = expected)
    ∧ (sources ≠ [] → ∀ id, (∀ source ∈ sources, source.text ≠ id) →
      ∃ joined,
        PrintsJoin (.ofExperiment sources rows joinSize seed id)
            (Table.keyColumn :: sources.map Table.valueColumnOf) joined
          ∧ Table.rows joined = expected)
  := by
  constructor
  · intro id fresh content failure
    by_cases hsources : sources = []
    · subst hsources
      rw [output_nil, Experiment.expectedResult_nil]
      simp [eq_comm]
    · rw [output_eq_error_iff hsources hdistinct hplain]
      simp [hsources]
  · intro expected hexpected
    obtain ⟨tables, htables, hrows⟩ := Experiment.expectedResult_eq_ok.mp hexpected
    have hlength := Experiment.length_of_tables htables
    constructor
    · refine ⟨tables, ?_, hrows⟩
      rw [List.forall₂_iff_get]
      refine ⟨hlength.symm, ?_⟩
      intro k hk ht
      have hsources : sources ≠ [] := List.length_pos_iff.mp (Nat.zero_lt_of_lt hk)
      apply printsTable_of_getElem? hsources hdistinct hplain htables
      · apply List.getElem?_eq_getElem hk
      · apply List.getElem?_eq_getElem ht
    · intro hsources id hid
      exact ⟨Table.join tables, printsJoin_of_notMem hsources hplain htables hid, hrows⟩

/-- Sources whose values have to be written between quotes. -/
def quotedSources : List RoleId :=
  [⟨"a\"b"⟩, ⟨"c\nd"⟩]

theorem output_spec_quotedSources :
  ∃ expected, Experiment.expectedResult quotedSources 3 1 7 = .ok expected
    ∧ (∃ tables,
      List.Forall₂ (fun source t =>
          PrintsTable (.ofExperiment quotedSources 3 1 7 source.text) t) quotedSources tables
        ∧ Table.rows (Table.join tables) = expected)
    ∧ ∃ joined,
      PrintsJoin (.ofExperiment quotedSources 3 1 7 "join") ["uid", "val-a\"b", "val-c\nd"] joined
        ∧ Table.rows joined = expected
  := by
  obtain ⟨expected, hexpected⟩ :=
    Experiment.exists_expectedResult_eq_ok (show 1 < 3 by decide)
      (show 2 ≤ quotedSources.length by decide) 7
  have hplain : ∀ source ∈ quotedSources, IsPlain source.text := by decide
  have hspec := (output_spec (by decide) hplain 3 1 7).2 expected hexpected
  exact ⟨expected, hexpected, hspec.1, hspec.2 (by decide) "join" (by decide)⟩

/-- Without sources there is a result to expect, but the command fails. -/
theorem output_nil_disagrees :
  List.Nodup ([] : List RoleId) ∧ (∀ source ∈ ([] : List RoleId), IsPlain source.text)
  ∧ ¬ ((∃ failure, output 0 (fun _ => .error .notFound) (.ofExperiment [] 3 1 7 "join")
        = .error failure)
      ↔ ∃ e, Experiment.expectedResult [] 3 1 7 = .error e)
  := by
  refine ⟨List.nodup_nil, ?_, ?_⟩
  · intro source hsource
    cases hsource
  · intro hiff
    obtain ⟨e, he⟩ := hiff.mp ⟨_, output_nil 3 1 7 "join" 0 _⟩
    rw [Experiment.expectedResult_nil] at he
    cases he

end JoinBench.GenData
