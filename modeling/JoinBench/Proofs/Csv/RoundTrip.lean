import JoinBench.Csv.Reader
import JoinBench.Csv.Writer

/-!
# Reading what was written

The reader goes through a written field to its end and has then read the field, whatever the
characters in it.  So it reads every written record as one record with the same fields, and a
written table as its records.
-/

namespace JoinBench.Csv

/-! ### Where the reader stands -/

/-- Where the reader stands in a text, apart from its lines and bytes.  The current field, the
fields of the current record and the records stand in reverse. -/
structure Progress.Stands (p : Progress Char) (mode : Mode) (field : List Char)
    (fields : List (List Char)) (records : List (List (List Char))) : Prop where
  mode_eq : p.mode = mode
  field_eq : p.field = field
  fields_eq : p.fields = fields
  records_eq : p.records.map Raw.fields = records

variable {p : Progress Char} {mode : Mode} {field : List Char} {fields : List (List Char)}
  {records : List (List (List Char))} {c : Char}

namespace Progress.Stands

theorem initial (skipped : Nat) :
  (Progress.initial skipped).Stands .between [] [] []
  := ⟨rfl, rfl, rfl, rfl⟩

theorem advance (h : p.Stands mode field fields records) (c : Char) :
  (p.advance c).Stands mode field fields records
  := ⟨h.mode_eq, h.field_eq, h.fields_eq, h.records_eq⟩

theorem push (h : p.Stands mode field fields records) (next : Mode) (c : Char) :
  (p.push next c).Stands next (c :: field) fields records
  where
    mode_eq := rfl
    field_eq := by rw [Progress.push, h.field_eq]
    fields_eq := h.fields_eq
    records_eq := h.records_eq

theorem setMode (h : p.Stands mode field fields records) (next : Mode) :
  { p with mode := next }.Stands next field fields records
  := ⟨rfl, h.field_eq, h.fields_eq, h.records_eq⟩

theorem endField (h : p.Stands mode field fields records) :
  p.endField.Stands .opening [] (field.reverse :: fields) records
  where
    mode_eq := rfl
    field_eq := rfl
    fields_eq := by rw [Progress.endField, h.field_eq, h.fields_eq]
    records_eq := h.records_eq

theorem endRecord (h : p.Stands mode field fields records) :
  p.endRecord.Stands .between [] [] ((field.reverse :: fields).reverse :: records)
  where
    mode_eq := rfl
    field_eq := rfl
    fields_eq := rfl
    records_eq := by
      rw [Progress.endRecord, List.map_cons, h.field_eq, h.fields_eq, h.records_eq]

/-! ### Single symbols -/

/-- A character that needs no quotes belongs to the field. -/
theorem step_plain (h : p.Stands mode field fields records) (hmode : mode ≠ .quoted)
    (hc : needsQuotes c = false) :
  (p.step c).Stands .plain (c :: field) fields records
  := by
  have hstep : p.step c = (p.advance c).push .plain c := by
    simp only [needsQuotes, Bool.or_eq_false_iff, decide_eq_false_iff_not] at hc
    obtain ⟨⟨⟨hcomma, hquote⟩, hreturn⟩, hfeed⟩ := hc
    have hat := h.mode_eq
    cases mode <;>
      simp_all [Progress.step, Progress.stepOpening, Progress.isTerminator, Progress.advance,
        Symbol.comma, Symbol.quote, Symbol.lineFeed, Symbol.carriageReturn]
  rw [hstep]
  apply (h.advance c).push

/-- Outside quotes a comma ends the field. -/
theorem step_comma (h : p.Stands mode field fields records) (hmode : mode ≠ .quoted) :
  (p.step ',').Stands .opening [] (field.reverse :: fields) records
  := by
  have hstep : p.step ',' = (p.advance ',').endField := by
    have hat := h.mode_eq
    cases mode <;>
      simp_all [Progress.step, Progress.stepOpening, Progress.isTerminator, Progress.advance,
        Symbol.comma, Symbol.quote, Symbol.lineFeed, Symbol.carriageReturn]
  rw [hstep]
  apply (h.advance ',').endField

/-- Outside quotes, and inside a record, a line feed ends the record. -/
theorem step_lineFeed (h : p.Stands mode field fields records) (hmode : mode ≠ .quoted)
    (hinside : mode ≠ .between) :
  (p.step '\n').Stands .between [] [] ((field.reverse :: fields).reverse :: records)
  := by
  have hstep : p.step '\n' = (p.advance '\n').endRecord := by
    have hat := h.mode_eq
    cases mode <;>
      simp_all [Progress.step, Progress.stepOpening, Progress.isTerminator, Progress.advance,
        Symbol.comma, Symbol.quote, Symbol.lineFeed, Symbol.carriageReturn]
  rw [hstep]
  apply (h.advance '\n').endRecord

/-- A quote at the start of a field opens a quoted one. -/
theorem step_openingQuote (h : p.Stands mode field fields records)
    (hmode : mode = .between ∨ mode = .opening) :
  (p.step '"').Stands .quoted field fields records
  := by
  have hstep : p.step '"' = { p.advance '"' with mode := .quoted } := by
    have hat := h.mode_eq
    rcases hmode with rfl | rfl <;>
      simp_all [Progress.step, Progress.stepOpening, Progress.isTerminator, Progress.advance,
        Symbol.quote, Symbol.lineFeed, Symbol.carriageReturn]
  rw [hstep]
  apply (h.advance '"').setMode

/-- A character other than a quote belongs to the quoted field. -/
theorem step_quoted (h : p.Stands .quoted field fields records) (hc : c ≠ '"') :
  (p.step c).Stands .quoted (c :: field) fields records
  := by
  have hstep : p.step c = (p.advance c).push .quoted c := by
    have hat := h.mode_eq
    simp_all [Progress.step, Progress.advance, Symbol.quote]
  rw [hstep]
  apply (h.advance c).push

theorem step_quotedQuote (h : p.Stands .quoted field fields records) :
  (p.step '"').Stands .closing field fields records
  := by
  have hstep : p.step '"' = { p.advance '"' with mode := .closing } := by
    have hat := h.mode_eq
    simp_all [Progress.step, Progress.advance, Symbol.quote]
  rw [hstep]
  apply (h.advance '"').setMode

/-- A second quote behind the one inside a quoted field stands for a quote. -/
theorem step_closingQuote (h : p.Stands .closing field fields records) :
  (p.step '"').Stands .quoted ('"' :: field) fields records
  := by
  have hstep : p.step '"' = (p.advance '"').push .quoted '"' := by
    have hat := h.mode_eq
    simp_all [Progress.step, Progress.advance, Symbol.quote]
  rw [hstep]
  apply (h.advance '"').push

/-! ### Fields -/

theorem foldl_doubleQuotes (h : p.Stands .quoted field fields records) (cs : List Char) :
  ((doubleQuotes cs).foldl Progress.step p).Stands .quoted (cs.reverse ++ field) fields records
  := by
  induction cs generalizing p field with
  | nil => exact h
  | cons c rest ih =>
      rw [doubleQuotes, List.reverse_cons, List.append_assoc, List.singleton_append]
      by_cases hc : c = '"'
      · subst hc
        apply ih h.step_quotedQuote.step_closingQuote
      · rw [if_neg hc]
        apply ih (h.step_quoted hc)

theorem foldl_plain (h : p.Stands mode field fields records) (hmode : mode ≠ .quoted)
    {cs : List Char} (hne : cs ≠ []) (hcs : ∀ c ∈ cs, needsQuotes c = false) :
  (cs.foldl Progress.step p).Stands .plain (cs.reverse ++ field) fields records
  := by
  induction cs generalizing p mode field with
  | nil => cases hne rfl
  | cons c rest ih =>
      have hstep := h.step_plain hmode (hcs c List.mem_cons_self)
      rw [List.foldl_cons, List.reverse_cons, List.append_assoc, List.singleton_append]
      by_cases hrest : rest = []
      · subst hrest
        exact hstep
      · apply ih hstep (by decide) hrest
        intro d hd
        apply hcs d (List.mem_cons_of_mem c hd)

/-- Behind a written field the reader has its characters, and stands inside a record unless the
field is empty and the record had not begun. -/
theorem foldl_writeField (h : p.Stands mode [] fields records)
    (hmode : mode = .between ∨ mode = .opening) (cs : List Char) :
  ∃ next, ((writeField cs).foldl Progress.step p).Stands next cs.reverse fields records
    ∧ next ≠ .quoted ∧ (next = .between → mode = .between ∧ cs = [])
  := by
  rw [writeField]
  by_cases hquotes : cs.any needsQuotes = true
  · rw [if_pos hquotes, List.foldl_append, List.foldl_cons]
    have hread := (h.step_openingQuote hmode).foldl_doubleQuotes cs
    rw [List.append_nil] at hread
    refine ⟨.closing, hread.step_quotedQuote, by decide, ?_⟩
    intro hnext
    cases hnext
  · rw [if_neg hquotes]
    by_cases hne : cs = []
    · subst hne
      refine ⟨mode, h, ?_⟩
      rcases hmode with rfl | rfl <;> simp
    · have hplain : ∀ c ∈ cs, needsQuotes c = false := by
        simpa using hquotes
      have hopen : mode ≠ .quoted := by
        rcases hmode with rfl | rfl <;> decide
      have hread := h.foldl_plain hopen hne hplain
      rw [List.append_nil] at hread
      refine ⟨.plain, hread, by decide, ?_⟩
      intro hnext
      cases hnext

/-! ### Records -/

/-- Behind written fields and a line feed the record is read. -/
theorem foldl_writeFields {written : List (List Char)} (hwritten : written ≠ [])
    (h : p.Stands mode [] fields records)
    (hmode : mode = .between ∧ written ≠ [[]] ∨ mode = .opening) :
  ((writeFields written ++ ['\n']).foldl Progress.step p).Stands .between [] []
    ((fields.reverse ++ written) :: records)
  := by
  induction written generalizing p mode fields with
  | nil => cases hwritten rfl
  | cons cs rest ih =>
      have hstart : mode = .between ∨ mode = .opening := by
        rcases hmode with ⟨hmode, -⟩ | hmode
        · exact .inl hmode
        · exact .inr hmode
      obtain ⟨next, hread, hquoted, hbetween⟩ := h.foldl_writeField hstart cs
      rw [List.foldl_append]
      cases rest with
      | nil =>
          have hinside : next ≠ .between := by
            intro hnext
            obtain ⟨rfl, rfl⟩ := hbetween hnext
            simp at hmode
          have hend := hread.step_lineFeed hquoted hinside
          rw [List.reverse_cons, List.reverse_reverse] at hend
          exact hend
      | cons second rest =>
          rw [writeFields, List.foldl_append, List.foldl_cons]
          · have hrest := ih (by simp) (hread.step_comma hquoted) (.inr rfl)
            rw [List.reverse_reverse, List.reverse_cons, List.append_assoc,
              List.singleton_append, List.foldl_append] at hrest
            exact hrest
          · simp

/-- A written record is read as one record with its fields. -/
theorem foldl_writeRecord (h : p.Stands .between [] [] records) {row : List String}
    (hrow : row ≠ []) :
  ((writeRecord row).foldl Progress.step p).Stands .between [] []
    (row.map String.toList :: records)
  := by
  rw [writeRecord]
  split
  · next hempty =>
    rw [hempty]
    have hquotes := (h.step_openingQuote (.inl rfl)).step_quotedQuote
    apply hquotes.step_lineFeed (by decide) (by decide)
  · next hone =>
    have hne : row.map String.toList ≠ [] := by
      rw [Ne, List.map_eq_nil_iff]
      exact hrow
    apply h.foldl_writeFields hne (.inl ⟨rfl, hone⟩)

theorem foldl_writeRecords (h : p.Stands .between [] [] records) {rows : List (List String)}
    (hrows : ∀ row ∈ rows, row ≠ []) :
  ((rows.flatMap writeRecord).foldl Progress.step p).Stands .between [] []
    ((rows.map (List.map String.toList)).reverse ++ records)
  := by
  induction rows generalizing p records with
  | nil => exact h
  | cons row rest ih =>
      rw [List.flatMap_cons, List.foldl_append, List.map_cons, List.reverse_cons,
        List.append_assoc, List.singleton_append]
      apply ih (h.foldl_writeRecord (hrows row List.mem_cons_self))
      intro other hother
      apply hrows other (List.mem_cons_of_mem row hother)

end Progress.Stands

/-! ### Tables -/

variable {header : List String} {rows : List (List String)} {text : String}

theorem map_fields_rawRecords (skipped : Nat) (hrows : ∀ row ∈ rows, row ≠ []) :
  (rawRecords skipped (rows.flatMap writeRecord)).map Raw.fields
    = rows.map (List.map String.toList)
  := by
  have hread := (Progress.Stands.initial skipped).foldl_writeRecords hrows
  rw [List.append_nil] at hread
  rw [rawRecords, Progress.finish, hread.mode_eq, List.map_reverse, hread.records_eq,
    List.reverse_reverse]

/-- What a table is written as, where every record has as many fields as the header. -/
theorem write_eq_ok (hlength : ∀ row ∈ rows, row.length = header.length) :
  write header rows = .ok (String.ofList ((header :: rows).flatMap writeRecord))
  := by
  have hnone : rows.find? (fun row => row.length ≠ header.length) = none := by
    rw [List.find?_eq_none]
    intro row hrow
    simp [hlength row hrow]
  rw [write, hnone]
  rfl

theorem map_fields_textRecords {first : Char} (hfirst : (writeRecord header).head? = some first)
    (hmark : first ≠ '\ufeff') (hrows : ∀ row ∈ header :: rows, row ≠ []) :
  (textRecords (String.ofList ((header :: rows).flatMap writeRecord))).map TextRecord.fields
    = header :: rows
  := by
  have hhead : ((header :: rows).flatMap writeRecord).head? = some first := by
    rw [List.flatMap_cons, List.head?_append, hfirst, Option.some_or]
  rw [textRecords, String.toList_ofList, List.map_map]
  split
  · next hmarked =>
    rw [hmarked] at hhead
    cases hhead
    cases hmark rfl
  · have hfields : TextRecord.fields ∘ (fun r : Raw Char => ⟨r.fields.map String.ofList, r.place⟩)
      = List.map String.ofList ∘ Raw.fields := rfl
    rw [hfields, ← List.map_map, map_fields_rawRecords 0 hrows, List.map_map]
    simp [Function.comp_def]

/-- Records of one length are read one after the other. -/
theorem uniform_ofText (hrecords : (textRecords text).map TextRecord.fields = header :: rows)
    (hlength : ∀ row ∈ rows, row.length = header.length) :
  (Input.ofText text).uniform = (header :: rows).map .ok
  := by
  obtain ⟨first, rest, htext, rfl, rfl⟩ := List.map_eq_cons_iff.mp hrecords
  rw [Input.uniform, Input.ofText, htext]
  simp only [List.map_cons, List.map_map]
  congr 1
  apply List.map_congr_left
  intro r hr
  simp [hlength r.fields (List.mem_map_of_mem hr)]

/-- The content of a file that is a text is read as that text. -/
theorem ofContent_toUTF8 (text : String) :
  Input.ofContent text.toUTF8 = .ofText text
  := by
  have htext : String.fromUTF8? text.toUTF8 = some text := dif_pos text.isValidUTF8
  rw [Input.ofContent, htext]

/-- A written table that starts with no byte-order mark is read as its records. -/
theorem uniform_ofContent_write {first : Char} (hwrite : write header rows = .ok text)
    (hfirst : (writeRecord header).head? = some first) (hmark : first ≠ '\ufeff')
    (hheader : header ≠ []) (hlength : ∀ row ∈ rows, row.length = header.length) :
  (Input.ofContent text.toUTF8).uniform = (header :: rows).map .ok
  := by
  have hrows : ∀ row ∈ header :: rows, row ≠ [] := by
    intro row hrow
    rcases List.mem_cons.mp hrow with rfl | hrow
    · exact hheader
    · rw [← List.length_pos_iff, hlength row hrow, List.length_pos_iff]
      exact hheader
  rw [write_eq_ok hlength] at hwrite
  cases hwrite
  rw [ofContent_toUTF8]
  apply uniform_ofText (map_fields_textRecords hfirst hmark hrows) hlength

end JoinBench.Csv
