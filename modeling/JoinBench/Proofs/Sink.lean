import JoinBench.Sink
import Mathlib.Tactic.Common

/-!
# What sinks hold

A sink that accepts lines holds them afterwards, each with its line end, behind what it held
before.  A line goes to sinks in their order: either all of them accept it, or the first that
refuses it is the last that is asked.  A sink refuses a line in one of three steps.  Where the write
of the text fails it is as before; where only the write of the line feed fails it holds the text,
which is not a line; and where only the flush fails it holds the line all the same.
-/

namespace JoinBench

namespace Sink

/-- The steps in which a sink gets a line. -/
inductive Step where
  | text
  | lineFeed
  | flush
deriving DecidableEq

variable {line : String} {lines more : List String} {sink sink' : Sink} {step : Step} {e : Error}

/-- Why a step fails after so many flushes. -/
def fault? (sink : Sink) : Step → Nat → Option String
  | .text => sink.writeFault
  | .lineFeed => sink.lineFeedFault
  | .flush => sink.flushFault

/-- The sink with further lines written and flushed, one by one. -/
def holding (lines : List String) (sink : Sink) : Sink :=
  { sink with
    content := sink.content ++ String.join (lines.map (· ++ "\n"))
    flushes := sink.flushes + lines.length }

@[simp]
theorem holding_nil (sink : Sink) :
  sink.holding [] = sink
  := by
  simp [holding]

@[simp]
theorem holding_holding (lines more : List String) (sink : Sink) :
  (sink.holding lines).holding more = sink.holding (lines ++ more)
  := by
  simp only [holding, List.map_append, String.join_append, String.append_assoc, List.length_append,
    Nat.add_assoc]

/-- No step of the next so many lines fails. -/
def Accepts (count : Nat) (sink : Sink) : Prop :=
  ∀ i < count, ∀ step, sink.fault? step (sink.flushes + i) = none

theorem accepts_zero (sink : Sink) :
  sink.Accepts 0
  := by
  intro i hi
  cases hi

theorem accepts_empty (count : Nat) :
  empty.Accepts count
  := by
  rintro i - (_ | _ | _) <;> rfl

theorem accepts_one_iff :
  sink.Accepts 1 ↔ ∀ step, sink.fault? step sink.flushes = none
  := by
  constructor
  · intro h
    exact h 0 Nat.zero_lt_one
  · intro h i hi
    obtain rfl := Nat.lt_one_iff.mp hi
    exact h

/-- A sink accepts lines if it accepts the first of them and, holding these, the others. -/
theorem Accepts.append {count : Nat} (h : sink.Accepts lines.length)
    (hmore : (sink.holding lines).Accepts count) :
  sink.Accepts (lines.length + count)
  := by
  intro i hi
  obtain hlt | hle := Nat.lt_or_ge i lines.length
  · exact h i hlt
  · obtain ⟨j, rfl⟩ := Nat.exists_eq_add_of_le hle
    rw [← Nat.add_assoc]
    exact hmore j (Nat.lt_of_add_lt_add_left hi)

theorem Accepts.mono {count less : Nat} (h : sink.Accepts count) (hle : less ≤ count) :
  sink.Accepts less
  := fun i hi => h i (Nat.lt_of_lt_of_le hi hle)

/-- A sink that holds the first of the lines that it accepts goes on accepting. -/
theorem Accepts.holding {count : Nat} (h : sink.Accepts (lines.length + count)) :
  (sink.holding lines).Accepts count
  := by
  intro i hi
  have hline := h (lines.length + i) (Nat.add_lt_add_left hi _)
  rw [← Nat.add_assoc] at hline
  exact hline

/-- The sink refuses a line in a step with an error, and what it is afterwards. -/
inductive Refuses (line : String) (sink : Sink) : Step → Error → Sink → Prop where
  /-- The write of the text fails and stores nothing. -/
  | text {reason : String} (h : sink.fault? .text sink.flushes = some reason) :
    Refuses line sink .text (.io reason) sink
  /-- The write of the line feed fails behind the text. -/
  | lineFeed {reason : String} (htext : sink.fault? .text sink.flushes = none)
    (h : sink.fault? .lineFeed sink.flushes = some reason) :
    Refuses line sink .lineFeed (.io reason) { sink with content := sink.content ++ line }
  /-- The flush fails behind the line. -/
  | flush {reason : String} (htext : sink.fault? .text sink.flushes = none)
    (hlineFeed : sink.fault? .lineFeed sink.flushes = none)
    (h : sink.fault? .flush sink.flushes = some reason) :
    Refuses line sink .flush (.io reason) (sink.holding [line])

theorem Refuses.fault?_ne_none (h : sink.Refuses line step e sink') :
  sink.fault? step sink.flushes ≠ none
  := by
  cases h <;> simp_all

theorem Refuses.not_accepts (h : sink.Refuses line step e sink') :
  ¬sink.Accepts 1
  := fun haccepts => h.fault?_ne_none (accepts_one_iff.mp haccepts step)

/-- A write of a line that fails stores nothing of it: its line feed never fails alone. -/
def StoresWhole (sink : Sink) : Prop :=
  ∀ n, sink.lineFeedFault n ≠ none → sink.writeFault n ≠ none

theorem Refuses.ne_lineFeed (h : sink.Refuses line step e sink') (hwhole : sink.StoresWhole) :
  step ≠ .lineFeed
  := by
  rintro rfl
  obtain _ | ⟨htext, hlineFeed⟩ | _ := h
  apply hwhole sink.flushes _ htext
  rw [show sink.lineFeedFault sink.flushes = _ from hlineFeed]
  exact Option.some_ne_none _

/-- A sink either accepts a line and holds it, or refuses it. -/
theorem put_cases (line : String) (sink : Sink) :
  (sink.Accepts 1 ∧ sink.put line = (sink.holding [line], .ok ()))
    ∨ ∃ step e sink', sink.Refuses line step e sink' ∧ sink.put line = (sink', .error e)
  := by
  cases htext : sink.writeFault sink.flushes with
  | some reason =>
      right
      use .text, .io reason, sink, .text htext
      simp only [put, writeLine, write, htext]
  | none =>
      cases hlineFeed : sink.lineFeedFault sink.flushes with
      | some reason =>
          right
          refine ⟨.lineFeed, .io reason, _, .lineFeed htext hlineFeed, ?_⟩
          simp only [put, writeLine, write, htext, hlineFeed]
      | none =>
          have hwrite : sink.writeLine line
              = ({ sink with content := sink.content ++ line ++ "\n" }, .ok ()) := by
            simp only [writeLine, write, htext, hlineFeed]
          cases hflush : sink.flushFault sink.flushes with
          | some reason =>
              right
              use .flush, .io reason, sink.holding [line], .flush htext hlineFeed hflush
              simp [put, hwrite, flush, hflush, holding, String.append_assoc]
          | none =>
              left
              constructor
              · rw [accepts_one_iff]
                rintro (_ | _ | _)
                · exact htext
                · exact hlineFeed
                · exact hflush
              · simp [put, hwrite, flush, hflush, holding, String.append_assoc]

end Sink

namespace Sinks

variable {line : String} {lines more : List String} {sinks : Sinks}

@[simp]
theorem map_holding_nil (sinks : Sinks) :
  sinks.map (Sink.holding []) = sinks
  := by
  rw [funext Sink.holding_nil]
  apply List.map_id'

theorem map_holding_holding (lines more : List String) (sinks : Sinks) :
  (sinks.map (Sink.holding lines)).map (Sink.holding more)
    = sinks.map (Sink.holding (lines ++ more))
  := by
  rw [List.map_map]
  apply List.map_congr_left
  intro sink _
  apply Sink.holding_holding

theorem accepts_append (hlines : ∀ sink ∈ sinks, sink.Accepts lines.length)
    (hmore : ∀ sink ∈ sinks.map (Sink.holding lines), sink.Accepts more.length) :
  ∀ sink ∈ sinks, sink.Accepts (lines ++ more).length
  := by
  intro sink hsink
  rw [List.length_append]
  exact (hlines sink hsink).append (hmore _ (List.mem_map_of_mem hsink))

/-- Either all sinks accept a line and hold it, or one refuses it: those before it hold the line
and those behind it are as they were. -/
theorem put_cases (line : String) (sinks : Sinks) :
  ((∀ sink ∈ sinks, sink.Accepts 1) ∧ sinks.put line = (sinks.map (Sink.holding [line]), .ok ()))
    ∨ ∃ ahead sink behind step e sink', sinks = ahead ++ sink :: behind
      ∧ (∀ other ∈ ahead, other.Accepts 1) ∧ sink.Refuses line step e sink'
      ∧ sinks.put line = (ahead.map (Sink.holding [line]) ++ sink' :: behind, .error e)
  := by
  induction sinks with
  | nil =>
      left
      constructor
      · intro sink hsink
        cases hsink
      · rfl
  | cons first rest ih =>
      obtain ⟨hfirst, hput⟩ | ⟨step, e, first', hfirst, hput⟩ := first.put_cases line
      · obtain ⟨hrest, hputs⟩ | ⟨ahead, sink, behind, step, e, sink', rfl, hahead, hsink, hputs⟩ :=
          ih
        · left
          constructor
          · exact List.forall_mem_cons.mpr ⟨hfirst, hrest⟩
          · simp only [put, hput, hputs, List.map_cons]
        · right
          use first :: ahead, sink, behind, step, e, sink', rfl,
            List.forall_mem_cons.mpr ⟨hfirst, hahead⟩, hsink
          simp only [put, hput, hputs, List.map_cons, List.cons_append]
      · right
        use [], first, rest, step, e, first', rfl, List.forall_mem_nil _, hfirst
        simp only [put, hput, List.map_nil, List.nil_append]

theorem put_of_accepts (hsinks : ∀ sink ∈ sinks, sink.Accepts 1) (line : String) :
  sinks.put line = (sinks.map (Sink.holding [line]), .ok ())
  := by
  obtain ⟨-, hput⟩ | ⟨ahead, sink, behind, step, e, sink', rfl, -, hrefuses, -⟩ :=
    put_cases line sinks
  · exact hput
  · cases hrefuses.not_accepts (hsinks sink List.mem_append_cons_self)

end Sinks

end JoinBench
