import JoinBench.Proofs.Json.RoundTrip

/-!
# Texts of one line

The compact text of a value, doubles included, has no characters below the space.  So it has no
line ends, and is a line of its own wherever it is written.
-/

namespace JoinBench.Json

open Decimal (Binary Digits Double shortestDigits)

variable {c : Char} {cs more : List Char} {pieces : List (List Char)}

/-- Without characters below the space. -/
def IsOneLine (cs : List Char) : Prop :=
  ∀ c ∈ cs, ' ' ≤ c

@[simp]
theorem isOneLine_nil :
  IsOneLine []
  := List.forall_mem_nil _

@[simp]
theorem isOneLine_cons :
  IsOneLine (c :: cs) ↔ ' ' ≤ c ∧ IsOneLine cs
  := List.forall_mem_cons

@[simp]
theorem isOneLine_append :
  IsOneLine (cs ++ more) ↔ IsOneLine cs ∧ IsOneLine more
  := List.forall_mem_append

theorem IsOneLine.subset (h : IsOneLine more) (hsubset : cs ⊆ more) :
  IsOneLine cs
  := fun c hc => h c (hsubset hc)

theorem IsOneLine.lineFeed_notMem (h : IsOneLine cs) :
  '\n' ∉ cs
  := fun hmem => absurd (h _ hmem) (by decide)

theorem IsOneLine.carriageReturn_notMem (h : IsOneLine cs) :
  '\r' ∉ cs
  := fun hmem => absurd (h _ hmem) (by decide)

theorem isOneLine_replicate (n : Nat) (hc : ' ' ≤ c) :
  IsOneLine (List.replicate n c)
  := by
  intro d hd
  rw [(List.mem_replicate.mp hd).2]
  exact hc

theorem isOneLine_separated (first : Bool) (hpieces : ∀ piece ∈ pieces, IsOneLine piece) :
  IsOneLine (separated first pieces)
  := by
  induction pieces generalizing first with
  | nil => exact isOneLine_nil
  | cons piece pieces ih =>
      rw [List.forall_mem_cons] at hpieces
      have hcomma : IsOneLine (comma first) := by
        cases first <;> simp [comma]
      simp [separated, hcomma, hpieces.1, ih false hpieces.2]

/-! ### Numbers -/

theorem isOneLine_toDigits (n : Nat) :
  IsOneLine (Nat.toDigits 10 n)
  := by
  intro c hc
  have hdigit := isDigit_of_mem_toDigits hc
  simp only [Char.isDigit, Bool.and_eq_true, decide_eq_true_eq] at hdigit
  exact Nat.le_trans (by decide) hdigit.1

theorem isOneLine_renderInt (i : Int) :
  IsOneLine (renderInt i)
  := by
  rw [renderInt]
  split <;> simp [isOneLine_toDigits]

theorem isOneLine_shortestDigits (x : Binary) :
  IsOneLine (shortestDigits x).digits
  := by
  rw [shortestDigits]
  simp only
  generalize hfound : List.findSome? _ _ = found
  cases found with
  | none => simp
  | some digits =>
      obtain ⟨n, -, hn⟩ := List.exists_of_findSome?_eq_some hfound
      obtain ⟨scaled, -, rfl⟩ := Option.map_eq_some_iff.mp hn
      apply (isOneLine_toDigits scaled).subset
      intro c hc
      have hkept := List.mem_reverse.mp hc
      exact List.mem_reverse.mp ((List.dropWhile_sublist _).mem hkept)

theorem isOneLine_renderPositional {d : Digits} (hd : IsOneLine d.digits) :
  IsOneLine (renderPositional d)
  := by
  have hzeros : ∀ n, IsOneLine (List.replicate n '0') := fun n => isOneLine_replicate n (by decide)
  have htake := fun n => hd.subset (List.take_subset n d.digits)
  have hdrop := fun n => hd.subset (List.drop_subset n d.digits)
  rw [renderPositional]
  split
  · simp [hzeros, hd]
  · simp only
    split
    · simp [hzeros, hd]
    · simp [htake, hdrop]

theorem isOneLine_renderScientific {d : Digits} (hd : IsOneLine d.digits) :
  IsOneLine (renderScientific d)
  := by
  rw [renderScientific]
  simp only [isOneLine_append, isOneLine_cons]
  refine ⟨?_, by decide, ?_, isOneLine_toDigits _⟩
  · split
    · simp
    · next hone =>
      rw [← hone]
      exact hd
    · next hmany =>
      rw [hmany] at hd
      simpa using hd
  · split <;> decide

theorem isOneLine_renderDouble (x : Double) :
  IsOneLine (renderDouble x)
  := by
  have hdigits := isOneLine_shortestDigits x.magnitude
  have hmagnitude : IsOneLine
      (if x.magnitude.mantissa = 0 then ['0', '.', '0'] else
        let d := shortestDigits x.magnitude
        if -5 < d.point ∧ d.point ≤ 16 then renderPositional d else renderScientific d) := by
    split
    · simp
    · simp only
      split
      · exact isOneLine_renderPositional hdigits
      · exact isOneLine_renderScientific hdigits
  rw [renderDouble]
  split
  · exact isOneLine_cons.mpr ⟨by decide, hmagnitude⟩
  · exact hmagnitude

/-! ### Values -/

theorem isOneLine_escape (c : Char) :
  IsOneLine (escape c)
  := by
  unfold escape
  split
  iterate 7 simp
  split
  · next hcontrol =>
    obtain ⟨d, e, hhex, -, hd, he⟩ := fourHex_control c.toNat hcontrol
    simp [hhex, hd, he]
  · next hcontrol =>
    have hspace : ' ' ≤ c := Nat.le_of_not_lt hcontrol
    simp [hspace]

theorem isOneLine_renderText (s : String) :
  IsOneLine (renderText s)
  := by
  have hbody : IsOneLine (s.toList.flatMap escape) := by
    intro c hc
    obtain ⟨d, -, hc⟩ := List.mem_flatMap.mp hc
    exact isOneLine_escape d c hc
  simp [renderText, hbody]

theorem isOneLine_objectText {members : List (String × List Char)}
    (hmembers : ∀ m ∈ members, IsOneLine m.2) :
  IsOneLine (objectText members)
  := by
  have hpieces : IsOneLine (separated true (members.map memberText)) := by
    apply isOneLine_separated
    rw [List.forall_mem_map]
    intro m hm
    simp [memberText, isOneLine_renderText, hmembers m hm]
  rw [objectText]
  simp only [isOneLine_append, isOneLine_cons, isOneLine_nil, hpieces]
  decide

theorem isOneLine_render (v : Json) :
  IsOneLine (render v)
  := by
  induction every_true v with
  | @intro v _ _ ih =>
      cases v with
      | null => simp [render]
      | bool value => cases value <;> simp [render]
      | int i => exact isOneLine_renderInt i
      | double x => exact isOneLine_renderDouble x
      | text s => exact isOneLine_renderText s
      | list items =>
          have hitems : IsOneLine (separated true (items.map render)) := by
            apply isOneLine_separated
            rw [List.forall_mem_map]
            exact ih
          simp [render, renderItems_eq, hitems]
      | object members =>
          rw [render_object]
          apply isOneLine_objectText
          rw [List.forall_mem_map]
          exact fun m hm => ih m.2 (List.mem_map_of_mem hm)

end JoinBench.Json
