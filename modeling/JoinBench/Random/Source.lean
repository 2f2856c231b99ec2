/-!
# Sources of random draws

All that the generation of tables draws on: numbers between two bounds, and samples of
different numbers.  What a source has to keep to is `Source.Lawful`; nothing else is assumed
of it.
-/

namespace JoinBench.Random

/-- A source of random draws with states of type `σ`. -/
structure Source (σ : Type) where
  /-- A number between two bounds, both included. -/
  between : (low high : Nat) → σ → Nat × σ
  /-- A number of different numbers below a length, in some order. -/
  sample : (length amount : Nat) → σ → List Nat × σ

/-- What every source promises. -/
structure Source.Lawful (source : Source σ) : Prop where
  low_le_between : ∀ {low high : Nat} (s : σ), low ≤ high → low ≤ (source.between low high s).1
  between_le_high : ∀ {low high : Nat} (s : σ), low ≤ high → (source.between low high s).1 ≤ high
  length_sample : ∀ {length amount : Nat} (s : σ), amount ≤ length →
    (source.sample length amount s).1.length = amount
  nodup_sample : ∀ {length amount : Nat} (s : σ), amount ≤ length →
    (source.sample length amount s).1.Nodup
  lt_of_mem_sample : ∀ {length amount : Nat} (s : σ), amount ≤ length →
    ∀ i ∈ (source.sample length amount s).1, i < length

end JoinBench.Random
