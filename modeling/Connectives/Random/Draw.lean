/-!
# Connectives — drawing lots

A `Draw` is a computation that tosses coins and picks numbers. It says what follows from each
outcome and leaves open where the outcomes come from, so what may come of it can be told apart from
what a generator of numbers happens to give.

* `Seed` — a generator of numbers that scatters a counter over all words of 64 bits. Equal seeds
  give equal numbers.
* `Draw.run` — the result for the outcomes of a generator, which may be any.
-/

namespace Connectives

/-- A computation that draws lots. -/
inductive Draw (α : Type) where
  /-- No more lots are drawn. -/
  | pure (a : α)
  /-- A coin is tossed that comes up true in so many of ten cases. -/
  | coin (tenths : Nat) (next : Bool → Draw α)
  /-- One of the numbers below a bound is picked, each as likely as the others. -/
  | pick (bound : Nat) (next : Nat → Draw α)

namespace Draw

variable {α β : Type}

/-- Goes on with the result. -/
def bind : Draw α → (α → Draw β) → Draw β
  | pure a, k => k a
  | coin tenths next, k => coin tenths fun b => (next b).bind k
  | pick bound next, k => pick bound fun n => (next n).bind k

instance : Monad Draw where
  pure := pure
  bind := bind

/-- Tosses a coin. -/
def toss (tenths : Nat) : Draw Bool :=
  coin tenths pure

/-- Picks a number. -/
def choose (bound : Nat) : Draw Nat :=
  pick bound pure

end Draw

-- ---------------------------------------------------------------------------
-- Outcomes
-- ---------------------------------------------------------------------------

/-- The state of a generator of numbers. -/
structure Seed where
  state : UInt64
  deriving DecidableEq, Repr

namespace Seed

/-- The seed with a number. -/
def ofNat (n : Nat) : Seed :=
  ⟨UInt64.ofNat n⟩

/-- Scatters the bits of a word; different words stay different. -/
def scatter (z : UInt64) : UInt64 :=
  let z := (z ^^^ (z >>> 30)) * 0xBF58476D1CE4E5B9
  let z := (z ^^^ (z >>> 27)) * 0x94D049BB133111EB
  z ^^^ (z >>> 31)

/-- The next number. The step of the counter is odd, so it takes every value before it repeats. -/
def next (s : Seed) : Nat × Seed :=
  let state := s.state + 0x9E3779B97F4A7C15
  ((scatter state).toNat, ⟨state⟩)

end Seed

/-- The result for the numbers that a generator gives, and the generator for what comes next. -/
def Draw.run {σ α : Type} (next : σ → Nat × σ) : Draw α → σ → α × σ
  | .pure a, s => (a, s)
  | .coin tenths k, s =>
    let (n, s) := next s
    (k (n % 10 < tenths)).run next s
  | .pick bound k, s =>
    let (n, s) := next s
    (k (n % bound)).run next s

end Connectives
