/-!
# Random draws

A source of random numbers: numbers given in advance, and behind them those of a linear
congruential generator. What is made at random is written once, for all monads in which numbers can
be drawn; campaigns run in `Draw`.
-/

namespace CommandLine.Fuzz

/-- A source of random numbers, and how many were taken from it. -/
structure Source where
  state : UInt64
  given : List Int
  taken : Nat

/-- A source with a seed, of which the lowest 64 bits count. -/
def Source.ofSeed (seed : Int) (given : List Int) : Source :=
  ⟨UInt64.ofNat (seed % 18446744073709551616).toNat, given, 0⟩

/-- The next number of a source, and the source behind it. Only numbers that are given in advance
can be negative. -/
def Source.next (s : Source) : Int × Source :=
  match s.given with
  | n :: rest => (n, { s with given := rest, taken := s.taken + 1 })
  | [] =>
    let state := s.state * 6364136223846793005 + 1442695040888963407
    (((state >>> 11).toNat : Int), { s with state := state, taken := s.taken + 1 })

/-- A monad in which random numbers are drawn. -/
class Drawing (m : Type → Type) where
  /-- The next random number. -/
  next : m Int
  /-- A choice from nothing. -/
  nothing : m Nat

/-- A computation that takes numbers from a source. -/
abbrev Draw := StateM Source

/-- A draw always gives something, so that a choice from nothing is one of no meaning here. Where
such choices fail it can be shown that none is made. -/
instance : Drawing Draw where
  next := Source.next
  nothing := pure 0

namespace Draw

variable {m : Type → Type} [Monad m] [Drawing m] {α : Type}

/-- How many steps there are from zero to one. -/
def grain : Nat := Nat.pow 2 31

/-- A number of steps from zero to one, one excluded. -/
def fraction : m Nat := do return ((← Drawing.next) % (grain : Int)).toNat

/-- Whether a number of steps from zero lies before a number of percent. -/
def isBelow (steps percent : Nat) : Bool := 100 * steps < percent * grain

/-- True in so many of a hundred cases. -/
def chance (percent : Nat) : m Bool := do return isBelow (← fraction) percent

/-- A number below another one. There is none below zero. -/
def below (n : Nat) : m Nat :=
  if n = 0 then Drawing.nothing else do return ((← Drawing.next) % (n : Int)).toNat

/-- A number from one on and below another one. -/
def within (low beyond : Nat) : m Nat := do return low + (← below (beyond - low))

/-- A number from one to another one, both included. -/
def between (low high : Nat) : m Nat := within low (high + 1)

/-- An integer at most so far from zero. -/
def around (distance : Nat) : m Int := do
  let steps ← between 0 (2 * distance)
  return (steps : Int) - distance

/-- An element of a list. -/
def pick [Inhabited α] (xs : List α) : m α := do return xs.getD (← below xs.length) default

/-- A draw made a number of times. -/
def times : Nat → m α → m (List α)
  | 0, _ => return []
  | n + 1, draw => do
    let x ← draw
    return x :: (← times n draw)

end Draw

end CommandLine.Fuzz
