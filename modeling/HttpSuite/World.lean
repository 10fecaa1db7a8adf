/-
HttpSuite/World.lean

What a run sees of the outside: files, environment variables, the clock and a source of random
numbers. It is a value, so that a run is a function of it.
-/
import HttpSuite.Files
import HttpSuite.Calendar

namespace HttpSuite

/-- The outside of a run. -/
structure World where
  files : Files := {}
  environment : Table String := ∅
  /-- The instant that the clock shows. -/
  now : Int := 0
  /-- How many seconds the local clock is east of UTC. -/
  zone : Int := 0
  /-- The directory of the user, as names from the top of the tree. -/
  home : List String := []
  /-- Where the sequence of random numbers starts. -/
  seed : UInt64 := 0

namespace World

/-- The random number at a place of the sequence. -/
def draw (w : World) (place : Nat) : UInt64 :=
  let z := w.seed + (place.toUInt64 + 1) * 0x9E3779B97F4A7C15
  let z := (z ^^^ (z >>> 30)) * 0xBF58476D1CE4E5B9
  let z := (z ^^^ (z >>> 27)) * 0x94D049BB133111EB
  z ^^^ (z >>> 31)

end World

end HttpSuite
