/-!
# The Mersenne Twister

A generator of 32-bit words whose state is 624 words, seeded by a whole number of any size. The
same seed always gives the same words.
-/

namespace RpcSession.Random

def stateSize : Nat := 624

structure MersenneTwister where
  words : Array UInt32
  /-- The number of words of the state that have been given out. -/
  position : Nat

namespace MersenneTwister

private def word (words : Array UInt32) (index : Nat) : UInt32 := words.getD index 0

/-! ## Seeding -/

private def stir (previous : UInt32) : UInt32 := previous ^^^ (previous >>> 30)

def spread (seed : UInt32) : Array UInt32 :=
  (List.range (stateSize - 1)).foldl
    (fun words index =>
      words.push (1812433253 * stir (word words index) + UInt32.ofNat (index + 1)))
    #[seed]

/-- Goes round the state from the second word on: each word is replaced by what `change` makes of
its place, of the stirred word before it and of itself. -/
def sweep (change : (index : Nat) → (previous current : UInt32) → UInt32) :
    (steps index : Nat) → Array UInt32 → Nat × Array UInt32
  | 0, index, words => (index, words)
  | steps + 1, index, words =>
      let changed := change index (stir (word words (index - 1))) (word words index)
      let words := words.setIfInBounds index changed
      if index + 1 < stateSize then sweep change steps (index + 1) words
      else sweep change steps 1 (words.setIfInBounds 0 (word words (stateSize - 1)))

def seedWords : (fuel seed : Nat) → List UInt32
  | 0, _ => []
  | fuel + 1, seed =>
      let rest := seed / Nat.pow 2 32
      UInt32.ofNat seed :: if rest = 0 then [] else seedWords fuel rest

/-- Mixes the words of a key into the state, round and round. -/
private def mixKey (key : Array UInt32) : (steps place index : Nat) → Array UInt32 →
    Nat × Array UInt32
  | 0, _, index, words => (index, words)
  | steps + 1, place, index, words =>
      let place := if place < key.size then place else 0
      let change := fun _ previous current =>
        (current ^^^ previous * 1664525) + word key place + UInt32.ofNat place
      let (index, words) := sweep change 1 index words
      mixKey key steps (place + 1) index words

def ofSeed (seed : Int) : MersenneTwister :=
  let magnitude := seed.natAbs
  let key := (seedWords (magnitude.log2 / 32 + 1) magnitude).toArray
  let (index, words) := mixKey key (max stateSize key.size) 0 1 (spread 19650218)
  let change := fun index previous current =>
    (current ^^^ previous * 1566083941) - UInt32.ofNat index
  let (_, words) := sweep change (stateSize - 1) index words
  { words := words.setIfInBounds 0 0x80000000, position := stateSize }

/-! ## Words -/

def twist (words : Array UInt32) : Array UInt32 :=
  (List.range stateSize).foldl
    (fun words index =>
      let joined := (word words index &&& 0x80000000) |||
        (word words ((index + 1) % stateSize) &&& 0x7fffffff)
      let twisted := word words ((index + 397) % stateSize) ^^^ (joined >>> 1)
      words.setIfInBounds index
        (if joined &&& 1 = 0 then twisted else twisted ^^^ 0x9908b0df))
    words

def temper (word : UInt32) : UInt32 :=
  let word := word ^^^ (word >>> 11)
  let word := word ^^^ ((word <<< 7) &&& 0x9d2c5680)
  let word := word ^^^ ((word <<< 15) &&& 0xefc60000)
  word ^^^ (word >>> 18)

def next (generator : MersenneTwister) : UInt32 × MersenneTwister :=
  let generator :=
    if generator.position < stateSize then generator
    else { words := twist generator.words, position := 0 }
  (temper (word generator.words generator.position),
    { generator with position := generator.position + 1 })

/-! ## Whole numbers in a range -/

def bitLength (number : Nat) : Nat := if number = 0 then 0 else number.log2 + 1

/-- A number below `bound`: the highest bits of a word, as many as the bound has, drawn anew while
they reach the bound. -/
def below (bound : Nat) : (fuel : Nat) → MersenneTwister → Nat × MersenneTwister
  | 0, generator => (0, generator)
  | fuel + 1, generator =>
      let (word, generator) := generator.next
      let number := word.toNat >>> (32 - bitLength bound)
      if number < bound then (number, generator) else below bound fuel generator

def drawLimit : Nat := 10000

def between (low high : Nat) (generator : MersenneTwister) : Nat × MersenneTwister :=
  let (number, generator) := below (high - low + 1) drawLimit generator
  (low + number, generator)

def nthBetween (low high : Nat) (generator : MersenneTwister) : (count : Nat) → Nat
  | 0 => (generator.between low high).1
  | count + 1 => nthBetween low high (generator.between low high).2 count

end MersenneTwister

end RpcSession.Random
