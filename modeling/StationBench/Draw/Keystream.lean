/-!
# Keystreams

A seed of 64 bits and a stream number of 64 bits fix an endless sequence of words of 64 bits. The
seed is stretched to a key of eight words by a permuted congruential generator; the words are
those of the ChaCha stream cipher with eight rounds under that key, its counter running from zero
and the stream number in place of the nonce, two words of 32 bits making one, the low one first.
-/
namespace StationBench.Keystream

/-! ## From a seed to a key -/

/-- One step of the congruential generator. -/
def advance (state : UInt64) : UInt64 := state * 6364136223846793005 + 11634580027462260723

def rotateRight (x : UInt32) (n : UInt32) : UInt32 :=
  (x >>> n) ||| (x <<< ((32 - n) % 32))

/-- The output of a state: shifted bits, rotated by the five highest. -/
def output (state : UInt64) : UInt32 :=
  rotateRight (((state >>> 18) ^^^ state) >>> 27).toUInt32 (state >>> 59).toUInt32

/-- The state after a number of steps. -/
def stateAfter (seed : UInt64) : Nat → UInt64
  | 0 => seed
  | n + 1 => advance (stateAfter seed n)

/-- The eight words of the key that a seed makes. -/
def key (seed : UInt64) : Vector UInt32 8 :=
  Vector.ofFn fun i => output (stateAfter seed (i.val + 1))

/-! ## Blocks -/

abbrev Block := Vector UInt32 16

def rotateLeft (x : UInt32) (n : UInt32) : UInt32 := (x <<< n) ||| (x >>> (32 - n))

/-- Mixes four words of a block. -/
def quarterRound (a b c d : Fin 16) (v : Block) : Block :=
  let v := v.set a (v[a] + v[b])
  let v := v.set d (rotateLeft (v[d] ^^^ v[a]) 16)
  let v := v.set c (v[c] + v[d])
  let v := v.set b (rotateLeft (v[b] ^^^ v[c]) 12)
  let v := v.set a (v[a] + v[b])
  let v := v.set d (rotateLeft (v[d] ^^^ v[a]) 8)
  let v := v.set c (v[c] + v[d])
  v.set b (rotateLeft (v[b] ^^^ v[c]) 7)

/-- A round on the columns and one on the diagonals. -/
def doubleRound (v : Block) : Block :=
  let v := quarterRound 3 7 11 15 (quarterRound 2 6 10 14
    (quarterRound 1 5 9 13 (quarterRound 0 4 8 12 v)))
  quarterRound 3 4 9 14 (quarterRound 2 7 8 13
    (quarterRound 1 6 11 12 (quarterRound 0 5 10 15 v)))

/-- The block before mixing: four constants, the key, the counter and the stream number. -/
def initialBlock (seed stream counter : UInt64) : Block :=
  let k := key seed
  #v[0x61707865, 0x3320646e, 0x79622d32, 0x6b206574,
    k[0], k[1], k[2], k[3], k[4], k[5], k[6], k[7],
    counter.toUInt32, (counter >>> 32).toUInt32, stream.toUInt32, (stream >>> 32).toUInt32]

def block (seed stream counter : UInt64) : Block :=
  let v := initialBlock seed stream counter
  let mixed := doubleRound (doubleRound (doubleRound (doubleRound v)))
  Vector.ofFn fun i => v[i] + mixed[i]

/-- The word of 64 bits of two words of 32. -/
def join (low high : UInt32) : UInt64 := low.toUInt64 ||| (high.toUInt64 <<< 32)

/-- The eight words of 64 bits of a block. -/
def words (seed stream counter : UInt64) : List UInt64 :=
  let b := block seed stream counter
  [join b[0] b[1], join b[2] b[3], join b[4] b[5], join b[6] b[7],
    join b[8] b[9], join b[10] b[11], join b[12] b[13], join b[14] b[15]]

end StationBench.Keystream
