namespace ScriptVeil.Mask

def seedStep (state : UInt64) : UInt64 :=
  state * 6364136223846793005 + 11634580027462260723

def rotateLeft (x : UInt32) (n : UInt32) : UInt32 :=
  (x <<< n) ||| (x >>> (32 - n))

def rotateRight (x : UInt32) (n : UInt32) : UInt32 :=
  (x >>> n) ||| (x <<< ((32 - n) % 32))

/-- The word that a state of the generator gives out: a xorshift, rotated by the top five bits. -/
def seedWord (state : UInt64) : UInt32 :=
  rotateRight (((state >>> 18) ^^^ state) >>> 27).toUInt32 (state >>> 59).toUInt32

def seedWords : Nat → UInt64 → List UInt32
  | 0, _ => []
  | n + 1, state =>
    let next := seedStep state
    seedWord next :: seedWords n next

/-- The cipher's state: four constants, eight key words, a 64-bit counter and a zero nonce. -/
structure Block where
  words : Vector UInt32 16

namespace Block

def initial (key : List UInt32) (counter : UInt64) : Block :=
  let k (i : Nat) : UInt32 := key.getD i 0
  ⟨#v[0x61707865, 0x3320646E, 0x79622D32, 0x6B206574,
      k 0, k 1, k 2, k 3, k 4, k 5, k 6, k 7,
      counter.toUInt32, (counter >>> 32).toUInt32, 0, 0]⟩

def quarterRound (b : Block) (i j k l : Fin 16) : Block :=
  let w := b.words
  let a := w[i] + w[j]
  let d := rotateLeft (w[l] ^^^ a) 16
  let c := w[k] + d
  let e := rotateLeft (w[j] ^^^ c) 12
  let a := a + e
  let d := rotateLeft (d ^^^ a) 8
  let c := c + d
  let e := rotateLeft (e ^^^ c) 7
  ⟨(((w.set i a).set j e).set k c).set l d⟩

def doubleRound (b : Block) : Block :=
  let b := b.quarterRound 0 4 8 12
  let b := b.quarterRound 1 5 9 13
  let b := b.quarterRound 2 6 10 14
  let b := b.quarterRound 3 7 11 15
  let b := b.quarterRound 0 5 10 15
  let b := b.quarterRound 1 6 11 12
  let b := b.quarterRound 2 7 8 13
  b.quarterRound 3 4 9 14

/-- The output of the cipher: the state after six double rounds, added to the state before them. -/
def output (b : Block) : Vector UInt32 16 :=
  b.words.zipWith (· + ·) (Nat.repeat doubleRound 6 b).words

end Block

def keystreamWord (key : List UInt32) (i : Nat) : UInt32 :=
  (Block.initial key (i / 16).toUInt64).output[i % 16]

/-- The `i`-th 64-bit draw of a seed: two consecutive words, the low half first. -/
def seededDraw (seed : UInt64) : Nat → UInt64 :=
  let key := seedWords 8 seed
  fun i => (keystreamWord key (2 * i)).toUInt64 |||
    ((keystreamWord key (2 * i + 1)).toUInt64 <<< 32)

end ScriptVeil.Mask
