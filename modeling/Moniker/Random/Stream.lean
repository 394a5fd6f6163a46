import Moniker.Random.ChaCha
import Moniker.Random.Chance

/-!
# Random streams

A stream is a key together with a position: the number of the next block and
the words of the current block that were not used yet.  A stream is made from a
seed of 64 bits or split off from another stream, and gives words or numbers
below a bound.
-/

namespace Moniker

structure Stream where
  key : ChaCha.Key
  nextBlock : Nat := 0
  pending : List UInt32 := []
  deriving DecidableEq

namespace Stream

def word (s : Stream) : UInt32 × Stream :=
  match s.pending with
  | w :: rest => (w, { s with pending := rest })
  | [] =>
      let words := ChaCha.block s.key s.nextBlock
      (words[0], { s with nextBlock := s.nextBlock + 1, pending := words.toList.tail })

def takeWords : Nat -> Stream -> List UInt32 × Stream
  | 0, s => ([], s)
  | n + 1, s =>
      let (w, s) := s.word
      let (rest, s) := takeWords n s
      (w :: rest, s)

/-!
# Seeds

A seed is stretched to a key by a linear congruential generator whose state is
permuted into 32 bits at every step.
-/

def stretch (state : UInt64) : UInt64 :=
  state * 6364136223846793005 + 11634580027462260723

/-- The mixed middle bits of the state, rotated right by its five top bits. -/
def permute (state : UInt64) : UInt32 :=
  let mixed := (((state >>> 18) ^^^ state) >>> 27).toUInt32
  let turn := (state >>> 59).toUInt32
  if turn = 0 then mixed else ChaCha.rotateLeft mixed (32 - turn)

def stretched (seed : UInt64) : Nat -> UInt64
  | 0 => seed
  | n + 1 => stretch (stretched seed n)

def ofSeed (seed : UInt64) : Stream :=
  { key := Vector.ofFn fun i => permute (stretched seed (i.val + 1)) }

/-- The next eight words of a stream are the key of the stream that it splits off. -/
def split (master : Stream) : Stream × Stream :=
  let (words, master) := takeWords 8 master
  ({ key := Vector.ofFn fun i => words.getD i.val 0 }, master)

/-!
# Numbers below a bound

A word is scaled to the bound by a multiplication, the number being the high
half of the product.  If the low half shows that the word lies too near to the
next number, a second word decides.  Bounds of more than 32 bits take words of 64
bits, which are made of two.
-/

def word32 (s : Stream) : Fin UInt32.size × Stream :=
  (s.word.1.toFin, s.word.2)

/-- The first word is the low half. -/
def word64 (s : Stream) : Fin UInt64.size × Stream :=
  let (low, s) := s.word
  let (high, s) := s.word
  ((high.toUInt64 <<< 32 ||| low.toUInt64).toFin, s)

section Scaling

variable {size : Nat} (w : Fin size) (n : Nat)

theorem scaled_lt (h : 0 < n) : w * n / size < n :=
  Nat.div_lt_of_lt_mul (Nat.mul_lt_mul_of_pos_right w.isLt h)

theorem scaled_succ_lt (hlow : size - n < w * n % size) : w * n / size + 1 < n := by
  have hmul : (w + 1) * n ≤ size * n := Nat.mul_le_mul_right n w.isLt
  have hmod : w * n % size < size := Nat.mod_lt _ (Nat.zero_lt_of_lt w.isLt)
  have hsplit : size * (w * n / size) + w * n % size = w * n := Nat.div_add_mod _ _
  rw [Nat.add_mul, Nat.one_mul] at hmul
  refine Nat.lt_of_mul_lt_mul_left (a := size) ?_
  rw [Nat.mul_add, Nat.mul_one]
  omega

end Scaling

def scaled {size : Nat} (word : Stream -> Fin size × Stream) (n : Nat) (h : 0 < n)
    (s : Stream) : Fin n × Stream :=
  let (w, s) := word s
  if hlow : size - n < w * n % size then
    let (v, s) := word s
    if size ≤ w * n % size + v * n / size then
      (⟨w * n / size + 1, scaled_succ_lt w n hlow⟩, s)
    else
      (⟨w * n / size, scaled_lt w n h⟩, s)
  else
    (⟨w * n / size, scaled_lt w n h⟩, s)

def below (n : Nat) (h : 0 < n) (s : Stream) : Fin n × Stream :=
  if n < UInt32.size then scaled word32 n h s else scaled word64 n h s

end Stream

instance : Chance Stream where
  ofSeed := Stream.ofSeed
  split := Stream.split
  below := Stream.below

end Moniker
