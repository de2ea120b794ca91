/- Module: Sunbolt/Library/SipHash
   scope: general
   digest: SipHash with one round for each word and three at the end, over lists of bytes. -/

import Mathlib.Data.UInt

set_option autoImplicit false
set_option relaxedAutoImplicit false

namespace Sunbolt.Library.SipHash

/-- The four words the rounds mix. -/
structure State where
  v0 : UInt64
  v1 : UInt64
  v2 : UInt64
  v3 : UInt64
  deriving DecidableEq

def rotateLeft (word : UInt64) (bits : UInt64) : UInt64 :=
  (word <<< bits) ||| (word >>> (64 - bits))

/-- The two halves of a round work on one pair of words each and then meet crosswise. -/
def State.round (s : State) : State :=
  let v0 := s.v0 + s.v1
  let v1 := rotateLeft s.v1 13 ^^^ v0
  let v2 := s.v2 + s.v3
  let v3 := rotateLeft s.v3 16 ^^^ v2
  let v0 := rotateLeft v0 32 + v3
  let v2 := v2 + v1
  ⟨v0, rotateLeft v1 17 ^^^ v2, rotateLeft v2 32, rotateLeft v3 21 ^^^ v0⟩

def initial (key0 key1 : UInt64) : State :=
  ⟨key0 ^^^ 0x736f6d6570736575, key1 ^^^ 0x646f72616e646f6d, key0 ^^^ 0x6c7967656e657261,
    key1 ^^^ 0x7465646279746573⟩

def State.absorb (s : State) (word : UInt64) : State :=
  let t := State.round { s with v3 := s.v3 ^^^ word }
  { t with v0 := t.v0 ^^^ word }

/-- The word of up to eight bytes, the first one lowest. -/
def littleEndian (bytes : List UInt8) : UInt64 :=
  bytes.foldr (fun byte word => word * 256 + UInt64.ofNat byte.toNat) 0

/-- Absorb all full words; what is left has fewer than eight bytes. -/
def absorbWords (s : State) : List UInt8 → State × List UInt8
  | b0 :: b1 :: b2 :: b3 :: b4 :: b5 :: b6 :: b7 :: rest =>
    absorbWords (s.absorb (littleEndian [b0, b1, b2, b3, b4, b5, b6, b7])) rest
  | rest => (s, rest)

/-- The last word holds the bytes left over and, in its highest byte, the length. -/
def lastWord (rest : List UInt8) (length : Nat) : UInt64 :=
  littleEndian rest + UInt64.ofNat (length % 256) * 0x100000000000000

def State.finish (s : State) : UInt64 :=
  let t := State.round (State.round (State.round { s with v2 := s.v2 ^^^ 0xff }))
  t.v0 ^^^ t.v1 ^^^ t.v2 ^^^ t.v3

def hash (key0 key1 : UInt64) (bytes : List UInt8) : UInt64 :=
  let (s, rest) := absorbWords (initial key0 key1) bytes
  (s.absorb (lastWord rest bytes.length)).finish

end Sunbolt.Library.SipHash
