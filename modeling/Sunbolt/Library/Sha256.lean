/- Module: Sunbolt/Library/Sha256
   scope: general
   digest: SHA-256 as a computable function on lists of bytes, for runs on fixed inputs. -/

import Mathlib.Algebra.Group.Nat.Defs
import Mathlib.Data.List.Basic

set_option autoImplicit false
set_option relaxedAutoImplicit false

namespace Sunbolt.Library.Sha256

/-! Words are numbers below `2 ^ 32`. -/

def word (n : Nat) : Nat := n % 2 ^ 32

def rotateRight (n x : Nat) : Nat := word (x >>> n ||| x <<< (32 - n))

def smallSigma0 (x : Nat) : Nat := rotateRight 7 x ^^^ rotateRight 18 x ^^^ x >>> 3
def smallSigma1 (x : Nat) : Nat := rotateRight 17 x ^^^ rotateRight 19 x ^^^ x >>> 10
def bigSigma0 (x : Nat) : Nat := rotateRight 2 x ^^^ rotateRight 13 x ^^^ rotateRight 22 x
def bigSigma1 (x : Nat) : Nat := rotateRight 6 x ^^^ rotateRight 11 x ^^^ rotateRight 25 x

def choose (x y z : Nat) : Nat := x &&& y ^^^ (2 ^ 32 - 1 - x) &&& z
def majority (x y z : Nat) : Nat := x &&& y ^^^ x &&& z ^^^ y &&& z

structure State where
  a : Nat
  b : Nat
  c : Nat
  d : Nat
  e : Nat
  f : Nat
  g : Nat
  h : Nat

def initial : State where
  a := 0x6a09e667
  b := 0xbb67ae85
  c := 0x3c6ef372
  d := 0xa54ff53a
  e := 0x510e527f
  f := 0x9b05688c
  g := 0x1f83d9ab
  h := 0x5be0cd19

def roundConstants : List Nat :=
  [0x428a2f98, 0x71374491, 0xb5c0fbcf, 0xe9b5dba5, 0x3956c25b, 0x59f111f1, 0x923f82a4, 0xab1c5ed5,
    0xd807aa98, 0x12835b01, 0x243185be, 0x550c7dc3, 0x72be5d74, 0x80deb1fe, 0x9bdc06a7, 0xc19bf174,
    0xe49b69c1, 0xefbe4786, 0x0fc19dc6, 0x240ca1cc, 0x2de92c6f, 0x4a7484aa, 0x5cb0a9dc, 0x76f988da,
    0x983e5152, 0xa831c66d, 0xb00327c8, 0xbf597fc7, 0xc6e00bf3, 0xd5a79147, 0x06ca6351, 0x14292967,
    0x27b70a85, 0x2e1b2138, 0x4d2c6dfc, 0x53380d13, 0x650a7354, 0x766a0abb, 0x81c2c92e, 0x92722c85,
    0xa2bfe8a1, 0xa81a664b, 0xc24b8b70, 0xc76c51a3, 0xd192e819, 0xd6990624, 0xf40e3585, 0x106aa070,
    0x19a4c116, 0x1e376c08, 0x2748774c, 0x34b0bcb5, 0x391c0cb3, 0x4ed8aa4a, 0x5b9cca4f, 0x682e6ff3,
    0x748f82ee, 0x78a5636f, 0x84c87814, 0x8cc70208, 0x90befffa, 0xa4506ceb, 0xbef9a3f7, 0xc67178f2]

def round (s : State) (constant scheduled : Nat) : State :=
  let t1 := s.h + bigSigma1 s.e + choose s.e s.f s.g + constant + scheduled
  let t2 := bigSigma0 s.a + majority s.a s.b s.c
  ⟨word (t1 + t2), s.a, s.b, s.c, word (s.d + t1), s.e, s.f, s.g⟩

/-- The word of the schedule that comes sixteen places after the first of the window. -/
def scheduleNext (window : List Nat) : Nat :=
  word (smallSigma1 (window.getD 14 0) + window.getD 9 0 + smallSigma0 (window.getD 1 0) +
    window.getD 0 0)

/-- The rounds over the rest of the constants; the window holds the next sixteen words. -/
def rounds : List Nat → State → List Nat → State
  | [], s, _ => s
  | constant :: constants, s, window =>
    rounds constants (round s constant (window.getD 0 0)) (window.drop 1 ++ [scheduleNext window])

def compress (s : State) (block : List Nat) : State :=
  let r := rounds roundConstants s block
  ⟨word (s.a + r.a), word (s.b + r.b), word (s.c + r.c), word (s.d + r.d), word (s.e + r.e),
    word (s.f + r.f), word (s.g + r.g), word (s.h + r.h)⟩

def ofBytes : List UInt8 → List Nat
  | a :: b :: c :: d :: rest =>
    (a.toNat * 2 ^ 24 + b.toNat * 2 ^ 16 + c.toNat * 2 ^ 8 + d.toNat) :: ofBytes rest
  | _ => []

def toBytes (n : Nat) : List UInt8 :=
  [UInt8.ofNat (n >>> 24), UInt8.ofNat (n >>> 16), UInt8.ofNat (n >>> 8), UInt8.ofNat n]

/-- A one bit, zeros up to the last eight bytes of a block, and the number of bits. -/
def padded (message : List UInt8) : List Nat :=
  ofBytes (message ++ 0x80 :: List.replicate ((119 - message.length % 64) % 64) 0) ++
    [word (8 * message.length / 2 ^ 32), word (8 * message.length)]

/-- So many blocks of sixteen words each. -/
def blocks : Nat → State → List Nat → State
  | 0, s, _ => s
  | n + 1, s, words => blocks n (compress s (words.take 16)) (words.drop 16)

def sha256 (message : List UInt8) : List UInt8 :=
  let s := blocks ((message.length + 72) / 64) initial (padded message)
  [s.a, s.b, s.c, s.d, s.e, s.f, s.g, s.h].flatMap toBytes

theorem length_sha256 (message : List UInt8) : (sha256 message).length = 32 := rfl

example : sha256 [0x61, 0x62, 0x63] =
    [0xba, 0x78, 0x16, 0xbf, 0x8f, 0x01, 0xcf, 0xea, 0x41, 0x41, 0x40, 0xde, 0x5d, 0xae, 0x22, 0x23,
      0xb0, 0x03, 0x61, 0xa3, 0x96, 0x17, 0x7a, 0x9c, 0xb4, 0x10, 0xff, 0x61, 0xf2, 0x00, 0x15,
      0xad] := by
  decide +kernel

end Sunbolt.Library.Sha256
