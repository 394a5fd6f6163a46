import Moniker.Text

/-!
# UTF-8

A text is encoded character by character.  Decoding accepts exactly the encoded
texts: a character must have its shortest form, and its number must be that of
a character, so halves of surrogate pairs are refused.
-/

namespace Moniker
namespace Utf8

def encode (s : Text) : List UInt8 :=
  s.flatMap String.utf8EncodeChar

/-- The six bits of a byte that continues a character. -/
def continuation? (b : UInt8) : Option Nat :=
  if 0x80 ≤ b ∧ b < 0xC0 then some (b.toNat - 0x80) else none

/-- The character with this number, if it has at least the given number. -/
def scalar? (least n : Nat) : Option Char :=
  if least ≤ n ∧ n.isValidChar then some (Char.ofNat n) else none

def decode : List UInt8 -> Option Text
  | [] => some []
  | a :: rest =>
      if a < 0x80 then
        (decode rest).map (Char.ofNat a.toNat :: ·)
      else if 0xC0 ≤ a ∧ a < 0xE0 then
        match rest with
        | b :: rest => do
            let x ← continuation? b
            let c ← scalar? 0x80 ((a.toNat - 0xC0) * 64 + x)
            (decode rest).map (c :: ·)
        | _ => none
      else if 0xE0 ≤ a ∧ a < 0xF0 then
        match rest with
        | b :: d :: rest => do
            let x ← continuation? b
            let y ← continuation? d
            let c ← scalar? 0x800 (((a.toNat - 0xE0) * 64 + x) * 64 + y)
            (decode rest).map (c :: ·)
        | _ => none
      else if 0xF0 ≤ a ∧ a < 0xF8 then
        match rest with
        | b :: d :: e :: rest => do
            let x ← continuation? b
            let y ← continuation? d
            let z ← continuation? e
            let c ← scalar? 0x10000 ((((a.toNat - 0xF0) * 64 + x) * 64 + y) * 64 + z)
            (decode rest).map (c :: ·)
        | _ => none
      else
        none

end Utf8
end Moniker
