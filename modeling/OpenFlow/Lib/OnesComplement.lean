import Mathlib
import OpenFlow.Lib.ByteOrder

/-! Ones'-complement sums of 16-bit words, the arithmetic of the Internet checksum and of its incremental
update (RFC 1624). -/
namespace OnesComplement

abbrev Residue := ZMod 65535

section Fold

end Fold

section Window
variable {α : Type*}

end Window

/- The ones'-complement sum of the words of a byte string, as csum_continue adds them. -/
def bytesSum : List UInt8 → Residue
  | b0 :: b1 :: rest => ((b0.toNat + 256 * b1.toNat : Nat) : Residue) + bytesSum rest
  | [b] => (b.toNat : Residue)
  | [] => 0

section Sum

end Sum

section EndAround

/- The Internet checksum's addition of two 16-bit words: the carry out of the top bit is added back at the
bottom. -/
def onesAdd (a b : UInt16) : UInt16 := if a.toNat + b.toNat < 65536 then a + b else a + b + 1

/- The ones'-complement sum of a list of words, and its complement, the Internet checksum. -/
def onesSum (ws : List UInt16) : UInt16 := ws.foldl onesAdd 0

def internetChecksum (ws : List UInt16) : UInt16 := ~~~(onesSum ws)

/- The value an end-around-carry sum of words adding up to `s` takes: 0 for no weight at all, and otherwise
the representative of `s` modulo 65535 in 1..65535. -/
def endAround (s : Nat) : Nat := if s = 0 then 0 else (s - 1) % 65535 + 1

end EndAround

end OnesComplement
