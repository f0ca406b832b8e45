import OpenFlow.Flow
import OpenFlow.Lib.ByteOrder

/-! The table-driven CRC of udatapath/crc32.c, used by the hash tables to pick a bucket from the bytes of
struct flow (everything before `wildcards` in struct sw_flow_key). -/
namespace OpenFlow

structure Crc32 where
  table : UInt8 → UInt32

/- The `j` loop of crc32_init: shift the register left, folding the polynomial in whenever the bit shifted out
was set. -/
def shiftIn (polynomial : UInt32) : Nat → UInt32 → UInt32
  | 0, reg => reg
  | j + 1, reg =>
    let topBit := reg &&& 0x80000000 != 0
    let reg := reg <<< 1
    shiftIn polynomial j (if topBit then reg ^^^ polynomial else reg)

def crc32Init (polynomial : UInt32) : Crc32 :=
  ⟨fun i => shiftIn polynomial 8 (i.toUInt32 <<< 24)⟩

def crc32Calculate (crc : Crc32) (data : List UInt8) : UInt32 :=
  data.foldl (fun result b => (result <<< 8) ^^^ crc.table ((result >>> 24).toUInt8 ^^^ b)) 0

/- The 36 bytes of struct flow in memory, every field in network order. -/
def flowBytes (f : Flow) : List UInt8 :=
  BigEndian.ofUInt32 f.nwSrc ++ BigEndian.ofUInt32 f.nwDst ++ BigEndian.ofUInt16 f.inPort ++
  BigEndian.ofUInt16 f.dlVlan ++ BigEndian.ofUInt16 f.dlType ++ BigEndian.ofUInt16 f.tpSrc ++
  BigEndian.ofUInt16 f.tpDst ++ f.dlSrc.toList ++ f.dlDst.toList ++
  [f.dlVlanPcp,f.nwTos,f.nwProto] ++ f.pad.toList

end OpenFlow
