import OpenFlow.Flow
import OpenFlow.Lib.ByteOrder

/-! Packet buffers (lib/ofpbuf.c) and the parser that reads a flow key out of an Ethernet frame (flow_extract,
lib/flow.c). -/
namespace OpenFlow

structure Ofpbuf where
  mem : List UInt8
  data : Nat
  size : Nat
  l2 : Option Nat
  l3 : Option Nat
  l4 : Option Nat
  l7 : Option Nat
  deriving DecidableEq, Repr

namespace Ofpbuf

def headroom (b : Ofpbuf) : Nat := b.data

def contents (b : Ofpbuf) : List UInt8 := (b.mem.drop b.data).take b.size

/- Bytes `bytes` written from offset `off` of the allocated area. -/
def write (b : Ofpbuf) (off : Nat) (bytes : List UInt8) : Ofpbuf :=
  { b with mem := b.mem.take off ++ bytes ++ b.mem.drop (off + bytes.length) }

def byteAt (b : Ofpbuf) (off : Nat) : UInt8 := b.mem.getD off 0

def get16At (b : Ofpbuf) (off : Nat) : UInt16 := BigEndian.get16 b.mem off

def get32At (b : Ofpbuf) (off : Nat) : UInt32 := BigEndian.get32 b.mem off

def put16At (b : Ofpbuf) (off : Nat) (v : UInt16) : Ofpbuf := b.write off (BigEndian.ofUInt16 v)

def bytesAt (b : Ofpbuf) (off n : Nat) : List UInt8 := (b.mem.drop off).take n

/- Loads and stores through a uint16_t or uint32_t pointer, in host order. -/
def load16At (b : Ofpbuf) (off : Nat) : UInt16 := LittleEndian.get16 b.mem off

def load32At (b : Ofpbuf) (off : Nat) : UInt32 := LittleEndian.get32 b.mem off

def store16At (b : Ofpbuf) (off : Nat) (v : UInt16) : Ofpbuf := b.write off (LittleEndian.ofUInt16 v)

def store32At (b : Ofpbuf) (off : Nat) (v : UInt32) : Ofpbuf := b.write off (LittleEndian.ofUInt32 v)

end Ofpbuf

def ofpbufNew (size : Nat) : Ofpbuf := ⟨List.replicate size 0,0,0,none,none,none,none⟩

/- ofpbuf_put: grow the area by max(size, 64) when the tail has no room, then copy. -/
def ofpbufPut (b : Ofpbuf) (bytes : List UInt8) : Ofpbuf :=
  let tailroom := b.mem.length - (b.data + b.size)
  let b := if bytes.length > tailroom then
      { b with mem := b.mem ++ List.replicate (max bytes.length 64) 0 } else b
  { b.write (b.data + b.size) bytes with size := b.size + bytes.length }

def ofpbufCloneData (bytes : List UInt8) : Ofpbuf := ofpbufPut (ofpbufNew bytes.length) bytes

def ofpbufClone (b : Ofpbuf) : Ofpbuf := ofpbufCloneData b.contents

/- ofpbuf_push_uninit: ofpbuf_prealloc_headroom only asserts that the room is there; `none` is that assertion
failing. -/
def ofpbufPushUninit (b : Ofpbuf) (size : Nat) : Option Ofpbuf :=
  if size ≤ b.headroom then some { b with data := b.data - size,size := b.size + size } else none

def ethHeaderLen : Nat := 14
def llcHeaderLen : Nat := 3
def snapHeaderLen : Nat := 5
def vlanHeaderLen : Nat := 4
def ipHeaderLen : Nat := 20
def tcpHeaderLen : Nat := 20
def udpHeaderLen : Nat := 8
def icmpHeaderLen : Nat := 4
def arpEthHeaderLen : Nat := 28
def ofpDlTypeEth2Cutoff : UInt16 := 0x0600
def ofpDlTypeNotEthType : UInt16 := 0x05ff

def ethAddrAt (bs : List UInt8) (off : Nat) : EthAddr := Vector.ofFn fun i => bs.getD (off + i) 0

/- The frame type and where the next header starts, for Ethernet II and for 802.2 with or without SNAP; `none`
when the 802.2 LLC header is cut short. -/
def linkType (bs : List UInt8) (size : Nat) : Option (UInt16 × Nat) :=
  let ethType := BigEndian.get16 bs 12
  if ethType ≥ ofpDlTypeEth2Cutoff then some (ethType,ethHeaderLen)
  else if size < ethHeaderLen + llcHeaderLen then none
  else if size ≥ ethHeaderLen + llcHeaderLen + snapHeaderLen ∧ bs.getD 14 0 = 0xaa ∧ bs.getD 15 0 = 0xaa ∧
      bs.getD 16 0 = 3 ∧ bs.getD 17 0 = 0 ∧ bs.getD 18 0 = 0 ∧ bs.getD 19 0 = 0 then
    some (BigEndian.get16 bs 20,ethHeaderLen + llcHeaderLen + snapHeaderLen)
  else some (ofpDlTypeNotEthType,ethHeaderLen + llcHeaderLen)

/- The transport ports (or ICMP type and code) and the end of the transport header; `none` when the header is
cut short, which makes nw_proto read 0. -/
def transportFields (bs : List UInt8) (size off : Nat) (nwProto : UInt8) : Option (UInt16 × UInt16 × Nat) :=
  if nwProto = ipTypeTcp then
    let tcpLen := (BigEndian.get16 bs (off + 12) >>> 12).toNat * 4
    if size - off ≥ tcpHeaderLen ∧ tcpLen ≥ tcpHeaderLen ∧ size - off ≥ tcpLen then
      some (BigEndian.get16 bs off,BigEndian.get16 bs (off + 2),off + tcpLen)
    else none
  else if nwProto = ipTypeUdp then
    if size - off ≥ udpHeaderLen then some (BigEndian.get16 bs off,BigEndian.get16 bs (off + 2),off + udpHeaderLen)
    else none
  else if size - off ≥ icmpHeaderLen then
    some ((bs.getD off 0).toUInt16,(bs.getD (off + 1) 0).toUInt16,off + icmpHeaderLen)
  else none

/- Returns whether the frame is an IP fragment, the key, and the packet with its layer pointers set. -/
def flowExtract (packet : Ofpbuf) (inPort : UInt16) : Bool × Flow × Ofpbuf :=
  let bs := packet.contents
  let size := packet.size
  let flow : Flow := ⟨0,0,inPort,ofpVlanNone,0,0,0,Vector.replicate 6 0,Vector.replicate 6 0,0,0,0,Vector.replicate 3 0⟩
  let packet := { packet with l2 := some packet.data,l3 := none,l4 := none,l7 := none }
  if size < ethHeaderLen then (false,flow,packet)
  else match linkType bs size with
  | none => (false,flow,packet)
  | some (dlType,off) =>
    let (dlType,dlVlan,dlVlanPcp,off) :=
      if dlType = ethTypeVlan ∧ size - off ≥ vlanHeaderLen then
        let tci := BigEndian.get16 bs off
        (BigEndian.get16 bs (off + 2),tci &&& 0x0fff,((tci >>> 13) &&& 7).toUInt8,off + vlanHeaderLen)
      else (dlType,flow.dlVlan,flow.dlVlanPcp,off)
    let flow := { flow with dlType,dlVlan,dlVlanPcp,dlSrc := ethAddrAt bs 6,dlDst := ethAddrAt bs 0 }
    let packet := { packet with l3 := some (packet.data + off) }
    if dlType = ethTypeIp then
      let ipLen := ((bs.getD off 0) &&& 15).toNat * 4
      if size - off ≥ ipHeaderLen ∧ ipLen ≥ ipHeaderLen ∧ size - off ≥ ipLen then
        let flow := { flow with
          nwTos := (bs.getD (off + 1) 0) &&& 0xfc
          nwProto := bs.getD (off + 9) 0
          nwSrc := BigEndian.get32 bs (off + 12)
          nwDst := BigEndian.get32 bs (off + 16) }
        let l4 := off + ipLen
        let packet := { packet with l4 := some (packet.data + l4) }
        if BigEndian.get16 bs (off + 6) &&& 0x3fff ≠ 0 then (true,flow,packet)
        else if flow.nwProto = ipTypeTcp ∨ flow.nwProto = ipTypeUdp ∨ flow.nwProto = ipTypeIcmp then
          match transportFields bs size l4 flow.nwProto with
          | some (tpSrc,tpDst,l7) => (false,{ flow with tpSrc,tpDst },{ packet with l7 := some (packet.data + l7) })
          | none => (false,{ flow with nwProto := 0 },packet)
        else (false,flow,packet)
      else (false,flow,packet)
    else if dlType = ethTypeArp then
      if size - off ≥ arpEthHeaderLen then
        let flow := if BigEndian.get16 bs (off + 2) = ethTypeIp ∧ bs.getD (off + 5) 0 = 4 then
            { flow with nwSrc := BigEndian.get32 bs (off + 14),nwDst := BigEndian.get32 bs (off + 24) }
          else flow
        (false,{ flow with nwProto := (BigEndian.get16 bs (off + 6) &&& 0xff).toUInt8 },packet)
      else (false,flow,packet)
    else (false,flow,packet)

/- What flow_extract leaves in the fields a match normalizes: a zero pad, network fields only for IP and ARP,
transport fields only for TCP, UDP and ICMP over IP. -/
structure Extracted (f : Flow) : Prop where
  pad : f.pad = zeroPad
  nonNetwork : f.dlType ≠ ethTypeIp → f.dlType ≠ ethTypeArp → f.nwProto = 0 ∧ f.nwSrc = 0 ∧ f.nwDst = 0
  noTransport : ¬(f.dlType = ethTypeIp ∧ (f.nwProto = ipTypeTcp ∨ f.nwProto = ipTypeUdp ∨ f.nwProto = ipTypeIcmp)) →
    f.tpSrc = 0 ∧ f.tpDst = 0

theorem flowExtractBranches (b : Ofpbuf) (inPort : UInt16) :
    ((flowExtract b inPort).2.2.mem = b.mem ∧ (flowExtract b inPort).2.2.data = b.data ∧
      (flowExtract b inPort).2.2.size = b.size) ∧
    Extracted (flowExtract b inPort).2.1 ∧ (flowExtract b inPort).2.1.inPort = inPort := by
  unfold flowExtract
  dsimp only
  repeat' split
  all_goals exact ⟨⟨rfl,rfl,rfl⟩,⟨rfl,fun notIp notArp => by first | exact ⟨rfl,rfl,rfl⟩ | simp_all,
    fun notTransport => by first | exact ⟨rfl,rfl⟩ | simp_all⟩,rfl⟩

theorem flowExtractFrame (b : Ofpbuf) (inPort : UInt16) :
    (flowExtract b inPort).2.2.mem = b.mem ∧ (flowExtract b inPort).2.2.data = b.data ∧
      (flowExtract b inPort).2.2.size = b.size :=
  (flowExtractBranches b inPort).1

theorem flowExtractInPort (b : Ofpbuf) (inPort : UInt16) : (flowExtract b inPort).2.1.inPort = inPort :=
  (flowExtractBranches b inPort).2.2

theorem flowExtractSameFrame {b b' : Ofpbuf} (mem : b'.mem = b.mem) (data : b'.data = b.data)
    (size : b'.size = b.size) (inPort : UInt16) : flowExtract b' inPort = flowExtract b inPort := by
  cases b
  cases b'
  simp only at mem data size
  subst mem data size
  rfl

theorem ofpbufCloneHeadroom (b : Ofpbuf) : (ofpbufClone b).headroom = 0 := by
  simp [ofpbufClone,ofpbufCloneData,ofpbufPut,ofpbufNew,Ofpbuf.headroom,Ofpbuf.write]

end OpenFlow
