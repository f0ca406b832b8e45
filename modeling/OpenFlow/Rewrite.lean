import OpenFlow.Forwarding

/-! What the set-field actions of udatapath/dp_act.c do to the checksums of the packet they rewrite. -/
namespace OpenFlow.Rewrite
open OnesComplement Actions Chain Execute FlowMod Datapath Forwarding

section Buffers
variable (b : Ofpbuf)

variable {b}

end Buffers

/- IP_IHL(ip_ihl_ver) * 4: the length of the IP header at `l3`. -/
def ipHeaderLength (b : Ofpbuf) (l3 : Nat) : Nat := ((b.byteAt l3) &&& 15).toNat * 4

/- The ones'-complement sum of the IP header at `l3`, its checksum included. -/
def ipHeaderSum (b : Ofpbuf) (l3 : Nat) : Residue := bytesSum (b.bytesAt l3 (ipHeaderLength b l3))

/- The header checksum is right when that sum is zero. -/
def IpCsumValid (b : Ofpbuf) (l3 : Nat) : Prop := ipHeaderSum b l3 = 0

instance (b : Ofpbuf) (l3 : Nat) : Decidable (IpCsumValid b l3) := inferInstanceAs (Decidable (_ = _))

/- Where flow_extract leaves `l3` for an IPv4 packet: a header of at least 20 bytes, all inside the buffer. -/
structure IpHeaderAt (b : Ofpbuf) (l3 : Nat) : Prop where
  minimal : ipHeaderLen ≤ ipHeaderLength b l3
  within : l3 + ipHeaderLength b l3 ≤ b.mem.length

section Header
variable {b : Ofpbuf} {l3 w : Nat} {bytes : List UInt8}

end Header

section Tos
variable {buffer : Ofpbuf} {key : SwFlowKey} {acts : List UInt8} {p l3 : Nat}

end Tos

section Addr
variable {buffer b' : Ofpbuf} {key : SwFlowKey} {acts : List UInt8} {p l3 : Nat}

end Addr

section Port
variable {buffer : Ofpbuf} {key : SwFlowKey} {acts : List UInt8} {p l4 : Nat}

variable (buffer) {field csumAt : Nat} (new : UInt16)

end Port

/- An Ethernet frame from ..:01 to ..:02 with an IPv4 header (10.0.0.1 to 10.0.0.2, TTL 64, total length 28,
ToS `tos`, identification `ident`, fragment field `frag`, header checksum `ipCsum`) and eight bytes after it
that a first fragment reads as a UDP header from port `srcPort` to port 53 with checksum `udpCsum`; padded to
60 bytes, every field in network order. -/
def udpFrame (tos : UInt8) (ident frag ipCsum srcPort udpCsum : UInt16) : List UInt8 :=
  [0,0,0,0,0,2,0,0,0,0,0,1,0x08,0x00] ++
    [0x45,tos] ++ BigEndian.ofUInt16 28 ++ BigEndian.ofUInt16 ident ++ BigEndian.ofUInt16 frag ++ [64,17] ++
      BigEndian.ofUInt16 ipCsum ++ [10,0,0,1,10,0,0,2] ++
    BigEndian.ofUInt16 srcPort ++ BigEndian.ofUInt16 53 ++ BigEndian.ofUInt16 8 ++ BigEndian.ofUInt16 udpCsum ++
    List.replicate 18 0

/- The sum of the IP header of a frame like these. -/
def frameHeaderSum (frame : List UInt8) : Residue := bytesSum ((frame.drop ethHeaderLen).take ipHeaderLen)

def tpSrcMod : OfpFlowMod := labFlowMod (ofpActionTpPort ofpatSetTpSrc 0x5678 ++ ofpActionOutput 2 0)

def tosMod : OfpFlowMod := labFlowMod (ofpActionNwTos 4 ++ ofpActionOutput 2 0)

/- What the switch sends for a frame it receives on port 1 once `mod` is in its table. -/
def sentFor (mod : OfpFlowMod) (frame : List UInt8) : Option (List Sent) :=
  (portInput 8 (labDatapath (recvFlow chainCreate mod 0).chain) 1 1500 frame).toOption.map (·.sent)

theorem rewritesBreakChecksums :
    (recvFlow chainCreate tpSrcMod 0).error = none ∧ (recvFlow chainCreate tosMod 0).error = none ∧
    frameHeaderSum (udpFrame 0 0 0 0x66cf 1234 0) = 0 ∧
    sentFor tpSrcMod (udpFrame 0 0 0 0x66cf 1234 0) = some [.netdev 2 0 (udpFrame 0 0 0 0x66cf 0x5678 0xae59)] ∧
    frameHeaderSum (udpFrame 0 0 0xb9 0x6616 1234 0) = 0 ∧
    sentFor tpSrcMod (udpFrame 0 0 0xb9 0x6616 1234 0) =
      some [.netdev 2 0 (udpFrame 0 0 0xb9 0x6616 0x5678 0xae59)] ∧
    frameHeaderSum (udpFrame 0 0x67cb 0 0xff03 1234 0) = 0 ∧
    sentFor tosMod (udpFrame 0 0x67cb 0 0xff03 1234 0) = some [.netdev 2 0 (udpFrame 4 0x67cb 0 0 1234 0)] ∧
    frameHeaderSum (udpFrame 4 0x67cb 0 0 1234 0) ≠ 0 := by
  refine ⟨by decide +kernel,by decide +kernel,by decide,by decide +kernel,by decide,by decide +kernel,by decide,
    by decide +kernel,by decide⟩

end OpenFlow.Rewrite
