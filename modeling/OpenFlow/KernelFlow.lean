import Mathlib
import OpenFlow.Packet

/-! The kernel datapath's parser (flow_extract, datapath/flow.c), next to the userspace one of lib/flow.c that
`flowExtract` models. -/
namespace OpenFlow.KernelFlow

def llcSapSnap : UInt8 := 0xaa
def llcPduUnLen : Nat := 3
def ethSnapHdrLen : Nat := 22
def vlanHdrLen : Nat := 4
def iphdrLen : Nat := 20
def tcphdrLen : Nat := 20
def udphdrLen : Nat := 8
def icmphdrLen : Nat := 8

/- is_snap: the SAPs and the organisation code; the control byte is not looked at. -/
def isSnap (frame : List UInt8) : Bool :=
  frame.getD 14 0 == llcSapSnap && frame.getD 15 0 == llcSapSnap &&
    frame.getD 17 0 == 0 && frame.getD 18 0 == 0 && frame.getD 19 0 == 0

def iphdrOk (frame : List UInt8) (nhOfs : Nat) : Bool :=
  let ipLen := ((frame.getD nhOfs 0) &&& 15).toNat * 4
  decide (frame.length ≥ nhOfs + iphdrLen) && decide (ipLen ≥ iphdrLen) && decide (nhOfs + ipLen ≤ frame.length)

def tcphdrOk (frame : List UInt8) (thOfs : Nat) : Bool :=
  let tcpLen := (BigEndian.get16 frame (thOfs + 12) >>> 12).toNat * 4
  decide (thOfs + tcphdrLen ≤ frame.length) && decide (tcpLen ≥ tcphdrLen) && decide (frame.length ≥ thOfs + tcpLen)

def udphdrOk (frame : List UInt8) (thOfs : Nat) : Bool := decide (thOfs + udphdrLen ≤ frame.length)

def icmphdrOk (frame : List UInt8) (thOfs : Nat) : Bool := decide (thOfs + icmphdrLen ≤ frame.length)

/- The frame type and where the network header starts: an 802.2 frame without SNAP skips its LLC header only
when all of it is there. -/
def linkType (frame : List UInt8) : UInt16 × Nat :=
  let ethType := BigEndian.get16 frame 12
  if ethType ≥ ofpDlTypeEth2Cutoff then (ethType,ethHeaderLen)
  else if frame.length ≥ ethSnapHdrLen ∧ isSnap frame then (BigEndian.get16 frame 20,ethSnapHdrLen)
  else if frame.length ≥ ethHeaderLen + llcPduUnLen then (ofpDlTypeNotEthType,ethHeaderLen + llcPduUnLen)
  else (ofpDlTypeNotEthType,ethHeaderLen)

/- Returns whether the frame is an IP fragment, and the key. -/
def flowExtract (frame : List UInt8) (inPort : UInt16) : Bool × Flow :=
  let key : Flow := ⟨0,0,inPort,ofpVlanNone,0,0,0,Vector.replicate 6 0,Vector.replicate 6 0,0,0,0,Vector.replicate 3 0⟩
  if frame.length < ethHeaderLen then (false,key)
  else
    let (dlType,nhOfs) := linkType frame
    let (dlType,dlVlan,dlVlanPcp,nhOfs) :=
      if dlType = ethTypeVlan ∧ frame.length ≥ nhOfs + vlanHdrLen then
        let tci := BigEndian.get16 frame nhOfs
        (BigEndian.get16 frame (nhOfs + 2),tci &&& 0x0fff,((tci >>> 13) &&& 7).toUInt8,nhOfs + vlanHdrLen)
      else (dlType,key.dlVlan,key.dlVlanPcp,nhOfs)
    let key := { key with dlType,dlVlan,dlVlanPcp,dlSrc := ethAddrAt frame 6,dlDst := ethAddrAt frame 0 }
    if dlType = ethTypeIp ∧ iphdrOk frame nhOfs then
      let thOfs := nhOfs + ((frame.getD nhOfs 0) &&& 15).toNat * 4
      let key := { key with
        nwTos := (frame.getD (nhOfs + 1) 0) &&& 0xfc
        nwProto := frame.getD (nhOfs + 9) 0
        nwSrc := BigEndian.get32 frame (nhOfs + 12)
        nwDst := BigEndian.get32 frame (nhOfs + 16) }
      if BigEndian.get16 frame (nhOfs + 6) &&& 0x3fff ≠ 0 then (true,key)
      else if key.nwProto = ipTypeTcp then
        if tcphdrOk frame thOfs then
          (false,{ key with tpSrc := BigEndian.get16 frame thOfs,tpDst := BigEndian.get16 frame (thOfs + 2) })
        else (false,{ key with nwProto := 0 })
      else if key.nwProto = ipTypeUdp then
        if udphdrOk frame thOfs then
          (false,{ key with tpSrc := BigEndian.get16 frame thOfs,tpDst := BigEndian.get16 frame (thOfs + 2) })
        else (false,{ key with nwProto := 0 })
      else if key.nwProto = ipTypeIcmp then
        if icmphdrOk frame thOfs then
          (false,{ key with tpSrc := (frame.getD thOfs 0).toUInt16,tpDst := (frame.getD (thOfs + 1) 0).toUInt16 })
        else (false,{ key with nwProto := 0 })
      else (false,key)
    else (false,key)

/- A 14-byte 802.2 frame: its LLC header is missing. -/
def shortLlcFrame : List UInt8 := [1,2,3,4,5,6,7,8,9,10,11,12,0,0]

/- An 802.2 frame with the SNAP SAPs and organisation code but control byte 0, carrying type 0x0800 and
nothing after it. -/
def snapNoUiFrame : List UInt8 := [1,2,3,4,5,6,7,8,9,10,11,12,0,8,0xaa,0xaa,0,0,0,0,8,0]

/- An IPv4 ICMP packet whose ICMP header is 4 bytes long: type 8, code 0. -/
def shortIcmpFrame : List UInt8 :=
  [1,2,3,4,5,6,7,8,9,10,11,12,8,0,
    0x45,0,0,24,0,0,0,0,64,1,0,0,10,0,0,1,10,0,0,2,
    8,0,0,0]

/- On the short 802.2 frame the userspace parser stops before the addresses with dl_type 0, where the kernel
records OFP_DL_TYPE_NOT_ETH_TYPE and both addresses. -/
theorem kernelParserDiverges :
    (OpenFlow.flowExtract (ofpbufCloneData shortLlcFrame) 1).2.1.dlType = 0 ∧
      (OpenFlow.flowExtract (ofpbufCloneData shortLlcFrame) 1).2.1.dlSrc = Vector.replicate 6 0 ∧
      (flowExtract shortLlcFrame 1).2.dlType = ofpDlTypeNotEthType ∧
      (flowExtract shortLlcFrame 1).2.dlSrc = ethAddrAt shortLlcFrame 6 ∧
    (OpenFlow.flowExtract (ofpbufCloneData snapNoUiFrame) 1).2.1.dlType = ofpDlTypeNotEthType ∧
      (flowExtract snapNoUiFrame 1).2.dlType = ethTypeIp ∧
    (OpenFlow.flowExtract (ofpbufCloneData shortIcmpFrame) 1).2.1.nwProto = ipTypeIcmp ∧
      (flowExtract shortIcmpFrame 1).2.nwProto = 0 := by
  decide +kernel

end OpenFlow.KernelFlow
