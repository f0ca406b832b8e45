import Mathlib
import OpenFlow.SwFlow
import OpenFlow.Lib.CText

/-! The text form of a struct ofp_match. -/
namespace OpenFlow.MatchText
open CText Actions

/- The wildcards of the ICMP fields are those of the transport ports (include/openflow/openflow.h). -/
def ofpfwIcmpType : UInt32 := ofpfwTpSrc
def ofpfwIcmpCode : UInt32 := ofpfwTpDst

def ofpDefaultPriority : UInt16 := 0x8000
def defaultIdleTimeout : UInt16 := 60

/- print_wild: the field's text when it is not wildcarded, "*" when it is and the verbosity is 2 or more, and
nothing otherwise. -/
def printWild (leader : String) (isWild : Bool) (verbosity : Int) (text : List Char) : List Char :=
  if isWild ∧ verbosity < 2 then []
  else leader.toList ++ (if !isWild then text else ['*']) ++ [',']

/- printf's "0x%0<width>x". -/
def hexFmt (width n : Nat) : List Char := '0' :: 'x' :: hexWidth width n

/- IP_FMT with IP_ARGS: the bytes of the address in network order. -/
def ipFmt (ip : UInt32) : List Char :=
  decimal (ip >>> 24).toUInt8.toNat ++ '.' :: (decimal (ip >>> 16).toUInt8.toNat ++ '.' ::
    (decimal (ip >>> 8).toUInt8.toNat ++ '.' :: decimal ip.toUInt8.toNat))

/- ETH_ADDR_FMT with ETH_ADDR_ARGS. -/
def ethAddrFmt (ea : EthAddr) : List Char := List.intercalate [':'] (ea.toList.map fun b => hexWidth 2 b.toNat)

/- print_ip_netmask -/
def printIpNetmask (leader : String) (ip wildBits : UInt32) (verbosity : Int) : List Char :=
  if 32 ≤ wildBits ∧ verbosity < 2 then []
  else
    leader.toList ++
      (if wildBits < 32 then ipFmt ip ++ (if wildBits ≠ 0 then '/' :: decimal (32 - wildBits).toNat else [])
       else ['*']) ++ [',']

/- The protocol keyword ofp_match_to_string starts with, and whether it stands for dl_type (skip_type) and for
nw_proto (skip_proto). -/
def protocolKeyword (om : OfpMatch) : List Char × Bool × Bool :=
  if om.wildcards &&& ofpfwDlType = 0 then
    if om.dlType = ethTypeIp then
      if om.wildcards &&& ofpfwNwProto = 0 then
        if om.nwProto = ipTypeIcmp then ("icmp,".toList,true,true)
        else if om.nwProto = ipTypeTcp then ("tcp,".toList,true,true)
        else if om.nwProto = ipTypeUdp then ("udp,".toList,true,true)
        else ("ip,".toList,true,false)
      else ("ip,".toList,true,false)
    else if om.dlType = ethTypeArp then ("arp,".toList,true,false)
    else ([],false,false)
  else ([],false,false)

/- ofp_match_to_string -/
def ofpMatchToString (om : OfpMatch) (verbosity : Int) : List Char :=
  let w := om.wildcards
  let keyword := protocolKeyword om
  keyword.1 ++
  printWild "in_port=" (wild w ofpfwInPort) verbosity (decimal om.inPort.toNat) ++
  printWild "dl_vlan=" (wild w ofpfwDlVlan) verbosity (hexFmt 4 om.dlVlan.toNat) ++
  printWild "dl_vlan_pcp=" (wild w ofpfwDlVlanPcp) verbosity (hexFmt 2 om.dlVlanPcp.toNat) ++
  printWild "dl_src=" (wild w ofpfwDlSrc) verbosity (ethAddrFmt om.dlSrc) ++
  printWild "dl_dst=" (wild w ofpfwDlDst) verbosity (ethAddrFmt om.dlDst) ++
  (if keyword.2.1 then [] else printWild "dl_type=" (wild w ofpfwDlType) verbosity (hexFmt 4 om.dlType.toNat)) ++
  printIpNetmask "nw_src=" om.nwSrc ((w &&& ofpfwNwSrcMask) >>> ofpfwNwSrcShift) verbosity ++
  printIpNetmask "nw_dst=" om.nwDst ((w &&& ofpfwNwDstMask) >>> ofpfwNwDstShift) verbosity ++
  printWild "nw_tos=" (wild w ofpfwNwTos) verbosity (hexFmt 2 om.nwTos.toNat) ++
  (if keyword.2.2 then [] else printWild "nw_proto=" (wild w ofpfwNwProto) verbosity (decimal om.nwProto.toNat)) ++
  (if om.nwProto = ipTypeIcmp then
    printWild "icmp_type=" (wild w ofpfwIcmpType) verbosity (decimal om.tpSrc.toNat) ++
    printWild "icmp_code=" (wild w ofpfwIcmpCode) verbosity (decimal om.tpDst.toNat)
  else
    printWild "tp_src=" (wild w ofpfwTpSrc) verbosity (decimal om.tpSrc.toNat) ++
    printWild "tp_dst=" (wild w ofpfwTpDst) verbosity (decimal om.tpDst.toNat))

/- struct protocol -/
structure Protocol where
  name : String
  dlType : UInt16
  nwProto : UInt8

def protocols : List Protocol :=
  [⟨"ip",ethTypeIp,0⟩,⟨"arp",ethTypeArp,0⟩,⟨"icmp",ethTypeIp,ipTypeIcmp⟩,⟨"tcp",ethTypeIp,ipTypeTcp⟩,
    ⟨"udp",ethTypeIp,ipTypeUdp⟩]

def parseProtocol (name : List Char) : Option Protocol := protocols.find? fun p => p.name.toList == name

/- struct field: the name, the wildcard bits, and the type, with the member of struct ofp_match that the
offset points at. -/
inductive Field where
  | u8 (name : String) (wildcard : UInt32) (store : UInt8 → OfpMatch → OfpMatch)
  | u16 (name : String) (wildcard : UInt32) (store : UInt16 → OfpMatch → OfpMatch)
  | mac (name : String) (wildcard : UInt32) (store : EthAddr → OfpMatch → OfpMatch)
  | ip (name : String) (wildcard : UInt32) (shift : UInt32) (store : UInt32 → OfpMatch → OfpMatch)

def Field.name : Field → String
  | .u8 name _ _ | .u16 name _ _ | .mac name _ _ | .ip name _ _ _ => name

def Field.wildcard : Field → UInt32
  | .u8 _ wildcard _ | .u16 _ wildcard _ | .mac _ wildcard _ | .ip _ wildcard _ _ => wildcard

def fields : List Field :=
  [.u16 "in_port" ofpfwInPort fun v m => { m with inPort := v },
   .u16 "dl_vlan" ofpfwDlVlan fun v m => { m with dlVlan := v },
   .u8 "dl_vlan_pcp" ofpfwDlVlanPcp fun v m => { m with dlVlanPcp := v },
   .mac "dl_src" ofpfwDlSrc fun v m => { m with dlSrc := v },
   .mac "dl_dst" ofpfwDlDst fun v m => { m with dlDst := v },
   .u16 "dl_type" ofpfwDlType fun v m => { m with dlType := v },
   .u8 "nw_tos" ofpfwNwTos fun v m => { m with nwTos := v },
   .u8 "nw_proto" ofpfwNwProto fun v m => { m with nwProto := v },
   .ip "nw_src" ofpfwNwSrcMask ofpfwNwSrcShift fun v m => { m with nwSrc := v },
   .ip "nw_dst" ofpfwNwDstMask ofpfwNwDstShift fun v m => { m with nwDst := v },
   .u16 "tp_src" ofpfwTpSrc fun v m => { m with tpSrc := v },
   .u16 "tp_dst" ofpfwTpDst fun v m => { m with tpDst := v },
   .u16 "icmp_type" ofpfwIcmpType fun v m => { m with tpSrc := v },
   .u16 "icmp_code" ofpfwIcmpCode fun v m => { m with tpDst := v }]

def parseField (name : List Char) : Option Field := fields.find? fun f => f.name.toList == name

/- str_to_u32: ofp_fatal unless strtoul read the whole string without overflow. -/
def strToU32 (str : List Char) : Option UInt32 :=
  let r := strtoul 0 str
  if r.range || !r.rest.isEmpty then none else some r.value.toUInt32

/- str_to_mac -/
def strToMac (str : List Char) : Option EthAddr :=
  match scanSeparated 16 ':' 5 str with
  | some [a,b,c,d,e,f] => some #v[a.toUInt8,b.toUInt8,c.toUInt8,d.toUInt8,e.toUInt8,f.toUInt8]
  | _ => none

/- lookup_ip: inet_aton, or else the host table `hosts` that gethostbyname consults. -/
def lookupIp (hosts : List Char → Option UInt32) (name : List Char) : Option UInt32 :=
  (inetAton name).orElse fun _ => hosts name

/- The wildcarded low bits of a netmask written out in full: those below its lowest set bit, when every bit
from there up is set. -/
def netmaskWild (nm : UInt32) : Option UInt32 :=
  let i := ((List.range 32).find? fun i => nm &&& (1 : UInt32) <<< i.toUInt32 != 0).getD 32
  if (List.range' i (32 - i)).all fun j => nm &&& (1 : UInt32) <<< j.toUInt32 != 0 then some i.toUInt32 else none

/- str_to_ip: the address, and the number of its wildcarded bits. -/
def strToIp (hosts : List Char → Option UInt32) (str : List Char) : Option (UInt32 × UInt32) := do
  let name ← strtok (· == '/') str
  let ip ← lookupIp hosts name.1
  match strtok (· == '/') name.2 with
  | none => some (ip,0)
  | some netmask =>
    match scanSeparated 10 '.' 3 netmask.1 with
    | some [a,b,c,d] =>
      let nm := a.toUInt8.toUInt32 <<< 24 ||| b.toUInt8.toUInt32 <<< 16 ||| c.toUInt8.toUInt32 <<< 8 |||
        d.toUInt8.toUInt32
      (netmaskWild nm).map fun nWild => (ip,nWild)
    | _ =>
      let pfx := atoi netmask.1
      if pfx ≤ 0 ∨ 32 < pfx then none else some (ip,(32 - pfx).toNat.toUInt32)

/- str_to_flow's other outputs. -/
structure FlowSettings where
  tableIdx : UInt8
  outPort : UInt16
  priority : UInt16
  idleTimeout : UInt16
  hardTimeout : UInt16
  cookie : UInt64
  deriving DecidableEq, Repr

def FlowSettings.initial : FlowSettings :=
  ⟨0xff,ofppNone,ofpDefaultPriority,defaultIdleTimeout,ofpFlowPermanent,0⟩

/- Which of str_to_flow's optional pointers the caller passes. -/
structure FlowArgs where
  tableIdx : Bool
  outPort : Bool
  priority : Bool
  idleTimeout : Bool
  hardTimeout : Bool
  cookie : Bool

/- What str_to_flow has built so far: the match, its wildcards, and its other outputs. -/
structure Parsed where
  ofpMatch : OfpMatch
  wildcards : UInt32
  settings : FlowSettings

/- memset(match, 0, sizeof *match) -/
def zeroMatch : OfpMatch := ⟨0,0,Vector.replicate 6 0,Vector.replicate 6 0,0,0,0,0,0,0,0,0,0⟩

def Parsed.initial : Parsed := ⟨zeroMatch,ofpfwAll,FlowSettings.initial⟩

/- A protocol keyword sets dl_type, and nw_proto when it names one. -/
def Parsed.protocol (proto : Protocol) (p : Parsed) : Parsed :=
  let w := p.wildcards &&& ~~~ofpfwDlType
  let m := { p.ofpMatch with dlType := proto.dlType }
  if proto.nwProto ≠ 0 then { p with ofpMatch := { m with nwProto := proto.nwProto },wildcards := w &&& ~~~ofpfwNwProto }
  else { p with ofpMatch := m,wildcards := w }

/- A field's value: "*" or "ANY" wildcards it, and anything else is read by its type. -/
def Parsed.field (hosts : List Char → Option UInt32) (f : Field) (value : List Char) (p : Parsed) : Option Parsed :=
  if value = "*".toList ∨ value = "ANY".toList then some { p with wildcards := p.wildcards ||| f.wildcard }
  else
    let w := p.wildcards &&& ~~~f.wildcard
    match f with
    | .u8 _ _ store => (strToU32 value).map fun v => { p with ofpMatch := store v.toUInt8 p.ofpMatch,wildcards := w }
    | .u16 _ _ store => (strToU32 value).map fun v => { p with ofpMatch := store v.toUInt16 p.ofpMatch,wildcards := w }
    | .mac _ _ store => (strToMac value).map fun v => { p with ofpMatch := store v p.ofpMatch,wildcards := w }
    | .ip _ _ shift store =>
      (strToIp hosts value).map fun r => { p with ofpMatch := store r.1 p.ofpMatch,wildcards := w ||| r.2 <<< shift }

/- One `name=value` pair: a setting the caller asked for, or a field. -/
def Parsed.pair (hosts : List Char → Option UInt32) (args : FlowArgs) (name value : List Char) (p : Parsed) :
    Option Parsed :=
  let number := unsignedOf (atoi value)
  if args.tableIdx ∧ name = "table".toList then
    some { p with settings := { p.settings with tableIdx := number.toUInt8 } }
  else if args.outPort ∧ name = "out_port".toList then
    some { p with settings := { p.settings with outPort := number.toUInt16 } }
  else if args.priority ∧ name = "priority".toList then
    some { p with settings := { p.settings with priority := number.toUInt16 } }
  else if args.idleTimeout ∧ name = "idle_timeout".toList then
    some { p with settings := { p.settings with idleTimeout := number.toUInt16 } }
  else if args.hardTimeout ∧ name = "hard_timeout".toList then
    some { p with settings := { p.settings with hardTimeout := number.toUInt16 } }
  else if args.cookie ∧ name = "cookie".toList then
    some { p with settings := { p.settings with cookie := number.toUInt64 } }
  else match parseField name with
    | some f => p.field hosts f value
    | none => none

def nameDelims (c : Char) : Bool := c ∈ "=, \t\r\n".toList
def valueDelims (c : Char) : Bool := c ∈ ", \t\r\n".toList

/- The strtok_r loop of str_to_flow over what is left of the string. -/
set_option linter.unusedVariables false in
def strToFlowLoop (hosts : List Char → Option UInt32) (args : FlowArgs) (s : List Char) (p : Parsed) :
    Option Parsed :=
  match found : strtok nameDelims s with
  | none => some p
  | some name =>
    match parseProtocol name.1 with
    | some proto => strToFlowLoop hosts args name.2 (p.protocol proto)
    | none =>
      match found' : strtok valueDelims name.2 with
      | none => none
      | some value => (p.pair hosts args name.1 value.1).bind (strToFlowLoop hosts args value.2)
termination_by s.length
decreasing_by
  · exact strtokShorter found
  · exact lt_trans (strtokShorter found') (strtokShorter found)

/- str_to_flow with a null `actions`: the match with its wildcards, and the other outputs. -/
def strToFlow (hosts : List Char → Option UInt32) (args : FlowArgs) (string : List Char) :
    Option (OfpMatch × FlowSettings) :=
  (strToFlowLoop hosts args string Parsed.initial).map fun p => ({ p.ofpMatch with wildcards := p.wildcards },p.settings)

end OpenFlow.MatchText
