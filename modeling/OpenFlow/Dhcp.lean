import Mathlib
import OpenFlow.Lib.ByteOrder

/-! DHCP messages (lib/dhcp.c): the abstract struct dhcp_msg, dhcp_assemble that writes one out, and
dhcp_parse that reads one back through parse_options and validate_options. -/
namespace OpenFlow.Dhcp

inductive Host where
  | ilp32
  | lp64
  deriving DecidableEq, Repr

def Host.pointerSize : Host → Nat
  | .ilp32 => 4
  | .lp64 => 8

def Host.sizeMax : Host → Nat
  | .ilp32 => 2 ^ 32 - 1
  | .lp64 => 2 ^ 64 - 1

def dhcpHeaderLen : Nat := 236
def dhcpBootrequest : UInt8 := 1
def dhcpBootreply : UInt8 := 2
def arpHrdEthernet : UInt8 := 1
def ethAddrLen : UInt8 := 6
def dhcpOptsCookie : UInt32 := 0x63825363
def dhcpNOptions : Nat := 512
def dhcpVendorOfs : Nat := 256

def dhcpCodePad : Nat := 0
def dhcpCodeEnd : Nat := 255
def dhcpCodeVendorSpecific : Nat := 43
def dhcpCodeOptionOverload : Nat := 52
def dhcpCodeDhcpMsgType : Nat := 53
def dhcpCodeVendorClass : Nat := 60

/- DHCP_ARGS -/
inductive ArgType where
  | fixed
  | ip
  | secs
  | string
  | uint8
  | uint16
  | uint32
  | boolean
  deriving DecidableEq, Repr

def ArgType.size : ArgType → Nat
  | .fixed => 0
  | .ip => 4
  | .secs => 4
  | .string => 1
  | .uint8 => 1
  | .uint16 => 2
  | .uint32 => 4
  | .boolean => 1

/- struct option_class without its name; `none` for a maximum is SIZE_MAX. -/
structure OptionClass where
  type : ArgType
  minArgs : Nat
  maxArgs : Option Nat
  deriving DecidableEq, Repr

/- The classes DHCP_OPTS gives; every other code is an unknown option of any number of octets. -/
def getOptionClass (code : Nat) : OptionClass :=
  match code with
  | 0 | 255 => ⟨.fixed,0,some 0⟩
  | 1 | 28 | 32 | 50 | 54 => ⟨.ip,1,some 1⟩
  | 2 | 24 | 35 | 38 | 51 | 58 | 59 => ⟨.secs,1,some 1⟩
  | 3 | 6 | 9 | 41 | 42 | 44 | 45 | 48 | 49 | 65 | 69 | 70 | 71 | 72 | 73 | 74 => ⟨.ip,1,none⟩
  | 12 | 15 | 17 | 18 | 40 | 47 | 56 | 60 | 64 | 66 | 67 | 257 | 258 => ⟨.string,1,none⟩
  | 13 | 22 | 26 | 57 => ⟨.uint16,1,some 1⟩
  | 19 | 20 | 27 | 29 | 30 | 31 | 36 | 39 => ⟨.boolean,1,some 1⟩
  | 21 | 33 => ⟨.ip,2,none⟩
  | 23 | 37 | 46 | 52 | 53 => ⟨.uint8,1,some 1⟩
  | 25 => ⟨.uint16,2,none⟩
  | 43 | 55 => ⟨.uint8,1,none⟩
  | 61 => ⟨.uint8,2,none⟩
  | 68 => ⟨.ip,0,none⟩
  | _ => ⟨.uint8,0,none⟩

/- struct dhcp_msg. -/
structure DhcpMsg where
  op : UInt8
  xid : UInt32
  secs : UInt16
  flags : UInt16
  ciaddr : UInt32
  yiaddr : UInt32
  siaddr : UInt32
  giaddr : UInt32
  chaddr : Vector UInt8 6
  type : UInt8
  options : Nat → Option (List UInt8)
  allocated : Bool

def dhcpMsgInit : DhcpMsg :=
  ⟨0,0,0,0,0,0,0,0,Vector.replicate 6 0,0,fun _ => none,false⟩

/- dhcp_msg_put: PAD and END are never stored; otherwise the bytes are appended to the option. -/
def dhcpMsgPut (msg : DhcpMsg) (code : Nat) (data : List UInt8) : DhcpMsg :=
  if code = dhcpCodePad ∨ code = dhcpCodeEnd then msg
  else
    let allocated := msg.allocated || !data.isEmpty
    let old := (msg.options code).getD []
    let opt := if old ≠ [] then some (old ++ data) else if allocated then some data else none
    { msg with allocated,options := Function.update msg.options code opt }

/- dhcp_msg_get_uint8 -/
def dhcpMsgGetUint8 (msg : DhcpMsg) (code offset : Nat) : Option UInt8 :=
  (msg.options code).bind fun data => data[offset]?

/- dhcp_msg_get_string: the bytes of a present option, which strcmp reads up to the first NUL. -/
def dhcpMsgGetString (msg : DhcpMsg) (code : Nat) : Option (List UInt8) := msg.options code

def cString (bytes : List UInt8) : List UInt8 := bytes.takeWhile (· ≠ 0)

/- "OpenFlow" -/
def openFlowVendorClass : List UInt8 := [0x4f,0x70,0x65,0x6e,0x46,0x6c,0x6f,0x77]

/- parse_options: code, length and payload until END or until the bytes run out; PAD is one byte. -/
def parseOptions (msg : DhcpMsg) (optionOffset : Nat) : List UInt8 → DhcpMsg
  | [] => msg
  | code :: rest =>
    if code.toNat = dhcpCodeEnd then msg
    else if code.toNat = dhcpCodePad then parseOptions msg optionOffset rest
    else
      match rest with
      | [] => msg
      | len :: rest =>
        if rest.length < len.toNat then msg
        else parseOptions (dhcpMsgPut msg (code.toNat + optionOffset) (rest.take len.toNat)) optionOffset
          (rest.drop len.toNat)
termination_by bytes => bytes.length
decreasing_by all_goals simp only [List.length_cons,List.length_drop]; omega

/- What validate_options checks of a present option: whole arguments of the class's type, between its minimum
and maximum count. -/
def optionValid (host : Host) (code n : Nat) : Bool :=
  let cls := getOptionClass code
  let nElems := n / cls.type.size
  let remainder := n % cls.type.size
  remainder = 0 && decide (cls.minArgs ≤ nElems) && decide (nElems ≤ cls.maxArgs.getD host.sizeMax)

def validateOptions (host : Host) (msg : DhcpMsg) : DhcpMsg :=
  { msg with options := fun code =>
      match msg.options code with
      | some data => if code < dhcpNOptions ∧ !optionValid host code data.length then none else some data
      | none => none }

/- The options field after the cookie: `sizeof cookie` bytes are pulled for it, then the options are parsed,
with those of the file and sname fields if the overload option asks for them. -/
def parseOptionsField (host : Host) (msg : DhcpMsg) (header rest : List UInt8) : DhcpMsg :=
  if rest.length < host.pointerSize then msg
  else if BigEndian.get32 rest 0 ≠ dhcpOptsCookie then msg
  else
    let msg := parseOptions msg 0 (rest.drop host.pointerSize)
    match dhcpMsgGetUint8 msg dhcpCodeOptionOverload 0 with
    | some overload =>
      let msg := if overload &&& 1 ≠ 0 then parseOptions msg 0 ((header.drop 108).take 128) else msg
      if overload &&& 2 ≠ 0 then parseOptions msg 0 ((header.drop 44).take 64) else msg
    | none => msg

/- dhcp_parse; `none` is EPROTO. -/
def dhcpParse (host : Host) (b : List UInt8) : Option DhcpMsg :=
  if b.length < dhcpHeaderLen then none
  else
    let op := b.getD 0 0
    if op ≠ dhcpBootreply ∧ op ≠ dhcpBootrequest then none
    else if b.getD 1 0 ≠ arpHrdEthernet then none
    else if b.getD 2 0 ≠ ethAddrLen then none
    else
      let header := b.take dhcpHeaderLen
      let msg : DhcpMsg :=
        { dhcpMsgInit with
          op
          xid := BigEndian.get32 b 4
          secs := BigEndian.get16 b 8
          flags := BigEndian.get16 b 10
          ciaddr := LittleEndian.get32 b 12
          yiaddr := LittleEndian.get32 b 16
          siaddr := LittleEndian.get32 b 20
          giaddr := LittleEndian.get32 b 24
          chaddr := Vector.ofFn fun i => b.getD (28 + i) 0 }
      let msg := parseOptionsField host msg header (b.drop dhcpHeaderLen)
      let msg :=
        match dhcpMsgGetString msg dhcpCodeVendorClass with
        | some vendorClass =>
          if cString vendorClass = openFlowVendorClass then
            parseOptions msg dhcpVendorOfs ((msg.options dhcpCodeVendorSpecific).getD [])
          else msg
        | none => msg
      let msg := validateOptions host msg
      match dhcpMsgGetUint8 msg dhcpCodeDhcpMsgType 0 with
      | some type => some { msg with type }
      | none => none

def putOptionChunk (code : UInt8) (data : List UInt8) : List UInt8 := [code,data.length.toUInt8] ++ data

/- The loop of put_option: chunks of 248 bytes while more than 255 are left. -/
def optionChunks (code : UInt8) (data : List UInt8) : List UInt8 :=
  if data = [] then []
  else
    let chunk := if data.length > 255 then 248 else data.length
    putOptionChunk code (data.take chunk) ++ optionChunks code (data.drop chunk)
termination_by data.length
decreasing_by
  simp only [List.length_drop]
  have : data.length ≠ 0 := fun zero => by simp_all
  split <;> omega

def putOption (code : Nat) : Option (List UInt8) → List UInt8
  | none => []
  | some [] => putOptionChunk code.toUInt8 []
  | some data => optionChunks code.toUInt8 data

/- dhcp_assemble: the header with zero sname and file, the cookie, the message type first, the standard
options by code, the vendor options packed into option 43, and END. -/
def dhcpAssemble (msg : DhcpMsg) : List UInt8 :=
  let header := [msg.op,arpHrdEthernet,ethAddrLen,0] ++ BigEndian.ofUInt32 msg.xid ++
    BigEndian.ofUInt16 msg.secs ++ BigEndian.ofUInt16 msg.flags ++ LittleEndian.ofUInt32 msg.ciaddr ++
    LittleEndian.ofUInt32 msg.yiaddr ++ LittleEndian.ofUInt32 msg.siaddr ++ LittleEndian.ofUInt32 msg.giaddr ++
    msg.chaddr.toList ++ List.replicate 10 0 ++ List.replicate 64 0 ++ List.replicate 128 0
  let type := if msg.type ≠ 0 then putOption dhcpCodeDhcpMsgType (some [msg.type]) else []
  let standard := (List.range dhcpVendorOfs).flatMap fun i => putOption i (msg.options i)
  let vndData := (List.range' dhcpVendorOfs (dhcpNOptions - dhcpVendorOfs)).flatMap fun i =>
    putOption (i - dhcpVendorOfs) (msg.options i)
  let vendor := if vndData.length ≠ 0 then putOption dhcpCodeVendorSpecific (some vndData) else []
  header ++ BigEndian.ofUInt32 dhcpOptsCookie ++ type ++ standard ++ vendor ++ [dhcpCodeEnd.toUInt8]

/- A DHCPDISCOVER with no option besides its type. -/
def discover : DhcpMsg :=
  { dhcpMsgInit with
    op := dhcpBootrequest
    xid := 0x12345678
    chaddr := Vector.ofFn fun i => (i.val + 1).toUInt8
    type := 1 }

/- On LP64 the cookie pull takes 8 bytes, so the first 4 bytes of options, the message type option and the
code after it, are skipped and the parse fails for want of a message type; on ILP32 the message comes back. -/
theorem lp64LosesMessageType :
    (dhcpParse .lp64 (dhcpAssemble discover)).isNone = true ∧
      (dhcpParse .ilp32 (dhcpAssemble discover)).map (fun m => (m.op,m.xid,m.chaddr,m.type)) =
        some (discover.op,discover.xid,discover.chaddr,discover.type) := by
  decide +kernel

end OpenFlow.Dhcp
