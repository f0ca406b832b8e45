import Mathlib
import OpenFlow.MatchText

/-! dpctl reads back what ofp_match_to_string prints. -/
namespace OpenFlow.MatchText
open CText

/- The characters of a printed field's text: digits, lowercase hexadecimal digits, and the separators of
addresses and of the 0x prefix. -/
def plainChar (c : Char) : Prop := charDigit c < 16 ∨ c = '.' ∨ c = ':' ∨ c = 'x' ∨ c = '/'

section Chars

theorem plainValueDelims {c : Char} (plain : plainChar c) : valueDelims c = false := by
  rcases plain with digit | rfl | rfl | rfl | rfl
  · cases delim : valueDelims c with
    | false => rfl
    | true =>
      unfold valueDelims at delim
      have listed : c ∈ [',',' ','\t','\r','\n'] := by simpa using delim
      simp only [List.mem_cons,List.not_mem_nil,or_false] at listed
      rcases listed with rfl | rfl | rfl | rfl | rfl <;> revert digit <;> decide
  all_goals decide

theorem plainNotWild {text : List Char} (plain : ∀ c ∈ text, plainChar c) :
    ¬(text = "*".toList ∨ text = "ANY".toList) := by
  rintro (same | same)
  · have star := plain '*' (by rw [same]; decide)
    unfold plainChar at star
    revert star
    decide
  · have letter := plain 'N' (by rw [same]; decide)
    unfold plainChar at letter
    revert letter
    decide

theorem decimalChars (n : Nat) : ∀ c ∈ decimal n, charDigit c < 10 := fun c mem => by
  simpa [isDigitOf] using (toDigitsValue (by omega : 1 < 10) (by omega) n).2 c mem

theorem hexWidthChars (width n : Nat) : ∀ c ∈ hexWidth width n, charDigit c < 16 := fun c mem => by
  simpa [isDigitOf] using (hexWidthValue width n).2 c mem

theorem decimalPlain (n : Nat) : ∀ c ∈ decimal n, plainChar c := fun c mem =>
  .inl (by have := decimalChars n c mem; omega)

theorem hexFmtPlain (width n : Nat) : ∀ c ∈ hexFmt width n, plainChar c := by
  intro c mem
  simp only [hexFmt,List.mem_cons] at mem
  rcases mem with rfl | rfl | digit
  · exact .inl (by decide)
  · exact .inr (.inr (.inr (.inl rfl)))
  · exact .inl (hexWidthChars width n c digit)

theorem ipFmtChars (ip : UInt32) : ∀ c ∈ ipFmt ip, charDigit c < 10 ∨ c = '.' := by
  intro c mem
  simp only [ipFmt,List.mem_append,List.mem_cons] at mem
  rcases mem with digit | rfl | digit | rfl | digit | rfl | digit
  all_goals first | exact .inr rfl | exact .inl (decimalChars _ c digit)

theorem ipFmtPlain (ip : UInt32) : ∀ c ∈ ipFmt ip, plainChar c := fun c mem => by
  rcases ipFmtChars ip c mem with digit | rfl
  · exact .inl (by omega)
  · exact .inr (.inl rfl)

theorem ethAddrCases (ea : EthAddr) : ∃ a b c d e f, ea = #v[a,b,c,d,e,f] := by
  obtain ⟨⟨l⟩,size⟩ := ea
  match l, size with
  | [a,b,c,d,e,f], _ => exact ⟨a,b,c,d,e,f,rfl⟩

theorem ethAddrFmtPlain (ea : EthAddr) : ∀ c ∈ ethAddrFmt ea, plainChar c := by
  intro x mem
  rcases memIntercalate mem with rfl | ⟨text,printed,inText⟩
  · exact .inr (.inr (.inl rfl))
  · obtain ⟨b,-,rfl⟩ := List.mem_map.1 printed
    exact .inl (hexWidthChars _ _ x inText)

end Chars

section Readers

theorem strToU32Of {str : List Char} {v : Nat} (read : strtoul 0 str = ⟨true,v,[],false⟩) :
    strToU32 str = some v.toUInt32 := by
  simp [strToU32,read]

theorem strToU32Decimal {v : Nat} (fits : v ≤ ulongMax) : strToU32 (decimal v) = some v.toUInt32 := by
  have read : strtoul 0 (decimal v ++ []) = ⟨true,v,[],false⟩ := strtoulDecimal fits rfl
  rw [List.append_nil] at read
  exact strToU32Of read

theorem strToU32Hex (width : Nat) {v : Nat} (fits : v ≤ ulongMax) : strToU32 (hexFmt width v) = some v.toUInt32 := by
  have read : strtoul 0 ('0' :: 'x' :: (hexWidth width v ++ [])) = ⟨true,v,[],false⟩ := strtoulHex fits rfl
  rw [List.append_nil] at read
  exact strToU32Of read

theorem strToMacFmt (ea : EthAddr) : strToMac (ethAddrFmt ea) = some ea := by
  obtain ⟨a,b,c,d,e,f,rfl⟩ := ethAddrCases ea
  have reads : ∀ u ∈ [a.toNat,b.toNat,c.toNat,d.toNat,e.toNat,f.toNat], ∀ rest, stops rest →
      scanNumber 16 (hexWidth 2 u ++ rest) = some (u,rest) := by
    intro u mem rest stop
    have small : u < 256 := by
      simp only [List.mem_cons,List.not_mem_nil,or_false] at mem
      rcases mem with rfl | rfl | rfl | rfl | rfl | rfl <;> exact UInt8.toNat_lt _
    exact scanNumberOf (strtoulHexPlain (by unfold ulongMax; omega) stop)
  have sepStops : charDigit ':' = 36 := by decide
  have scanned : scanSeparated 16 ':' 5 (List.intercalate [':']
      ([a.toNat,b.toNat,c.toNat,d.toNat,e.toNat,f.toNat].map (hexWidth 2))) =
      some [a.toNat,b.toNat,c.toNat,d.toNat,e.toNat,f.toNat] :=
    scanSeparatedJoin sepStops (hexWidth 2) _ _ reads
  have text : ethAddrFmt #v[a,b,c,d,e,f] =
      List.intercalate [':'] ([a.toNat,b.toNat,c.toNat,d.toNat,e.toNat,f.toNat].map (hexWidth 2)) := rfl
  rw [text,strToMac,scanned]
  simp

theorem ipFmtAton (ip : UInt32) : inetAton (ipFmt ip) = some ip := by
  have byte : ∀ x : UInt32, x.toUInt8.toNat ≤ 0xff := fun x => by
    have := UInt8.toNat_lt x.toUInt8
    omega
  rw [ipFmt,inetAtonDotted (byte _) (byte _) (byte _) (byte _)]
  congr 1
  apply UInt32.toNat_inj.1
  have bound := UInt32.toNat_lt ip
  simp only [UInt32.toNat_toUInt8,UInt32.toNat_shiftRight,UInt32.toNat_ofNat,Nat.toUInt32_eq,
    Nat.shiftRight_eq_div_pow]
  norm_num
  omega

theorem strToIpFmt (hosts : List Char → Option UInt32) (ip wildBits : UInt32) (small : wildBits < 32) :
    strToIp hosts (ipFmt ip ++ (if wildBits ≠ 0 then '/' :: decimal (32 - wildBits).toNat else [])) =
      some (ip,wildBits) := by
  have noSlash : ∀ c ∈ ipFmt ip, (c == '/') = false := fun c mem => by
    rcases ipFmtChars ip c mem with digit | rfl
    · cases same : (c == '/')
      · rfl
      · rw [beq_iff_eq] at same
        subst same
        revert digit
        decide
    · decide
  have named : ipFmt ip ≠ [] := by simp [ipFmt]
  have looked : lookupIp hosts (ipFmt ip) = some ip := by simp [lookupIp,ipFmtAton]
  by_cases exact : wildBits = 0
  · rw [if_neg (not_not.2 exact),List.append_nil,strToIp,strtokLast noSlash named]
    simp [looked,strtok,exact]
  · rw [if_pos exact,strToIp,strtokWord noSlash named (by decide)]
    have pfx : (32 - wildBits).toNat < 32 ∧ 0 < (32 - wildBits).toNat := by
      have := UInt32.lt_iff_toNat_lt.1 small
      have := UInt32.toNat_inj.not.2 exact
      rw [UInt32.toNat_sub_of_le _ _ (UInt32.le_of_lt small)]
      simp only [UInt32.toNat_ofNat] at *
      omega
    have digits : ∀ c ∈ decimal (32 - wildBits).toNat, (c == '/') = false := fun c mem => by
      have := decimalChars _ c mem
      cases same : (c == '/')
      · rfl
      · rw [beq_iff_eq] at same
        subst same
        revert this
        decide
    have number : decimal (32 - wildBits).toNat ≠ [] := Nat.toDigits_ne_nil
    have read : strtoul 10 (decimal (32 - wildBits).toNat ++ []) = ⟨true,(32 - wildBits).toNat,[],false⟩ :=
      strtoulDecimalTen (by unfold ulongMax; omega) rfl
    rw [List.append_nil] at read
    have notDotted : scanSeparated 10 '.' 3 (decimal (32 - wildBits).toNat) = none := by
      simp [scanSeparated,scanNumberOf read]
    have atoiRead : atoi (decimal (32 - wildBits).toNat ++ []) = (32 - wildBits).toNat := atoiDecimal (by omega) rfl
    rw [List.append_nil] at atoiRead
    simp only [Option.bind_eq_bind,Option.bind_some,looked,strtokLast digits number,notDotted,atoiRead]
    have thirtyTwo : (32 : UInt32).toNat = 32 := rfl
    have wildNat := UInt32.lt_iff_toNat_lt.1 small
    rw [thirtyTwo] at wildNat
    have back : (32 - ((32 - wildBits).toNat : Int)).toNat = wildBits.toNat := by
      rw [UInt32.toNat_sub_of_le _ _ (UInt32.le_of_lt small),thirtyTwo]
      omega
    rw [if_neg (by omega),back,Nat.toUInt32_eq,UInt32.ofNat_toNat]

theorem strToU32U16 (x : UInt16) : x.toNat.toUInt32.toUInt16 = x := by
  apply UInt16.toNat_inj.1
  simp

theorem strToU32U8 (x : UInt8) : x.toNat.toUInt32.toUInt8 = x := by
  apply UInt8.toNat_inj.1
  simp

end Readers

section Loop
variable (hosts : List Char → Option UInt32) (args : FlowArgs)

theorem loopEnd (p : Parsed) : strToFlowLoop hosts args [] p = some p := by
  rw [strToFlowLoop]
  rfl

theorem loopPair {name value : List Char} (nameWord : ∀ c ∈ name, nameDelims c = false) (named : name ≠ [])
    (notProtocol : parseProtocol name = none) (valueWord : ∀ c ∈ value, valueDelims c = false) (valued : value ≠ [])
    (rest : List Char) (p : Parsed) :
    strToFlowLoop hosts args (name ++ '=' :: (value ++ ',' :: rest)) p =
      (p.pair hosts args name value).bind (strToFlowLoop hosts args rest) := by
  have nameRead := strtokWord nameWord named (by decide : nameDelims '=') (value ++ ',' :: rest)
  have valueRead := strtokWord valueWord valued (by decide : valueDelims ',') rest
  rw [strToFlowLoop]
  split
  · rename_i found
    rw [nameRead] at found
    cases found
  · rename_i token found
    rw [nameRead] at found
    cases found
    simp only [notProtocol]
    split
    · rename_i found'
      rw [valueRead] at found'
      cases found'
    · rename_i token' found'
      rw [valueRead] at found'
      cases found'
      rfl

theorem loopProtocol {name : List Char} (nameWord : ∀ c ∈ name, nameDelims c = false) (named : name ≠ [])
    {proto : Protocol} (found : parseProtocol name = some proto) (rest : List Char) (p : Parsed) :
    strToFlowLoop hosts args (name ++ ',' :: rest) p = strToFlowLoop hosts args rest (p.protocol proto) := by
  have nameRead := strtokWord nameWord named (by decide : nameDelims ',') rest
  rw [strToFlowLoop]
  split
  · rename_i none
    rw [nameRead] at none
    cases none
  · rename_i token read
    rw [nameRead] at read
    cases read
    simp only [found]

theorem loopUnless (skip : Bool) {seg : List Char} {step : Parsed → Parsed}
    (read : ∀ rest p, strToFlowLoop hosts args (seg ++ rest) p = strToFlowLoop hosts args rest (step p))
    (rest : List Char) (p : Parsed) :
    strToFlowLoop hosts args ((if skip = true then [] else seg) ++ rest) p =
      strToFlowLoop hosts args rest (if skip = true then p else step p) := by
  cases skip
  · simp only [Bool.false_eq_true,if_false,read]
  · simp only [if_true,List.nil_append]

end Loop

section Table
variable (hosts : List Char → Option UInt32) (args : FlowArgs)

theorem pairField {f : Field} (mem : f ∈ fields) (value : List Char) (p : Parsed) :
    p.pair hosts args f.name.toList value = p.field hosts f value := by
  simp only [fields,List.mem_cons,List.not_mem_nil,or_false] at mem
  rcases mem with rfl | rfl | rfl | rfl | rfl | rfl | rfl | rfl | rfl | rfl | rfl | rfl | rfl | rfl <;>
    simp [Parsed.pair,parseField,fields,Field.name]

theorem fieldWord {f : Field} (mem : f ∈ fields) :
    (∀ c ∈ f.name.toList, nameDelims c = false) ∧ f.name.toList ≠ [] ∧ parseProtocol f.name.toList = none := by
  simp only [fields,List.mem_cons,List.not_mem_nil,or_false] at mem
  rcases mem with rfl | rfl | rfl | rfl | rfl | rfl | rfl | rfl | rfl | rfl | rfl | rfl | rfl | rfl <;>
    simp [Field.name,nameDelims,parseProtocol,protocols]

theorem loopField {f : Field} (mem : f ∈ fields) {value : List Char} (valueWord : ∀ c ∈ value, valueDelims c = false)
    (valued : value ≠ []) (rest : List Char) (p : Parsed) :
    strToFlowLoop hosts args (f.name.toList ++ '=' :: (value ++ ',' :: rest)) p =
      (p.field hosts f value).bind (strToFlowLoop hosts args rest) := by
  obtain ⟨nameWord,named,notProtocol⟩ := fieldWord mem
  rw [loopPair hosts args nameWord named notProtocol valueWord valued,pairField hosts args mem]

end Table

/- What reading back one printed field does to the parse: the value stored and the field's wildcard bits
cleared. -/
def Parsed.readExact (bit : UInt32) (store : OfpMatch → OfpMatch) (p : Parsed) : Parsed :=
  { p with ofpMatch := store p.ofpMatch,wildcards := p.wildcards &&& ~~~bit }

/- Reading back what print_wild wrote: nothing when it left the field out, the field's wildcard bits when it
wrote "*", and the value otherwise. -/
def Parsed.readWild (bit : UInt32) (store : OfpMatch → OfpMatch) (isWild : Bool) (verbosity : Int) (p : Parsed) :
    Parsed :=
  if isWild ∧ verbosity < 2 then p
  else if isWild then { p with wildcards := p.wildcards ||| bit }
  else p.readExact bit store

/- Reading back what print_ip_netmask wrote. -/
def Parsed.readNetmask (mask shift : UInt32) (store : OfpMatch → OfpMatch) (wildBits : UInt32) (verbosity : Int)
    (p : Parsed) : Parsed :=
  if 32 ≤ wildBits ∧ verbosity < 2 then p
  else if wildBits < 32 then
    { p with ofpMatch := store p.ofpMatch,wildcards := p.wildcards &&& ~~~mask ||| wildBits <<< shift }
  else { p with wildcards := p.wildcards ||| mask }

/- Reading back the protocol keyword: dl_type, and nw_proto when the keyword names one. -/
def Parsed.readKeyword (om : OfpMatch) (p : Parsed) : Parsed :=
  let keyword := protocolKeyword om
  let p := if keyword.2.1 then p.readExact ofpfwDlType fun m => { m with dlType := om.dlType } else p
  if keyword.2.2 then p.readExact ofpfwNwProto fun m => { m with nwProto := om.nwProto } else p

section Items
variable (hosts : List Char → Option UInt32) (args : FlowArgs)

theorem fieldStar (f : Field) (p : Parsed) :
    p.field hosts f ['*'] = some { p with wildcards := p.wildcards ||| f.wildcard } := by
  simp [Parsed.field]

theorem fieldU16 {name : String} {bit : UInt32} {store : UInt16 → OfpMatch → OfpMatch} {text : List Char}
    (plain : ∀ c ∈ text, plainChar c) {v : UInt32} (read : strToU32 text = some v) (p : Parsed) :
    p.field hosts (.u16 name bit store) text = some (p.readExact bit (store v.toUInt16)) := by
  rw [Parsed.field,if_neg (plainNotWild plain)]
  simp [read,Parsed.readExact,Field.wildcard]

theorem fieldU8 {name : String} {bit : UInt32} {store : UInt8 → OfpMatch → OfpMatch} {text : List Char}
    (plain : ∀ c ∈ text, plainChar c) {v : UInt32} (read : strToU32 text = some v) (p : Parsed) :
    p.field hosts (.u8 name bit store) text = some (p.readExact bit (store v.toUInt8)) := by
  rw [Parsed.field,if_neg (plainNotWild plain)]
  simp [read,Parsed.readExact,Field.wildcard]

theorem fieldMac {name : String} {bit : UInt32} {store : EthAddr → OfpMatch → OfpMatch} (ea : EthAddr) (p : Parsed) :
    p.field hosts (.mac name bit store) (ethAddrFmt ea) = some (p.readExact bit (store ea)) := by
  rw [Parsed.field,if_neg (plainNotWild (ethAddrFmtPlain ea))]
  simp [strToMacFmt,Parsed.readExact,Field.wildcard]

theorem loopPrintWild {f : Field} (mem : f ∈ fields) {leader : String} (named : leader.toList = f.name.toList ++ ['='])
    {text : List Char} (plain : ∀ c ∈ text, plainChar c) (valued : text ≠ []) {store : OfpMatch → OfpMatch}
    (read : ∀ p : Parsed, p.field hosts f text = some (p.readExact f.wildcard store)) (isWild : Bool)
    (verbosity : Int) (rest : List Char) (p : Parsed) :
    strToFlowLoop hosts args (printWild leader isWild verbosity text ++ rest) p =
      strToFlowLoop hosts args rest (p.readWild f.wildcard store isWild verbosity) := by
  unfold printWild Parsed.readWild
  by_cases omitted : isWild = true ∧ verbosity < 2
  · simp only [omitted,and_self,if_true,List.nil_append]
  rw [if_neg omitted,if_neg omitted,named]
  cases isWild
  · -- the value, as the field's type reads it
    have spelled : f.name.toList ++ ['='] ++ (if (!false) = true then text else ['*']) ++ [','] ++ rest =
        f.name.toList ++ '=' :: (text ++ ',' :: rest) := by simp
    rw [spelled,loopField hosts args mem (fun c inside => plainValueDelims (plain c inside)) valued,read]
    rfl
  · -- "*"
    have spelled : f.name.toList ++ ['='] ++ (if (!true) = true then text else ['*']) ++ [','] ++ rest =
        f.name.toList ++ '=' :: (['*'] ++ ',' :: rest) := by simp
    have star : ∀ c ∈ ['*'], valueDelims c = false := fun c inside => by
      rw [List.mem_singleton.1 inside]
      decide
    rw [spelled,loopField hosts args mem star (List.cons_ne_nil _ _),fieldStar]
    rfl

theorem netmaskPlain (ip wildBits : UInt32) :
    ∀ c ∈ ipFmt ip ++ (if wildBits ≠ 0 then '/' :: decimal (32 - wildBits).toNat else []), plainChar c := by
  intro c mem
  rcases List.mem_append.1 mem with address | suffix
  · exact ipFmtPlain ip c address
  · split at suffix
    · rcases List.mem_cons.1 suffix with rfl | digit
      · exact .inr (.inr (.inr (.inr rfl)))
      · exact decimalPlain _ c digit
    · cases suffix

theorem fieldIp {name : String} {mask shift : UInt32} {store : UInt32 → OfpMatch → OfpMatch} (ip : UInt32)
    {wildBits : UInt32} (small : wildBits < 32) (p : Parsed) :
    p.field hosts (.ip name mask shift store)
        (ipFmt ip ++ (if wildBits ≠ 0 then '/' :: decimal (32 - wildBits).toNat else [])) =
      some { p with ofpMatch := store ip p.ofpMatch,wildcards := p.wildcards &&& ~~~mask ||| wildBits <<< shift } := by
  rw [Parsed.field,if_neg (plainNotWild (netmaskPlain ip wildBits))]
  dsimp only
  rw [strToIpFmt hosts ip wildBits small]
  rfl

theorem loopPrintIpNetmask (name leader : String) (mask shift : UInt32) (store : UInt32 → OfpMatch → OfpMatch)
    (named : leader.toList = name.toList ++ ['=']) (mem : Field.ip name mask shift store ∈ fields)
    {ip wildBits : UInt32} {verbosity : Int} {rest : List Char} {p : Parsed} :
    strToFlowLoop hosts args (printIpNetmask leader ip wildBits verbosity ++ rest) p =
      strToFlowLoop hosts args rest (p.readNetmask mask shift (store ip) wildBits verbosity) := by
  unfold printIpNetmask Parsed.readNetmask
  by_cases omitted : 32 ≤ wildBits ∧ verbosity < 2
  · simp only [omitted,and_self,if_true,List.nil_append]
  rw [if_neg omitted,if_neg omitted,named]
  by_cases small : wildBits < 32
  · -- the address, and "/n" when some of it is wildcarded
    rw [if_pos small,if_pos small]
    have text := ipFmt ip ++ (if wildBits ≠ 0 then '/' :: decimal (32 - wildBits).toNat else [])
    have spelled : name.toList ++ ['='] ++ (ipFmt ip ++ (if wildBits ≠ 0 then '/' :: decimal (32 - wildBits).toNat
        else [])) ++ [','] ++ rest = (Field.ip name mask shift store).name.toList ++ '=' ::
        ((ipFmt ip ++ (if wildBits ≠ 0 then '/' :: decimal (32 - wildBits).toNat else [])) ++ ',' :: rest) := by
      simp [Field.name]
    have valued : ipFmt ip ++ (if wildBits ≠ 0 then '/' :: decimal (32 - wildBits).toNat else []) ≠ [] := by
      simp [ipFmt]
    rw [spelled,loopField hosts args mem (fun c inside => plainValueDelims (netmaskPlain ip wildBits c inside))
      valued,fieldIp hosts ip small]
    rfl
  · -- "*"
    rw [if_neg small,if_neg small]
    have spelled : name.toList ++ ['='] ++ ['*'] ++ [','] ++ rest =
        (Field.ip name mask shift store).name.toList ++ '=' :: (['*'] ++ ',' :: rest) := by simp [Field.name]
    have star : ∀ c ∈ ['*'], valueDelims c = false := fun c inside => by
      rw [List.mem_singleton.1 inside]
      decide
    rw [spelled,loopField hosts args mem star (List.cons_ne_nil _ _),fieldStar]
    rfl

theorem loopKeyword (om : OfpMatch) (rest : List Char) (p : Parsed) :
    strToFlowLoop hosts args ((protocolKeyword om).1 ++ rest) p = strToFlowLoop hosts args rest (p.readKeyword om) := by
  have keyword : ∀ (text : List Char) (name : String) (proto : Protocol), text = name.toList ++ [','] →
      parseProtocol name.toList = some proto → (∀ c ∈ name.toList, nameDelims c = false) → name.toList ≠ [] →
      strToFlowLoop hosts args (text ++ rest) p = strToFlowLoop hosts args rest (p.protocol proto) :=
    fun text name proto spelled found word named => by
      rw [spelled,List.append_assoc,List.singleton_append]
      exact loopProtocol hosts args word named found rest p
  unfold Parsed.readKeyword protocolKeyword
  split_ifs with dlExact ip protoExact icmp tcp udp arp
  · rw [keyword _ "icmp" ⟨"icmp",ethTypeIp,ipTypeIcmp⟩ (by simp) (by simp [parseProtocol,protocols])
      (by simp [nameDelims]) (by simp)]
    simp [Parsed.protocol,Parsed.readExact,ip,icmp,ipTypeIcmp]
  · rw [keyword _ "tcp" ⟨"tcp",ethTypeIp,ipTypeTcp⟩ (by simp) (by simp [parseProtocol,protocols])
      (by simp [nameDelims]) (by simp)]
    simp [Parsed.protocol,Parsed.readExact,ip,tcp,ipTypeTcp]
  · rw [keyword _ "udp" ⟨"udp",ethTypeIp,ipTypeUdp⟩ (by simp) (by simp [parseProtocol,protocols])
      (by simp [nameDelims]) (by simp)]
    simp [Parsed.protocol,Parsed.readExact,ip,udp,ipTypeUdp]
  all_goals try rfl
  iterate 2
    rw [keyword _ "ip" ⟨"ip",ethTypeIp,0⟩ (by simp) (by simp [parseProtocol,protocols]) (by simp [nameDelims])
      (by simp)]
    simp [Parsed.protocol,Parsed.readExact,ip]
  · rw [keyword _ "arp" ⟨"arp",ethTypeArp,0⟩ (by simp) (by simp [parseProtocol,protocols]) (by simp [nameDelims])
      (by simp)]
    simp [Parsed.protocol,Parsed.readExact,arp]

section Kinds
variable {isWild : Bool} {verbosity : Int} {rest : List Char} {p : Parsed}

theorem loopDecimal16 (name leader : String) (bit : UInt32) (store : UInt16 → OfpMatch → OfpMatch)
    (named : leader.toList = name.toList ++ ['=']) (mem : Field.u16 name bit store ∈ fields) {x : UInt16} :
    strToFlowLoop hosts args (printWild leader isWild verbosity (decimal x.toNat) ++ rest) p =
      strToFlowLoop hosts args rest (p.readWild bit (store x) isWild verbosity) := by
  have read := strToU32Decimal (by have := UInt16.toNat_lt x; unfold ulongMax; omega : x.toNat ≤ ulongMax)
  have stored := @fieldU16 hosts name bit store _ (decimalPlain _) _ read
  rw [strToU32U16] at stored
  exact loopPrintWild hosts args mem named (decimalPlain _) Nat.toDigits_ne_nil stored isWild verbosity rest p

theorem loopHex16 (name leader : String) (bit : UInt32) (store : UInt16 → OfpMatch → OfpMatch)
    (named : leader.toList = name.toList ++ ['=']) (mem : Field.u16 name bit store ∈ fields) {x : UInt16} :
    strToFlowLoop hosts args (printWild leader isWild verbosity (hexFmt 4 x.toNat) ++ rest) p =
      strToFlowLoop hosts args rest (p.readWild bit (store x) isWild verbosity) := by
  have read := strToU32Hex 4 (by have := UInt16.toNat_lt x; unfold ulongMax; omega : x.toNat ≤ ulongMax)
  have stored := @fieldU16 hosts name bit store _ (hexFmtPlain _ _) _ read
  rw [strToU32U16] at stored
  exact loopPrintWild hosts args mem named (hexFmtPlain _ _) (List.cons_ne_nil _ _) stored isWild verbosity rest p

theorem loopHex8 (name leader : String) (bit : UInt32) (store : UInt8 → OfpMatch → OfpMatch)
    (named : leader.toList = name.toList ++ ['=']) (mem : Field.u8 name bit store ∈ fields) {x : UInt8} :
    strToFlowLoop hosts args (printWild leader isWild verbosity (hexFmt 2 x.toNat) ++ rest) p =
      strToFlowLoop hosts args rest (p.readWild bit (store x) isWild verbosity) := by
  have read := strToU32Hex 2 (by have := UInt8.toNat_lt x; unfold ulongMax; omega : x.toNat ≤ ulongMax)
  have stored := @fieldU8 hosts name bit store _ (hexFmtPlain _ _) _ read
  rw [strToU32U8] at stored
  exact loopPrintWild hosts args mem named (hexFmtPlain _ _) (List.cons_ne_nil _ _) stored isWild verbosity rest p

theorem loopDecimal8 (name leader : String) (bit : UInt32) (store : UInt8 → OfpMatch → OfpMatch)
    (named : leader.toList = name.toList ++ ['=']) (mem : Field.u8 name bit store ∈ fields) {x : UInt8} :
    strToFlowLoop hosts args (printWild leader isWild verbosity (decimal x.toNat) ++ rest) p =
      strToFlowLoop hosts args rest (p.readWild bit (store x) isWild verbosity) := by
  have read := strToU32Decimal (by have := UInt8.toNat_lt x; unfold ulongMax; omega : x.toNat ≤ ulongMax)
  have stored := @fieldU8 hosts name bit store _ (decimalPlain _) _ read
  rw [strToU32U8] at stored
  exact loopPrintWild hosts args mem named (decimalPlain _) Nat.toDigits_ne_nil stored isWild verbosity rest p

theorem loopMac (name leader : String) (bit : UInt32) (store : EthAddr → OfpMatch → OfpMatch)
    (named : leader.toList = name.toList ++ ['=']) (mem : Field.mac name bit store ∈ fields) {ea : EthAddr} :
    strToFlowLoop hosts args (printWild leader isWild verbosity (ethAddrFmt ea) ++ rest) p =
      strToFlowLoop hosts args rest (p.readWild bit (store ea) isWild verbosity) := by
  have printed : ethAddrFmt ea ≠ [] := by
    obtain ⟨a,b,c,d,e,f,rfl⟩ := ethAddrCases ea
    simp [ethAddrFmt]
  exact loopPrintWild hosts args mem named (ethAddrFmtPlain ea) printed (fieldMac hosts ea) isWild verbosity rest p

end Kinds

end Items

/- Reading back all of ofp_match_to_string's text, item by item. -/
def readPrinted (om : OfpMatch) (verbosity : Int) (p : Parsed) : Parsed :=
  let w := om.wildcards
  let keyword := protocolKeyword om
  let p := p.readKeyword om
  let p := p.readWild ofpfwInPort (fun m => { m with inPort := om.inPort }) (wild w ofpfwInPort) verbosity
  let p := p.readWild ofpfwDlVlan (fun m => { m with dlVlan := om.dlVlan }) (wild w ofpfwDlVlan) verbosity
  let p := p.readWild ofpfwDlVlanPcp (fun m => { m with dlVlanPcp := om.dlVlanPcp }) (wild w ofpfwDlVlanPcp)
    verbosity
  let p := p.readWild ofpfwDlSrc (fun m => { m with dlSrc := om.dlSrc }) (wild w ofpfwDlSrc) verbosity
  let p := p.readWild ofpfwDlDst (fun m => { m with dlDst := om.dlDst }) (wild w ofpfwDlDst) verbosity
  let p := if keyword.2.1 then p
    else p.readWild ofpfwDlType (fun m => { m with dlType := om.dlType }) (wild w ofpfwDlType) verbosity
  let p := p.readNetmask ofpfwNwSrcMask ofpfwNwSrcShift (fun m => { m with nwSrc := om.nwSrc })
    ((w &&& ofpfwNwSrcMask) >>> ofpfwNwSrcShift) verbosity
  let p := p.readNetmask ofpfwNwDstMask ofpfwNwDstShift (fun m => { m with nwDst := om.nwDst })
    ((w &&& ofpfwNwDstMask) >>> ofpfwNwDstShift) verbosity
  let p := p.readWild ofpfwNwTos (fun m => { m with nwTos := om.nwTos }) (wild w ofpfwNwTos) verbosity
  let p := if keyword.2.2 then p
    else p.readWild ofpfwNwProto (fun m => { m with nwProto := om.nwProto }) (wild w ofpfwNwProto) verbosity
  let p := p.readWild ofpfwTpSrc (fun m => { m with tpSrc := om.tpSrc }) (wild w ofpfwTpSrc) verbosity
  p.readWild ofpfwTpDst (fun m => { m with tpDst := om.tpDst }) (wild w ofpfwTpDst) verbosity

section Printed
variable (hosts : List Char → Option UInt32) (args : FlowArgs)

theorem loopPrinted (om : OfpMatch) (verbosity : Int) (rest : List Char) (p : Parsed) :
    strToFlowLoop hosts args (ofpMatchToString om verbosity ++ rest) p =
      strToFlowLoop hosts args rest (readPrinted om verbosity p) := by
  unfold ofpMatchToString readPrinted
  simp only [List.append_assoc]
  rw [loopKeyword,
    loopDecimal16 hosts args "in_port" _ ofpfwInPort (fun v m => { m with inPort := v }) (by simp) (by simp [fields]),
    loopHex16 hosts args "dl_vlan" _ ofpfwDlVlan (fun v m => { m with dlVlan := v }) (by simp) (by simp [fields]),
    loopHex8 hosts args "dl_vlan_pcp" _ ofpfwDlVlanPcp (fun v m => { m with dlVlanPcp := v }) (by simp)
      (by simp [fields]),
    loopMac hosts args "dl_src" _ ofpfwDlSrc (fun v m => { m with dlSrc := v }) (by simp) (by simp [fields]),
    loopMac hosts args "dl_dst" _ ofpfwDlDst (fun v m => { m with dlDst := v }) (by simp) (by simp [fields]),
    loopUnless hosts args _ fun rest p =>
      loopHex16 hosts args "dl_type" _ ofpfwDlType (fun v m => { m with dlType := v }) (by simp) (by simp [fields]),
    loopPrintIpNetmask hosts args "nw_src" _ ofpfwNwSrcMask ofpfwNwSrcShift (fun v m => { m with nwSrc := v }) (by simp)
      (by simp [fields]),
    loopPrintIpNetmask hosts args "nw_dst" _ ofpfwNwDstMask ofpfwNwDstShift (fun v m => { m with nwDst := v }) (by simp)
      (by simp [fields]),
    loopHex8 hosts args "nw_tos" _ ofpfwNwTos (fun v m => { m with nwTos := v }) (by simp) (by simp [fields]),
    loopUnless hosts args _ fun rest p =>
      loopDecimal8 hosts args "nw_proto" _ ofpfwNwProto (fun v m => { m with nwProto := v }) (by simp)
        (by simp [fields])]
  by_cases icmp : om.nwProto = ipTypeIcmp
  · rw [if_pos icmp,List.append_assoc,
      loopDecimal16 hosts args "icmp_type" _ ofpfwIcmpType (fun v m => { m with tpSrc := v }) (by simp)
        (by simp [fields]),
      loopDecimal16 hosts args "icmp_code" _ ofpfwIcmpCode (fun v m => { m with tpDst := v }) (by simp)
        (by simp [fields])]
    rfl
  · rw [if_neg icmp,List.append_assoc,
      loopDecimal16 hosts args "tp_src" _ ofpfwTpSrc (fun v m => { m with tpSrc := v }) (by simp) (by simp [fields]),
      loopDecimal16 hosts args "tp_dst" _ ofpfwTpDst (fun v m => { m with tpDst := v }) (by simp) (by simp [fields])]

end Printed

end OpenFlow.MatchText
