import Mathlib

/-! The C library's text conversions that command-line utilities lean on, over C strings as lists of
characters (the terminating NUL is the end of the list), with glibc's behaviour on an LP64 host: printf's
decimal and zero-padded hexadecimal conversions, strtoul, atoi, sscanf's integer conversions, inet_aton and
strtok_r. -/
namespace CText

/- isspace in the C locale. -/
def isSpace (c : Char) : Bool :=
  c == ' ' || c == '\t' || c == '\n' || c == '\x0b' || c == '\x0c' || c == '\r'

/- The digit `c` stands for in any base up to 36; 36 for a character that is no digit. -/
def charDigit (c : Char) : Nat :=
  if '0' ≤ c ∧ c ≤ '9' then c.toNat - '0'.toNat
  else if 'a' ≤ c ∧ c ≤ 'z' then c.toNat - 'a'.toNat + 10
  else if 'A' ≤ c ∧ c ≤ 'Z' then c.toNat - 'A'.toNat + 10
  else 36

def isDigitOf (base : Nat) (c : Char) : Bool := decide (charDigit c < base)

/- The value of a run of digits. -/
def digitsValue (base : Nat) (ds : List Char) : Nat := ds.foldl (fun acc c => acc * base + charDigit c) 0

/- A rest of the text that no number reads on into: the end of the string, or a character that is neither a
letter nor a digit. -/
def stops (rest : List Char) : Bool := rest.head?.all fun c => charDigit c == 36

/- printf's %u, and %d of a nonnegative value. -/
def decimal (n : Nat) : List Char := Nat.toDigits 10 n

/- printf's %0<width>x. -/
def hexWidth (width n : Nat) : List Char :=
  List.replicate (width - (Nat.toDigits 16 n).length) '0' ++ Nat.toDigits 16 n

/- ULONG_MAX -/
def ulongMax : Nat := 18446744073709551615

/- What strtoul gives back: whether it read a digit, the value, the text from `*endptr` on, and whether it set
errno to ERANGE. -/
structure Conversion where
  read : Bool
  value : Nat
  rest : List Char
  range : Bool
  deriving DecidableEq, Repr

/- An optional sign; `true` for a minus. -/
def sign : List Char → Bool × List Char
  | '-' :: s => (true,s)
  | '+' :: s => (false,s)
  | s => (false,s)

/- The base the digits are read in, and where they start. -/
def prefixBase (base : Nat) : List Char → Nat × List Char
  | '0' :: x :: c :: s =>
    if (base = 0 ∨ base = 16) ∧ (x = 'x' ∨ x = 'X') ∧ isDigitOf 16 c then (16,c :: s)
    else (if base = 0 then 8 else base,'0' :: x :: c :: s)
  | '0' :: s => (if base = 0 then 8 else base,'0' :: s)
  | s => (if base = 0 then 10 else base,s)

/- strtoul(s, &end, base): white space, a sign, then the digits. -/
def strtoul (base : Nat) (s : List Char) : Conversion :=
  let signed := sign (s.dropWhile isSpace)
  let based := prefixBase base signed.2
  let ds := based.2.takeWhile (isDigitOf based.1)
  let n := digitsValue based.1 ds
  if ds = [] then ⟨false,0,s,false⟩
  else if ulongMax < n then ⟨true,ulongMax,based.2.drop ds.length,true⟩
  else ⟨true,if signed.1 then (2 ^ 64 - n) % 2 ^ 64 else n,based.2.drop ds.length,false⟩

/- A signed value converted to an unsigned type of at most 64 bits, before the type's own truncation. -/
def unsignedOf (x : Int) : Nat := (x % 2 ^ 64).toNat

/- atoi(s): strtol in base 10, which clamps to the range of long, converted to int. -/
def atoi (s : List Char) : Int :=
  let signed := sign (s.dropWhile isSpace)
  let n : Int := digitsValue 10 (signed.2.takeWhile (isDigitOf 10))
  let v := if signed.1 then -n else n
  Int.bmod (max (-2 ^ 63) (min (2 ^ 63 - 1) v)) (2 ^ 32)

/- sscanf's %x (base 16) or %u (base 10): what strtoul reads, failing when it reads no digit. -/
def scanNumber (base : Nat) (s : List Char) : Option (Nat × List Char) :=
  let r := strtoul base s
  if r.read then some (r.value,r.rest) else none

/- sscanf with a format of `count + 1` such conversions separated by the character `sep`: every value, when
all of the conversions succeed. -/
def scanSeparated (base : Nat) (sep : Char) : Nat → List Char → Option (List Nat)
  | 0, s => (scanNumber base s).map fun r => [r.1]
  | count + 1, s => do
    let r ← scanNumber base s
    match r.2 with
    | c :: rest => if c = sep then (scanSeparated base sep count rest).map (r.1 :: ·) else none
    | [] => none

/- The parts of a numbers-and-dots address: up to `room` more parts ended by a dot, each at most 0xff, then
the last part, ended by the end of the string or a space. -/
def inetAtonParts : Nat → List Char → Option (List Nat × Nat)
  | _, [] => none
  | room, c :: s =>
    let r := strtoul 0 (c :: s)
    if !c.isDigit || r.range || 0xffffffff < r.value then none
    else match r.rest with
      | [] => some ([],r.value)
      | d :: rest =>
        if d = '.' then
          match room with
          | 0 => none
          | room + 1 =>
            if 0xff < r.value then none else (inetAtonParts room rest).map fun parts => (r.value :: parts.1,parts.2)
        else if isSpace d then some ([],r.value) else none

/- inet_aton: the address in host order, the last part filling the bytes that the dotted parts leave. -/
def inetAton (s : List Char) : Option UInt32 := do
  let parsed ← inetAtonParts 3 s
  match parsed.1 with
  | [] => some parsed.2.toUInt32
  | [a] => if 0xffffff < parsed.2 then none else some (a * 0x1000000 + parsed.2).toUInt32
  | [a,b] => if 0xffff < parsed.2 then none else some (a * 0x1000000 + b * 0x10000 + parsed.2).toUInt32
  | [a,b,c] =>
    if 0xff < parsed.2 then none else some (a * 0x1000000 + b * 0x10000 + c * 0x100 + parsed.2).toUInt32
  | _ => none

/- strtok_r: the next token of `s` after any characters `delim` holds, and the text after the character that
ends it; none when only delimiters are left. -/
def strtok (delim : Char → Bool) (s : List Char) : Option (List Char × List Char) :=
  match s.dropWhile delim with
  | [] => none
  | t => some (t.takeWhile (fun c => !delim c),(t.dropWhile (fun c => !delim c)).drop 1)

section Digits

theorem charDigitChar {d : Nat} (small : d < 16) : charDigit (Nat.digitChar d) = d := by
  interval_cases d <;> decide

theorem digitsValueSnoc (base : Nat) (ds : List Char) (c : Char) :
    digitsValue base (ds ++ [c]) = digitsValue base ds * base + charDigit c := by
  rw [digitsValue,List.foldl_append]
  rfl

theorem toDigitsValue {base : Nat} (hb : 1 < base) (small : base ≤ 16) (n : Nat) :
    digitsValue base (Nat.toDigits base n) = n ∧ ∀ c ∈ Nat.toDigits base n, isDigitOf base c := by
  induction n using Nat.strong_induction_on with
  | _ n ih =>
    rw [Nat.toDigits_eq_if hb]
    split
    · next single =>
      have digit : charDigit (Nat.digitChar n) = n := charDigitChar (by omega)
      exact ⟨by simp [digitsValue,digit],by simp [isDigitOf,digit,single]⟩
    · next many =>
      have lower : n % base < base := Nat.mod_lt n (by omega)
      have last : charDigit (Nat.digitChar (n % base)) = n % base := charDigitChar (by omega)
      obtain ⟨value,digits⟩ := ih (n / base) (Nat.div_lt_self (by omega) hb)
      refine ⟨by rw [digitsValueSnoc,value,last,Nat.div_add_mod'],fun c inside => ?_⟩
      rcases List.mem_append.1 inside with front | back
      · exact digits c front
      · rw [List.mem_singleton.1 back]
        simp [isDigitOf,last,lower]

theorem digitsValueZeros (base k : Nat) (ds : List Char) :
    digitsValue base (List.replicate k '0' ++ ds) = digitsValue base ds := by
  have zeros : ∀ k, (List.replicate k '0').foldl (fun acc c => acc * base + charDigit c) 0 = 0 := by
    intro k
    induction k with
    | zero => rfl
    | succ k ih =>
      rw [List.replicate_succ',List.foldl_append,ih,List.foldl_cons,List.foldl_nil,Nat.zero_mul,Nat.zero_add]
      decide
  rw [digitsValue,List.foldl_append,zeros]
  rfl

theorem hexWidthValue (width n : Nat) :
    digitsValue 16 (hexWidth width n) = n ∧ ∀ c ∈ hexWidth width n, isDigitOf 16 c := by
  obtain ⟨value,digits⟩ := toDigitsValue (by omega : 1 < 16) le_rfl n
  refine ⟨by rw [hexWidth,digitsValueZeros,value],fun c inside => ?_⟩
  rcases List.mem_append.1 inside with pad | digit
  · rw [List.eq_of_mem_replicate pad]
    decide
  · exact digits c digit

theorem decimalHead (n : Nat) : ∃ c s, decimal n = c :: s ∧ charDigit c < 10 ∧ (c = '0' → n = 0) := by
  induction n using Nat.strong_induction_on with
  | _ n ih =>
    rw [decimal,Nat.toDigits_eq_if (by omega)]
    split
    · next single =>
      refine ⟨_,[],rfl,by rw [charDigitChar (by omega)]; omega,fun zero => ?_⟩
      exact Nat.digitChar_eq_zero.1 zero
    · next many =>
      obtain ⟨c,s,first,digit,zero⟩ := ih (n / 10) (by omega)
      rw [decimal] at first
      refine ⟨c,s ++ [Nat.digitChar (n % 10)],by rw [first]; rfl,digit,fun isZero => ?_⟩
      have := zero isZero
      omega

theorem takeWhileStops {p : Char → Bool} {ds rest : List Char} (all : ∀ c ∈ ds, p c)
    (stop : ∀ c ∈ rest.head?, p c = false) : (ds ++ rest).takeWhile p = ds := by
  rw [List.takeWhile_append_of_pos all]
  cases rest with
  | nil => simp
  | cons c rest => simp [stop c rfl]

theorem stopsDigit {rest : List Char} (stop : stops rest) {base : Nat} (small : base ≤ 36) :
    ∀ c ∈ rest.head?, isDigitOf base c = false := by
  intro c first
  cases rest with
  | nil => simp at first
  | cons d rest =>
    simp only [List.head?_cons,Option.mem_def,Option.some.injEq] at first
    subst first
    simp only [stops,List.head?_cons,Option.all_some,beq_iff_eq] at stop
    simp [isDigitOf,stop,small]

theorem stopsCons {c : Char} (other : charDigit c = 36) (rest : List Char) : stops (c :: rest) := by
  simp [stops,other]

end Digits

section Strtoul

theorem plainDigit {c : Char} (digit : charDigit c < 36) (s : List Char) :
    sign ((c :: s).dropWhile isSpace) = (false,c :: s) := by
  have notSpace : isSpace c = false := by
    cases space : isSpace c with
    | false => rfl
    | true =>
      simp only [isSpace,Bool.or_eq_true,beq_iff_eq] at space
      rcases space with ((((rfl | rfl) | rfl) | rfl) | rfl) | rfl <;> simp [charDigit] at digit
  have minus : c ≠ '-' := by
    rintro rfl
    simp [charDigit] at digit
  have plus : c ≠ '+' := by
    rintro rfl
    simp [charDigit] at digit
  rw [List.dropWhile_cons_of_neg (by simp [notSpace])]
  unfold sign
  split <;> simp_all

theorem prefixBaseOther {c : Char} (notZero : c ≠ '0') (base : Nat) (s : List Char) :
    prefixBase base (c :: s) = (if base = 0 then 10 else base,c :: s) := by
  unfold prefixBase
  split <;> simp_all

theorem prefixBaseZero {rest : List Char} (stop : stops rest) (base : Nat) :
    prefixBase base ('0' :: rest) = (if base = 0 then 8 else base,'0' :: rest) := by
  match rest, stop with
  | [], _ => rfl
  | [_], _ => rfl
  | x :: c :: s, stop =>
    have notX : ¬ (x = 'x' ∨ x = 'X') := by
      rintro (rfl | rfl) <;> simp [stops,charDigit] at stop
    simp [prefixBase,notX]

theorem prefixBaseKeep {base : Nat} (given : base ≠ 0) {t : List Char}
    (noX : ∀ x ∈ t.tail.head?, charDigit x ≠ 33) : prefixBase base t = (base,t) := by
  unfold prefixBase
  split
  · next x c s =>
    have notX : ¬ (x = 'x' ∨ x = 'X') := by
      rintro (rfl | rfl) <;> simp [charDigit] at noX
    simp [notX,given]
  · simp [given]
  · simp [given]

theorem strtoulOf {base b : Nat} {s ds rest : List Char} (plain : sign (s.dropWhile isSpace) = (false,s))
    (prefixed : prefixBase base s = (b,ds ++ rest)) (digits : ∀ c ∈ ds, isDigitOf b c) (nonempty : ds ≠ [])
    (stop : ∀ c ∈ rest.head?, isDigitOf b c = false) (fits : digitsValue b ds ≤ ulongMax) :
    strtoul base s = ⟨true,digitsValue b ds,rest,false⟩ := by
  have taken : (ds ++ rest).takeWhile (isDigitOf b) = ds := takeWhileStops digits stop
  simp only [strtoul,plain,prefixed,taken,if_neg nonempty,if_neg (not_lt.2 fits),List.drop_left,
    Bool.false_eq_true,if_false]

theorem strtoulDecimal {n : Nat} (fits : n ≤ ulongMax) {rest : List Char} (stop : stops rest) :
    strtoul 0 (decimal n ++ rest) = ⟨true,n,rest,false⟩ := by
  obtain ⟨c,s,first,digit,zero⟩ := decimalHead n
  obtain ⟨value,digits⟩ := toDigitsValue (by omega : 1 < 10) (by omega) n
  have plain := plainDigit (c := c) (by omega) (s ++ rest)
  rw [first,List.cons_append]
  by_cases isZero : c = '0'
  · -- 0 is printed as "0", which base 0 reads as an octal digit
    have only : decimal n = ['0'] := by
      rw [zero isZero]
      rfl
    rw [first,isZero] at only
    obtain rfl := (List.cons.inj only).2
    rw [isZero] at plain ⊢
    have octal : prefixBase 0 ('0' :: rest) = (8,['0'] ++ rest) := prefixBaseZero stop 0
    have read := strtoulOf plain octal (fun c mem => by rw [List.mem_singleton.1 mem]; decide) (by simp)
      (stopsDigit stop (by omega))
      (by rw [show digitsValue 8 ['0'] = 0 by decide]; exact Nat.zero_le _)
    rw [read,zero isZero]
    rfl
  · have ten : prefixBase 0 (c :: (s ++ rest)) = (10,(c :: s) ++ rest) := prefixBaseOther isZero 0 _
    have read := strtoulOf plain ten (by rw [← first]; exact digits) (by simp) (stopsDigit stop (by omega))
      (by rw [← first,decimal,value]; exact fits)
    rw [read,← first,decimal,value]

theorem strtoulDecimalTen {n : Nat} (fits : n ≤ ulongMax) {rest : List Char} (stop : stops rest) :
    strtoul 10 (decimal n ++ rest) = ⟨true,n,rest,false⟩ := by
  obtain ⟨c,s,first,digit,-⟩ := decimalHead n
  obtain ⟨value,digits⟩ := toDigitsValue (by omega : 1 < 10) (by omega) n
  have second : ∀ x ∈ (s ++ rest).head?, charDigit x ≠ 33 := by
    intro x found
    cases s with
    | cons y s =>
      simp only [List.cons_append,List.head?_cons,Option.mem_def,Option.some.injEq] at found
      subst found
      have := digits y (by rw [← decimal,first]; simp)
      simp only [isDigitOf,decide_eq_true_eq] at this
      omega
    | nil =>
      have : isDigitOf 36 x = false := stopsDigit stop le_rfl x (by simpa using found)
      simp only [isDigitOf,decide_eq_false_iff_not,not_lt] at this
      omega
  have prefixed : prefixBase 10 (c :: (s ++ rest)) = (10,(c :: s) ++ rest) := prefixBaseKeep (by decide) second
  rw [first,List.cons_append]
  have read := strtoulOf (plainDigit (c := c) (by omega) (s ++ rest)) prefixed
    (by rw [← first]; exact digits) (by simp) (stopsDigit stop (by omega)) (by rw [← first,decimal,value]; exact fits)
  rw [read,← first,decimal,value]

theorem strtoulHex {width n : Nat} (fits : n ≤ ulongMax) {rest : List Char} (stop : stops rest) :
    strtoul 0 ('0' :: 'x' :: (hexWidth width n ++ rest)) = ⟨true,n,rest,false⟩ := by
  obtain ⟨value,digits⟩ := hexWidthValue width n
  obtain ⟨c,s,first⟩ : ∃ c s, hexWidth width n = c :: s := by
    cases h : hexWidth width n with
    | nil => simp [hexWidth] at h
    | cons c s => exact ⟨c,s,rfl⟩
  have hexDigit : isDigitOf 16 c := digits c (by rw [first]; simp)
  have prefixed : prefixBase 0 ('0' :: 'x' :: (hexWidth width n ++ rest)) = (16,hexWidth width n ++ rest) := by
    rw [first]
    simp [prefixBase,hexDigit]
  have read := strtoulOf (plainDigit (c := '0') (by decide) ('x' :: (hexWidth width n ++ rest))) prefixed digits
    (by simp [first]) (stopsDigit stop (by omega)) (by rw [value]; exact fits)
  rw [read,value]

theorem strtoulHexPlain {width n : Nat} (fits : n ≤ ulongMax) {rest : List Char} (stop : stops rest) :
    strtoul 16 (hexWidth width n ++ rest) = ⟨true,n,rest,false⟩ := by
  obtain ⟨value,digits⟩ := hexWidthValue width n
  obtain ⟨c,s,first⟩ : ∃ c s, hexWidth width n = c :: s := by
    cases h : hexWidth width n with
    | nil => simp [hexWidth] at h
    | cons c s => exact ⟨c,s,rfl⟩
  have hexDigit : charDigit c < 16 := by simpa [isDigitOf] using digits c (by rw [first]; simp)
  have second : ∀ x ∈ (s ++ rest).head?, charDigit x ≠ 33 := by
    intro x found
    cases s with
    | cons y s =>
      simp only [List.cons_append,List.head?_cons,Option.mem_def,Option.some.injEq] at found
      subst found
      have := digits y (by rw [first]; simp)
      simp only [isDigitOf,decide_eq_true_eq] at this
      omega
    | nil =>
      have : isDigitOf 36 x = false := stopsDigit stop le_rfl x (by simpa using found)
      simp only [isDigitOf,decide_eq_false_iff_not,not_lt] at this
      omega
  have prefixed : prefixBase 16 (c :: (s ++ rest)) = (16,(c :: s) ++ rest) :=
    prefixBaseKeep (by decide) second
  rw [first,List.cons_append]
  have read := strtoulOf (plainDigit (c := c) (by omega) (s ++ rest)) prefixed (by rw [← first]; exact digits)
    (by simp) (stopsDigit stop (by omega)) (by rw [← first,value]; exact fits)
  rw [read,← first,value]

theorem atoiDecimal {n : Nat} (small : n < 2 ^ 31) {rest : List Char} (stop : stops rest) :
    atoi (decimal n ++ rest) = n := by
  obtain ⟨c,s,first,digit,-⟩ := decimalHead n
  obtain ⟨value,digits⟩ := toDigitsValue (by omega : 1 < 10) (by omega) n
  have plain := plainDigit (c := c) (by omega) (s ++ rest)
  have taken : (decimal n ++ rest).takeWhile (isDigitOf 10) = decimal n :=
    takeWhileStops digits (stopsDigit stop (by omega))
  rw [first,List.cons_append] at taken
  simp only [atoi,first,List.cons_append,plain,taken,if_false,Bool.false_eq_true]
  rw [← first,decimal,value]
  have low : (-2 ^ 63 : Int) ≤ n := by omega
  have high : (n : Int) ≤ 2 ^ 63 - 1 := by omega
  rw [min_eq_right high,max_eq_right low,Int.bmod_eq_emod_of_lt (by omega)]
  exact Int.emod_eq_of_lt (by omega) (by omega)

end Strtoul

section Scan

theorem memIntercalate {α : Type} {sep x : α} : ∀ {ls : List (List α)},
    x ∈ List.intercalate [sep] ls → x = sep ∨ ∃ l ∈ ls, x ∈ l
  | [], mem => by simp at mem
  | [l], mem => .inr ⟨l,List.mem_singleton_self l,by simpa using mem⟩
  | l :: l' :: ls, mem => by
    rw [List.intercalate_cons_cons] at mem
    rcases List.mem_append.1 mem with front | back
    · rcases List.mem_append.1 front with inL | isSep
      · exact .inr ⟨l,List.mem_cons_self,inL⟩
      · exact .inl (List.mem_singleton.1 isSep)
    · rcases memIntercalate back with same | ⟨y,inLs,inY⟩
      · exact .inl same
      · exact .inr ⟨y,List.mem_cons_of_mem l inLs,inY⟩

theorem scanNumberOf {base : Nat} {s rest : List Char} {v : Nat} (read : strtoul base s = ⟨true,v,rest,false⟩) :
    scanNumber base s = some (v,rest) := by
  simp [scanNumber,read]

theorem scanSeparatedJoin {base : Nat} {sep : Char} (sepStops : charDigit sep = 36) (print : Nat → List Char) :
    ∀ (v : Nat) (vs : List Nat), (∀ u ∈ v :: vs, ∀ rest, stops rest → scanNumber base (print u ++ rest) = some (u,rest)) →
      scanSeparated base sep vs.length (List.intercalate [sep] ((v :: vs).map print)) = some (v :: vs)
  | v, [], reads => by
    have read := reads v List.mem_cons_self [] rfl
    rw [List.append_nil] at read
    simp [scanSeparated,read]
  | v, u :: vs, reads => by
    have read := reads v List.mem_cons_self (sep :: List.intercalate [sep] ((u :: vs).map print))
      (stopsCons sepStops _)
    have rest := scanSeparatedJoin sepStops print u vs fun x mem => reads x (List.mem_cons_of_mem v mem)
    simp only [List.map_cons,List.intercalate_cons_cons,List.length_cons,scanSeparated] at read rest ⊢
    rw [List.append_assoc,List.singleton_append,read]
    simp [rest]

end Scan

section Aton

theorem isDigitOfDecimal {c : Char} (digit : charDigit c < 10) : c.isDigit := by
  unfold charDigit at digit
  split_ifs at digit with h1 h2 h3
  · simp only [Char.isDigit,Bool.and_eq_true,decide_eq_true_eq]
    exact ⟨h1.1,h1.2⟩
  · omega
  · omega
  · omega

theorem fitsUlong {n : Nat} (small : n ≤ 0xffffffff) : n ≤ ulongMax := by
  unfold ulongMax
  omega

theorem inetAtonDot {n : Nat} (small : n ≤ 0xff) (room : Nat) (more : List Char) :
    inetAtonParts (room + 1) (decimal n ++ '.' :: more) =
      (inetAtonParts room more).map fun parts => (n :: parts.1,parts.2) := by
  obtain ⟨c,s,first,digit,-⟩ := decimalHead n
  have read := strtoulDecimal (fitsUlong (n := n) (by omega)) (stopsCons (c := '.') (by decide) more)
  rw [first,List.cons_append] at read ⊢
  rw [inetAtonParts]
  simp only [read,isDigitOfDecimal digit,Bool.not_true,Bool.false_or,decide_eq_true_eq,
    show ¬ (0xffffffff < n) by omega,show ¬ (0xff < n) by omega,if_false,if_true]

theorem inetAtonLast {n : Nat} (small : n ≤ 0xffffffff) (room : Nat) :
    inetAtonParts room (decimal n) = some ([],n) := by
  obtain ⟨c,s,first,digit,-⟩ := decimalHead n
  have read : strtoul 0 (decimal n ++ []) = ⟨true,n,[],false⟩ := strtoulDecimal (fitsUlong small) rfl
  rw [List.append_nil,first] at read
  rw [first,inetAtonParts]
  simp only [read,isDigitOfDecimal digit,Bool.not_true,Bool.false_or,decide_eq_true_eq,
    show ¬ (0xffffffff < n) by omega,if_false]

theorem inetAtonDotted {a b c d : Nat} (ha : a ≤ 0xff) (hb : b ≤ 0xff) (hc : c ≤ 0xff) (hd : d ≤ 0xff) :
    inetAton (decimal a ++ '.' :: (decimal b ++ '.' :: (decimal c ++ '.' :: decimal d))) =
      some (a * 0x1000000 + b * 0x10000 + c * 0x100 + d).toUInt32 := by
  have parts : inetAtonParts 3 (decimal a ++ '.' :: (decimal b ++ '.' :: (decimal c ++ '.' :: decimal d))) =
      some ([a,b,c],d) := by
    rw [inetAtonDot ha,inetAtonDot hb,inetAtonDot hc,inetAtonLast (by omega)]
    rfl
  simp [inetAton,parts,show ¬ (0xff < d) by omega]

end Aton

section Strtok
variable {delim : Char → Bool}

theorem strtokWord {word : List Char} (inside : ∀ c ∈ word, delim c = false) (nonempty : word ≠ [])
    {d : Char} (ends : delim d) (rest : List Char) : strtok delim (word ++ d :: rest) = some (word,rest) := by
  obtain ⟨c,s,rfl⟩ := List.exists_cons_of_ne_nil nonempty
  have notDelim : delim c = false := inside c List.mem_cons_self
  have word : ∀ x ∈ c :: s, (!delim x) = true := fun x mem => by simp [inside x mem]
  have taken : (c :: (s ++ d :: rest)).takeWhile (fun x => !delim x) = c :: s :=
    takeWhileStops word (by simp [ends])
  have dropped : (c :: (s ++ d :: rest)).dropWhile (fun x => !delim x) = d :: rest := by
    rw [← List.cons_append,List.dropWhile_append_of_pos word,List.dropWhile_cons_of_neg (by simp [ends])]
  rw [strtok,List.cons_append,List.dropWhile_cons_of_neg (by simp [notDelim])]
  simp only [taken,dropped,List.drop_succ_cons,List.drop_zero]

theorem strtokLast {word : List Char} (inside : ∀ c ∈ word, delim c = false) (nonempty : word ≠ []) :
    strtok delim word = some (word,[]) := by
  obtain ⟨c,s,rfl⟩ := List.exists_cons_of_ne_nil nonempty
  have notDelim : delim c = false := inside c List.mem_cons_self
  have word : ∀ x ∈ c :: s, (!delim x) = true := fun x mem => by simp [inside x mem]
  rw [strtok,List.dropWhile_cons_of_neg (by simp [notDelim])]
  simp [List.takeWhile_eq_self_iff.2 word,List.dropWhile_eq_nil_iff.2 word]

theorem strtokShorter {s token rest : List Char} (split : strtok delim s = some (token,rest)) :
    rest.length < s.length := by
  cases found : s.dropWhile delim with
  | nil => simp [strtok,found] at split
  | cons c t =>
    simp only [strtok,found,Option.some.injEq,Prod.mk.injEq] at split
    obtain ⟨-,rfl⟩ := split
    have within : (c :: t).length ≤ s.length := by
      rw [← found]
      exact (List.dropWhile_suffix _).length_le
    have drop : ((c :: t).dropWhile fun c => !delim c).length ≤ (c :: t).length :=
      (List.dropWhile_suffix _).length_le
    simp only [List.length_drop,List.length_cons] at drop within ⊢
    omega

end Strtok

end CText
