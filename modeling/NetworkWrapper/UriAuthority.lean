import Mathlib.Data.List.TakeWhile
import NetworkWrapper.StdStrings
import NetworkWrapper.Texts

set_option autoImplicit false

-- authority = [ userinfo "@" ] host [ ":" port ], RFC 3986 section 3.2.
namespace UriAuthority

open NetworkWrapper

def isDigit (byte : UInt8) : Bool := 48 ≤ byte && byte ≤ 57

def isHexDigit (byte : UInt8) : Bool := isDigit byte || (65 ≤ byte && byte ≤ 70) || (97 ≤ byte && byte ≤ 102)

def isUnreserved (byte : UInt8) : Bool :=
  isDigit byte || (65 ≤ byte && byte ≤ 90) || (97 ≤ byte && byte ≤ 122) || [45, 46, 95, 126].contains byte

def isSubDelim (byte : UInt8) : Bool := [33, 36, 38, 39, 40, 41, 42, 43, 44, 59, 61].contains byte

-- *( unreserved / pct-encoded / sub-delims / more )
def isUriText (more : Bytes) : Bytes → Bool
  | [] => true
  | byte :: rest =>
      if byte = 37 then
        match rest with
        | first :: second :: others => isHexDigit first && isHexDigit second && isUriText more others
        | _ => false
      else (isUnreserved byte || isSubDelim byte || more.contains byte) && isUriText more rest

def decimalValue (digits : Bytes) : Nat :=
  digits.foldl (fun (value : Nat) (byte : UInt8) => 10 * value + (byte.toNat - 48)) 0

def isDecOctet (text : Bytes) : Bool :=
  text ≠ [] && text.all isDigit && (text.length = 1 || text.head? ≠ some 48) && decimalValue text ≤ 255

def isIPv4Address (text : Bytes) : Bool :=
  (StdString.splitAtEach 46 text).length = 4 && (StdString.splitAtEach 46 text).all isDecOctet

def isH16 (text : Bytes) : Bool := 1 ≤ text.length && text.length ≤ 4 && text.all isHexDigit

-- How many 16-bit pieces stand between the colons; an IPv4 address at the end
-- counts for two.
def countPieces (embedded : Bool) (text : Bytes) : Option Nat :=
  if text = [] then some 0
  else
    let pieces := StdString.splitAtEach 58 text
    if !pieces.dropLast.all isH16 then none
    else
      match pieces.getLast? with
      | none => none
      | some last =>
          if isH16 last then some pieces.length
          else if embedded && isIPv4Address last then some (pieces.length + 1)
          else none

def isIPv6Address (text : Bytes) : Bool :=
  match StdString.find text [58, 58] with
  | none => countPieces true text = some 8
  | some position =>
      match countPieces false (text.take position), countPieces true (text.drop (position + 2)) with
      | some before, some after => before + after ≤ 7
      | _, _ => false

-- "v" 1*HEXDIG "." 1*( unreserved / sub-delims / ":" )
def isIPvFuture (text : Bytes) : Bool :=
  match text with
  | [] => false
  | version :: rest =>
      (version = 118 || version = 86) && rest.takeWhile isHexDigit ≠ [] &&
        match rest.dropWhile isHexDigit with
        | point :: address =>
            point = 46 && address ≠ [] && address.all fun byte => isUnreserved byte || isSubDelim byte || byte = 58
        | [] => false

inductive UriHost where
  | ipLiteral (address : Bytes)
  | ipv4Address (address : Bytes)
  | regName (name : Bytes)
deriving DecidableEq

structure Authority where
  host : UriHost
  port : Option Nat
deriving DecidableEq

def parsePort (text : Bytes) : Option (Option Nat) :=
  match text with
  | [] => some none
  | colon :: digits =>
      if colon = 58 ∧ digits.all isDigit then
        if digits = [] then some none else some (some (decimalValue digits))
      else none

-- The first rule that fits the host is the one that counts.
def parseHostPort (text : Bytes) : Option Authority :=
  if text.head? = some 91 then
    let literal := (text.drop 1).takeWhile (· ≠ 93)
    match (text.drop 1).dropWhile (· ≠ 93) with
    | [] => none
    | _ :: after =>
        if isIPv6Address literal || isIPvFuture literal then (parsePort after).map fun port => ⟨.ipLiteral literal, port⟩
        else none
  else
    let name := text.takeWhile (· ≠ 58)
    if isUriText [] name then
      (parsePort (text.dropWhile (· ≠ 58))).map fun port =>
        ⟨if isIPv4Address name then .ipv4Address name else .regName name, port⟩
    else none

def parseAuthority (text : Bytes) : Option Authority :=
  if 64 ∈ text then
    if isUriText [58] (text.takeWhile (· ≠ 64)) then parseHostPort ((text.dropWhile (· ≠ 64)).drop 1) else none
  else parseHostPort text

-- The authority ends at the next slash, question mark or number sign.
def isAuthorityByte (byte : UInt8) : Bool := byte ≠ 47 && byte ≠ 63 && byte ≠ 35

def authorityOf (scheme url : Bytes) : Option Authority :=
  let start := scheme ++ utf8 "://"
  if start <+: url then parseAuthority ((url.drop start.length).takeWhile isAuthorityByte) else none

theorem parse_port_some (text : Bytes) (port : Nat) (parsed : parsePort text = some (some port)) :
    ∃ digits, text = 58 :: digits ∧ ∀ byte ∈ digits, isDigit byte = true := by
  cases text with
  | nil => cases parsed
  | cons colon digits =>
      simp only [parsePort] at parsed
      split at parsed
      · rename_i written
        exact ⟨digits, by rw [written.1], List.all_eq_true.mp written.2⟩
      · cases parsed

theorem parse_host_port_literal (text address : Bytes) (port : Nat)
    (parsed : parseHostPort text = some ⟨.ipLiteral address, some port⟩) :
    ∃ digits, text = 91 :: (address ++ 93 :: 58 :: digits) ∧ ∀ byte ∈ digits, isDigit byte = true := by
  by_cases opened : text.head? = some 91
  · obtain ⟨rest, rfl⟩ : ∃ rest, text = 91 :: rest := by
      cases text with
      | nil => cases opened
      | cons head rest => exact ⟨rest, by rw [Option.some.inj opened]⟩
    simp only [parseHostPort, if_pos opened, List.drop_succ_cons, List.drop_zero] at parsed
    have split := List.takeWhile_append_dropWhile (p := fun byte : UInt8 => decide (byte ≠ 93)) (l := rest)
    rcases StdString.drop_to_separator 93 rest with unclosed | ⟨after, closed⟩
    · simp only [unclosed] at parsed
      cases parsed
    · simp only [closed] at parsed
      obtain ⟨found, ported, same⟩ := Option.map_eq_some_iff.mp (Option.ite_none_right_eq_some.mp parsed).2
      injection same with host portSame
      injection host with literal
      obtain ⟨digits, rfl, numeric⟩ := parse_port_some after port (portSame ▸ ported)
      rw [literal, closed] at split
      exact ⟨digits, by rw [split], numeric⟩
  · simp only [parseHostPort, if_neg opened] at parsed
    obtain ⟨found, _, same⟩ := Option.map_eq_some_iff.mp (Option.ite_none_right_eq_some.mp parsed).2
    injection same with host _
    split at host
    · cases host
    · cases host

theorem parse_authority_literal (text address : Bytes) (port : Nat)
    (parsed : parseAuthority text = some ⟨.ipLiteral address, some port⟩) :
    ∃ front digits, text = front ++ 91 :: (address ++ 93 :: 58 :: digits) ∧ ∀ byte ∈ digits, isDigit byte = true := by
  by_cases user : 64 ∈ text
  · simp only [parseAuthority, if_pos user] at parsed
    obtain ⟨digits, hosted, numeric⟩ := parse_host_port_literal _ address port (Option.ite_none_right_eq_some.mp parsed).2
    have split := List.takeWhile_append_dropWhile (p := fun byte : UInt8 => decide (byte ≠ 64)) (l := text)
    rcases StdString.drop_to_separator 64 text with missing | ⟨rest, found⟩
    · rw [missing] at hosted
      cases hosted
    · rw [found, List.drop_succ_cons, List.drop_zero] at hosted
      rw [found, hosted] at split
      exact ⟨text.takeWhile (· ≠ 64) ++ [64], digits, by rw [List.append_assoc, List.singleton_append, split], numeric⟩
  · simp only [parseAuthority, if_neg user] at parsed
    obtain ⟨digits, hosted, numeric⟩ := parse_host_port_literal text address port parsed
    exact ⟨[], digits, hosted, numeric⟩

theorem digit_not (byte other : UInt8) (numeric : isDigit byte = true) (mark : isDigit other = false) : byte ≠ other := by
  rintro rfl
  rw [mark] at numeric
  cases numeric

theorem digit_in_authority (byte : UInt8) (numeric : isDigit byte = true) : isAuthorityByte byte = true := by
  simp [isAuthorityByte, digit_not byte 47 numeric (by decide), digit_not byte 63 numeric (by decide),
    digit_not byte 35 numeric (by decide)]

theorem colon_not_digit (digits : Bytes) (numeric : ∀ byte ∈ digits, isDigit byte = true) : 58 ∉ digits :=
  fun member => digit_not 58 58 (numeric 58 member) (by decide) rfl

theorem authority_kept (host digits : Bytes) (whole : ∀ byte ∈ host, isAuthorityByte byte = true)
    (numeric : ∀ byte ∈ digits, isDigit byte = true) :
    (host ++ 58 :: (digits ++ [47])).takeWhile isAuthorityByte = host ++ 58 :: digits := by
  have inside : ∀ byte ∈ host ++ 58 :: digits, isAuthorityByte byte = true := by
    intro byte member
    rcases List.mem_append.mp member with hosted | rest
    · exact whole byte hosted
    · rcases List.mem_cons.mp rest with rfl | digit
      · decide
      · exact digit_in_authority byte (numeric byte digit)
  have regrouped : host ++ 58 :: (digits ++ [47]) = (host ++ 58 :: digits) ++ [47] := by simp
  rw [regrouped, List.takeWhile_append_of_pos inside, List.takeWhile_cons_of_neg (by decide), List.append_nil]

theorem authority_cut (host rest : Bytes) (broken : ¬ ∀ byte ∈ host, isAuthorityByte byte = true) :
    ((host ++ rest).takeWhile isAuthorityByte).length ≤ host.length := by
  rw [List.takeWhile_append]
  split
  · rename_i same
    refine absurd (fun byte member => ?_) broken
    rw [← (List.takeWhile_prefix isAuthorityByte).eq_of_length same] at member
    exact List.mem_takeWhile_imp member
  · exact (List.takeWhile_prefix isAuthorityByte).length_le

theorem bare_host_no_literal (scheme host digits : Bytes) (port : Nat) (numeric : ∀ byte ∈ digits, isDigit byte = true) :
    authorityOf scheme (scheme ++ utf8 "://" ++ (host ++ 58 :: (digits ++ [47]))) ≠ some ⟨.ipLiteral host, some port⟩ := by
  intro parsed
  simp only [authorityOf, List.prefix_append, if_true, List.drop_left] at parsed
  obtain ⟨front, otherDigits, written, otherNumeric⟩ := parse_authority_literal _ host port parsed
  by_cases whole : ∀ byte ∈ host, isAuthorityByte byte = true
  · rw [authority_kept host digits whole numeric] at written
    have regrouped : front ++ 91 :: (host ++ 93 :: 58 :: otherDigits) = (front ++ 91 :: (host ++ [93])) ++ 58 :: otherDigits := by
      simp
    have last := congrArg (StdString.findLastOf · 58) (written.trans regrouped)
    simp only [StdString.find_last_of_split _ _ 58 (colon_not_digit _ numeric),
      StdString.find_last_of_split _ _ 58 (colon_not_digit _ otherNumeric), Option.some.injEq, List.length_append,
      List.length_cons, List.length_nil] at last
    omega
  · have cut := authority_cut host (58 :: (digits ++ [47])) whole
    rw [written] at cut
    simp only [List.length_append, List.length_cons] at cut
    omega

theorem dotted_uri_text (host : Bytes) (dotted : ∀ byte ∈ host, isDigit byte = true ∨ byte = 46) : isUriText [] host = true := by
  induction host with
  | nil => rfl
  | cons byte rest ih =>
      obtain ⟨first, later⟩ := List.forall_mem_cons.mp dotted
      have unreserved : isUnreserved byte = true := by
        rcases first with numeric | rfl
        · simp [isUnreserved, numeric]
        · decide
      have notPercent : byte ≠ 37 := by
        rintro rfl
        exact absurd unreserved (by decide)
      unfold isUriText
      rw [if_neg notPercent, unreserved, ih later]
      rfl

theorem ipv4_host_read_back (scheme host digits : Bytes) (address : isIPv4Address host = true)
    (dotted : ∀ byte ∈ host, isDigit byte = true ∨ byte = 46) (numeric : ∀ byte ∈ digits, isDigit byte = true)
    (something : digits ≠ []) :
    authorityOf scheme (scheme ++ utf8 "://" ++ (host ++ 58 :: (digits ++ [47]))) =
      some ⟨.ipv4Address host, some (decimalValue digits)⟩ := by
  have mark : ∀ other, isDigit other = false → other ≠ 46 → other ∉ host := by
    intro other notDigit notDot member
    rcases dotted other member with numeric | same
    · exact digit_not other other numeric notDigit rfl
    · exact notDot same
  have whole : ∀ byte ∈ host, isAuthorityByte byte = true := by
    intro byte member
    rcases dotted byte member with digit | rfl
    · exact digit_in_authority byte digit
    · decide
  have noUser : 64 ∉ host ++ 58 :: digits := by
    have noUserDigits : 64 ∉ digits := fun member => digit_not 64 64 (numeric 64 member) (by decide) rfl
    simp [mark 64 (by decide) (by decide), noUserDigits]
  have noBracket : (host ++ 58 :: digits).head? ≠ some 91 := by
    cases host with
    | nil => simp
    | cons byte rest =>
        have notHere := mark 91 (by decide) (by decide)
        simp only [List.cons_append, List.head?_cons, ne_eq, Option.some.injEq]
        rintro rfl
        exact notHere List.mem_cons_self
  have beforeColon : ∀ byte ∈ host, decide (byte ≠ 58) = true := by
    intro byte member
    simp only [ne_eq, decide_not, Bool.not_eq_true', decide_eq_false_iff_not]
    rintro rfl
    exact mark 58 (by decide) (by decide) member
  simp only [authorityOf, List.prefix_append, if_true, List.drop_left, authority_kept host digits whole numeric,
    parseAuthority, if_neg noUser, parseHostPort, if_neg noBracket, List.takeWhile_append_of_pos beforeColon,
    List.dropWhile_append_of_pos beforeColon]
  simpa [dotted_uri_text host dotted, parsePort, something, address] using numeric

end UriAuthority
