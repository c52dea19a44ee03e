import NetworkWrapper.JsonText
import NetworkWrapper.UriAuthority

set_option autoImplicit false

-- The way of the web socket address from the server's command line to the
-- browser's socket.
namespace NetworkWrapper

-- std::to_string of an unsigned value.
def toStdString (value : Nat) : Bytes := (Nat.toDigits 10 value).map fun digit => UInt8.ofNat digit.toNat

def buildWebSocketUrl (ipAddress : Bytes) (port : UInt16) : Bytes :=
  utf8 "\x7b" ++ (utf8 " \"host\": \"" ++ (ipAddress ++ (utf8 "\"," ++ (utf8 " \"port\": \"" ++
    (toStdString port.toNat ++ (utf8 "\"" ++ utf8 " \x7d"))))))

structure WebSocketAddress where
  host : Bytes
  port : Bytes
deriving DecidableEq

def getWebSocketConfig (response : Bytes) : Option WebSocketAddress :=
  match JsonText.parseObject response with
  | none => none
  | some members =>
      match JsonText.property members (utf8 "host"), JsonText.property members (utf8 "port") with
      | some host, some port => some ⟨host, port⟩
      | _, _ => none

-- WebSocketConnection::connect of the browser's client.
def webSocketUrl (inHost inPort : Bytes) : Bytes := utf8 "ws" ++ utf8 "://" ++ (inHost ++ 58 :: (inPort ++ [47]))

-- boost::asio::ip::address
inductive IpAddress where
  | v4 (first second third fourth : UInt8)
  | v6 (bytes : List UInt8) (scopeId : Nat)
deriving DecidableEq

def IpAddress.isV4 : IpAddress → Bool
  | .v4 _ _ _ _ => true
  | .v6 _ _ => false

def dottedDecimal (first second third fourth : UInt8) : Bytes :=
  toStdString first.toNat ++ 46 :: (toStdString second.toNat ++ 46 :: (toStdString third.toNat ++ 46 :: toStdString fourth.toNat))

-- The host of a URI that names the address of this text.
def IpAddress.uriHost (address : IpAddress) (text : Bytes) : UriAuthority.UriHost :=
  match address with
  | .v4 _ _ _ _ => .ipv4Address text
  | .v6 _ _ => .ipLiteral text

def ReachesBrowser (ipAddress : Bytes) (address : IpAddress) (port : UInt16) : Prop :=
  getWebSocketConfig (buildWebSocketUrl ipAddress port) = some ⟨ipAddress, toStdString port.toNat⟩ ∧
    UriAuthority.authorityOf (utf8 "ws") (webSocketUrl ipAddress (toStdString port.toNat)) =
      some ⟨address.uriHost ipAddress, some port.toNat⟩

theorem digit_char_numeric : ∀ digit < 10, UriAuthority.isDigit (UInt8.ofNat (Nat.digitChar digit).toNat) = true ∧
    (UInt8.ofNat (Nat.digitChar digit).toNat).toNat - 48 = digit := by
  decide

theorem to_std_string_small (value : Nat) (small : value < 10) :
    toStdString value = [UInt8.ofNat (Nat.digitChar value).toNat] := by
  simp [toStdString, Nat.toDigits_of_lt_base small]

theorem to_std_string_step (value : Nat) (large : 10 ≤ value) :
    toStdString value = toStdString (value / 10) ++ [UInt8.ofNat (Nat.digitChar (value % 10)).toNat] := by
  simp [toStdString, Nat.toDigits_of_base_le (by omega : 1 < 10) large]

theorem to_std_string_value (value : Nat) :
    (∀ byte ∈ toStdString value, UriAuthority.isDigit byte = true) ∧ toStdString value ≠ [] ∧
      UriAuthority.decimalValue (toStdString value) = value := by
  induction value using Nat.strongRecOn with
  | ind value ih =>
      by_cases small : value < 10
      · obtain ⟨numeric, back⟩ := digit_char_numeric value small
        rw [to_std_string_small value small]
        refine ⟨by simpa using numeric, by simp, ?_⟩
        rw [UriAuthority.decimalValue, List.foldl_cons, List.foldl_nil, back]
        omega
      · obtain ⟨numeric, back⟩ := digit_char_numeric (value % 10) (Nat.mod_lt value (by omega))
        obtain ⟨digits, _, front⟩ := ih (value / 10) (by omega)
        rw [to_std_string_step value (by omega)]
        refine ⟨?_, by simp, ?_⟩
        · intro byte member
          rcases List.mem_append.mp member with earlier | last
          · exact digits byte earlier
          · rw [List.mem_singleton.mp last]
            exact numeric
        · simp only [UriAuthority.decimalValue] at front ⊢
          rw [List.foldl_append, front, List.foldl_cons, List.foldl_nil, back]
          omega

theorem to_std_string_without (value : Nat) (byte : UInt8) (mark : UriAuthority.isDigit byte = false) :
    byte ∉ toStdString value :=
  fun member => UriAuthority.digit_not byte byte ((to_std_string_value value).1 byte member) mark rfl

theorem first_digit : ∀ digit < 10, 0 < digit → UInt8.ofNat (Nat.digitChar digit).toNat ≠ 48 := by
  decide

theorem to_std_string_leading (value : Nat) (positive : 0 < value) : (toStdString value).head? ≠ some 48 := by
  induction value using Nat.strongRecOn with
  | ind value ih =>
      by_cases small : value < 10
      · rw [to_std_string_small value small, List.head?_cons, ne_eq, Option.some.injEq]
        exact first_digit value small positive
      · have something := (to_std_string_value (value / 10)).2.1
        rw [to_std_string_step value (by omega), List.head?_append_of_ne_nil _ something]
        exact ih (value / 10) (by omega) (by omega)

theorem octet_is_dec_octet (octet : UInt8) : UriAuthority.isDecOctet (toStdString octet.toNat) = true := by
  obtain ⟨numeric, something, value⟩ := to_std_string_value octet.toNat
  have bound := octet.toNat_lt
  have lead : (toStdString octet.toNat).length = 1 ∨ (toStdString octet.toNat).head? ≠ some 48 := by
    rcases Nat.eq_zero_or_pos octet.toNat with zero | positive
    · exact .inl (by rw [zero]; rfl)
    · exact .inr (to_std_string_leading octet.toNat positive)
  simp only [UriAuthority.isDecOctet, value, Bool.and_eq_true, decide_eq_true_eq, List.all_eq_true, Bool.or_eq_true]
  exact ⟨⟨⟨something, numeric⟩, lead⟩, by omega⟩

theorem dotted_decimal_address (first second third fourth : UInt8) :
    UriAuthority.isIPv4Address (dottedDecimal first second third fourth) = true := by
  have noDot := fun value => to_std_string_without value 46 (by decide)
  simp only [UriAuthority.isIPv4Address, dottedDecimal, StdString.split_part 46 _ _ (noDot _),
    StdString.split_whole 46 _ (noDot _)]
  simp [octet_is_dec_octet]

theorem dotted_decimal_bytes (first second third fourth : UInt8) :
    ∀ byte ∈ dottedDecimal first second third fourth, UriAuthority.isDigit byte = true ∨ byte = 46 := by
  have numeric := fun value => (to_std_string_value value).1
  intro byte member
  simp only [dottedDecimal, List.mem_append, List.mem_cons] at member
  rcases member with digit | rfl | digit | rfl | digit | rfl | digit
  · exact .inl (numeric _ byte digit)
  · exact .inr rfl
  · exact .inl (numeric _ byte digit)
  · exact .inr rfl
  · exact .inl (numeric _ byte digit)
  · exact .inr rfl
  · exact .inl (numeric _ byte digit)

theorem dotted_plain (text : Bytes) (dotted : ∀ byte ∈ text, UriAuthority.isDigit byte = true ∨ byte = 46) :
    JsonText.Plain text := by
  intro byte member
  rcases dotted byte member with numeric | rfl
  · refine ⟨?_, ?_, ?_⟩
    · simp only [UriAuthority.isDigit, Bool.and_eq_true, decide_eq_true_eq, UInt8.le_iff_toNat_le] at numeric
      rw [UInt8.lt_iff_toNat_lt]
      have large : 48 ≤ byte.toNat := numeric.1
      have bound : (32 : UInt8).toNat = 32 := rfl
      omega
    · exact UriAuthority.digit_not byte 34 numeric (by decide)
    · exact UriAuthority.digit_not byte 92 numeric (by decide)
  · decide

theorem config_read_back (ipAddress : Bytes) (port : UInt16)
    (plain : JsonText.Plain ipAddress) :
    getWebSocketConfig (buildWebSocketUrl ipAddress port) = some ⟨ipAddress, toStdString port.toNat⟩ := by
  have portPlain : JsonText.Plain (toStdString port.toNat) :=
    dotted_plain _ fun byte member => .inl ((to_std_string_value port.toNat).1 byte member)
  have written : JsonText.parseObject (buildWebSocketUrl ipAddress port) =
      some [(utf8 "host", ipAddress), (utf8 "port", toStdString port.toNat)] :=
    JsonText.parse_object_plain (utf8 "host") ipAddress (utf8 "port") (toStdString port.toNat) (by decide) plain
      (by decide) portPlain
  rw [getWebSocketConfig, written]
  rfl

theorem published_address_reaches_browser_iff (makeAddress : Bytes → Option IpAddress)
    (dotted : ∀ text first second third fourth, makeAddress text = some (.v4 first second third fourth) →
      text = dottedDecimal first second third fourth)
    (ipAddress : Bytes) (address : IpAddress) (port : UInt16) (accepted : makeAddress ipAddress = some address) :
    ReachesBrowser ipAddress address port ↔ address.isV4 = true := by
  obtain ⟨numeric, something, value⟩ := to_std_string_value port.toNat
  cases address with
  | v4 first second third fourth =>
      obtain rfl := dotted ipAddress first second third fourth accepted
      have bytes := dotted_decimal_bytes first second third fourth
      have read := UriAuthority.ipv4_host_read_back (utf8 "ws") _ (toStdString port.toNat)
        (dotted_decimal_address first second third fourth) bytes numeric something
      rw [value] at read
      exact ⟨fun _ => rfl, fun _ => ⟨config_read_back _ port (dotted_plain _ bytes), read⟩⟩
  | v6 bytes scopeId =>
      refine ⟨fun reaches => ?_, fun contrary => nomatch contrary⟩
      exact absurd reaches.2 (UriAuthority.bare_host_no_literal (utf8 "ws") ipAddress _ port.toNat numeric)

-- make_address on the texts of the two loopback addresses.
def loopbackAddress (text : Bytes) : Option IpAddress :=
  if text = utf8 "127.0.0.1" then some (.v4 127 0 0 1)
  else if text = utf8 "::1" then some (.v6 [0, 0, 0, 0, 0, 0, 0, 0, 0, 0, 0, 0, 0, 0, 0, 1] 0)
  else none

theorem loopback_dotted (text : Bytes) (first second third fourth : UInt8)
    (accepted : loopbackAddress text = some (.v4 first second third fourth)) :
    text = dottedDecimal first second third fourth := by
  simp only [loopbackAddress] at accepted
  split at accepted
  · rename_i same
    cases accepted
    rw [same]
    decide
  · split at accepted
    · cases accepted
    · cases accepted

theorem loopback_reaches_browser : ReachesBrowser (utf8 "127.0.0.1") (.v4 127 0 0 1) 8888 :=
  (published_address_reaches_browser_iff loopbackAddress loopback_dotted (utf8 "127.0.0.1") _ 8888 (by decide)).mpr rfl

theorem loopback_v6_lost :
    UriAuthority.authorityOf (utf8 "ws") (webSocketUrl (utf8 "::1") (toStdString 8888)) = none ∧
    ¬ ∀ (ipAddress : Bytes) (address : IpAddress) (port : UInt16), loopbackAddress ipAddress = some address →
      ReachesBrowser ipAddress address port := by
  have unread : UriAuthority.authorityOf (utf8 "ws") (webSocketUrl (utf8 "::1") (toStdString 8888)) = none := by decide
  refine ⟨unread, fun always => ?_⟩
  have reaches := always (utf8 "::1") _ 8888 rfl
  have read := reaches.2
  have same : toStdString (8888 : UInt16).toNat = toStdString 8888 := rfl
  rw [same, unread] at read
  cases read

end NetworkWrapper
