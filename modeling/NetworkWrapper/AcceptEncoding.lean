import Mathlib.Data.List.TakeWhile
import NetworkWrapper.StdStrings
import NetworkWrapper.Texts

set_option autoImplicit false

-- The value of an Accept-Encoding header, RFC 9110 section 12.5.3: a list of
-- codings with optional weights.
namespace AcceptEncoding

open NetworkWrapper

def isWhitespace (byte : UInt8) : Bool := byte = 32 || byte = 9

def isNumeral (byte : UInt8) : Bool := 48 ≤ byte && byte ≤ 57

def isTokenByte (byte : UInt8) : Bool :=
  (65 ≤ byte && byte ≤ 90) || (97 ≤ byte && byte ≤ 122) || isNumeral byte ||
    [33, 35, 36, 37, 38, 39, 42, 43, 45, 46, 94, 95, 96, 124, 126].contains byte

-- The weight is counted in thousandths.
structure AcceptedCoding where
  coding : Bytes
  weight : Nat
deriving DecidableEq

def thousandths (digits : Bytes) : Nat :=
  ((digits ++ [48, 48, 48]).take 3).foldl (fun (value : Nat) (byte : UInt8) => 10 * value + (byte.toNat - 48)) 0

-- ( "0" [ "." 0*3DIGIT ] ) / ( "1" [ "." 0*3("0") ] )
def parseQvalue (qvalue : Bytes) : Option Nat :=
  match qvalue with
  | [] => none
  | [whole] => if whole = 48 then some 0 else if whole = 49 then some 1000 else none
  | whole :: point :: digits =>
      if point = 46 ∧ digits.length ≤ 3 then
        if whole = 48 ∧ digits.all isNumeral then some (thousandths digits)
        else if whole = 49 ∧ digits.all (· = 48) then some 1000
        else none
      else none

-- [ OWS ";" OWS "q=" qvalue ] OWS
def parseWeight (rest : Bytes) : Option Nat :=
  match rest.dropWhile isWhitespace with
  | [] => some 1000
  | semicolon :: parameter =>
      if semicolon = 59 then
        match parameter.dropWhile isWhitespace with
        | q :: equals :: value =>
            if (q = 113 ∨ q = 81) ∧ equals = 61 ∧ (value.dropWhile (!isWhitespace ·)).all isWhitespace then
              parseQvalue (value.takeWhile (!isWhitespace ·))
            else none
        | _ => none
      else none

def parseElement (element : Bytes) : Option AcceptedCoding :=
  let trimmed := element.dropWhile isWhitespace
  if trimmed.takeWhile isTokenByte = [] then none
  else
    match parseWeight (trimmed.dropWhile isTokenByte) with
    | none => none
    | some weight => some ⟨trimmed.takeWhile isTokenByte, weight⟩

-- A recipient skips the empty elements of a list.
def parseElements : List Bytes → Option (List AcceptedCoding)
  | [] => some []
  | element :: rest =>
      if element.all isWhitespace then parseElements rest
      else
        match parseElement element, parseElements rest with
        | some accepted, some others => some (accepted :: others)
        | _, _ => none

def parse (value : Bytes) : Option (List AcceptedCoding) := parseElements (StdString.splitAtEach 44 value)

def lower (byte : UInt8) : UInt8 := if 65 ≤ byte ∧ byte ≤ 90 then byte + 32 else byte

def SameCoding (coding name : Bytes) : Prop := coding.map lower = name.map lower

instance (coding name : Bytes) : Decidable (SameCoding coding name) := inferInstanceAs (Decidable (_ = _))

def gzip : Bytes := utf8 "gzip"

def MeansGzip (coding : Bytes) : Prop :=
  SameCoding coding gzip ∨ SameCoding coding (utf8 "x-gzip") ∨ coding = utf8 "*"

instance (coding : Bytes) : Decidable (MeansGzip coding) := inferInstanceAs (Decidable (_ ∨ _ ∨ _))

def GzipAccepted (accepted : List AcceptedCoding) : Prop :=
  (∃ member ∈ accepted, MeansGzip member.coding ∧ 0 < member.weight) ∧
    ∀ member ∈ accepted, SameCoding member.coding gzip → 0 < member.weight

instance (accepted : List AcceptedCoding) : Decidable (GzipAccepted accepted) := inferInstanceAs (Decidable (_ ∧ _))

theorem whitespace_outside (byte : UInt8) (blank : isWhitespace byte = true) : byte ∉ gzip := by
  intro letter
  have letters : ∀ byte ∈ gzip, isWhitespace byte = false := by decide +kernel
  rw [letters byte letter] at blank
  cases blank

theorem numeral_outside (byte : UInt8) (numeral : isNumeral byte = true) : byte ∉ gzip := by
  intro letter
  have letters : ∀ byte ∈ gzip, isNumeral byte = false := by decide +kernel
  rw [letters byte letter] at numeral
  cases numeral

theorem parse_qvalue_outside (qvalue : Bytes) (weight : Nat) (parsed : parseQvalue qvalue = some weight) :
    ∀ byte ∈ qvalue, byte ∉ gzip := by
  have zero : (48 : UInt8) ∉ gzip := by decide
  have one : (49 : UInt8) ∉ gzip := by decide
  have point : (46 : UInt8) ∉ gzip := by decide
  match qvalue with
  | [] => cases parsed
  | [whole] =>
      simp only [parseQvalue] at parsed
      rw [List.forall_mem_singleton]
      split at parsed
      · rename_i same
        exact same ▸ zero
      · exact (Option.ite_none_right_eq_some.mp parsed).1 ▸ one
  | whole :: mark :: digits =>
      simp only [parseQvalue] at parsed
      obtain ⟨⟨rfl, _⟩, inner⟩ := Option.ite_none_right_eq_some.mp parsed
      simp only [List.forall_mem_cons]
      split at inner
      · rename_i fraction
        have numerals := List.all_eq_true.mp fraction.2
        exact ⟨fraction.1 ▸ zero, point, fun byte member => numeral_outside byte (numerals byte member)⟩
      · obtain ⟨⟨rfl, zeros⟩, _⟩ := Option.ite_none_right_eq_some.mp inner
        have same := List.all_eq_true.mp zeros
        exact ⟨one, point, fun byte member => of_decide_eq_true (same byte member) ▸ zero⟩

theorem dropped_outside (bytes rest : Bytes) (dropped : bytes.dropWhile isWhitespace = rest)
    (outside : ∀ byte ∈ rest, byte ∉ gzip) : ∀ byte ∈ bytes, byte ∉ gzip := by
  rw [← List.takeWhile_append_dropWhile (p := isWhitespace) (l := bytes), dropped]
  intro byte member
  rcases List.mem_append.mp member with blank | later
  · exact whitespace_outside byte (List.mem_takeWhile_imp blank)
  · exact outside byte later

theorem parse_weight_outside (rest : Bytes) (weight : Nat) (parsed : parseWeight rest = some weight) :
    ∀ byte ∈ rest, byte ∉ gzip := by
  have semicolonOutside : (59 : UInt8) ∉ gzip := by decide
  have smallOutside : (113 : UInt8) ∉ gzip := by decide
  have capitalOutside : (81 : UInt8) ∉ gzip := by decide
  have equalsOutside : (61 : UInt8) ∉ gzip := by decide
  simp only [parseWeight] at parsed
  cases begins : rest.dropWhile isWhitespace with
  | nil => exact dropped_outside rest [] begins (by simp)
  | cons semicolon parameter =>
      simp only [begins] at parsed
      obtain ⟨rfl, weighed⟩ := Option.ite_none_right_eq_some.mp parsed
      refine dropped_outside rest _ begins (List.forall_mem_cons.mpr ⟨semicolonOutside, ?_⟩)
      match named : parameter.dropWhile isWhitespace with
      | [] =>
          rw [named] at weighed
          cases weighed
      | [lonely] =>
          rw [named] at weighed
          cases weighed
      | q :: equals :: value =>
          simp only [named] at weighed
          obtain ⟨⟨letter, rfl, blank⟩, valued⟩ := Option.ite_none_right_eq_some.mp weighed
          refine dropped_outside parameter _ named ?_
          have letterOutside : q ∉ gzip := by
            rcases letter with rfl | rfl
            · exact smallOutside
            · exact capitalOutside
          have valueOutside : ∀ byte ∈ value, byte ∉ gzip := by
            rw [← List.takeWhile_append_dropWhile (p := (!isWhitespace ·)) (l := value)]
            intro byte member
            rcases List.mem_append.mp member with digit | trailing
            · exact parse_qvalue_outside _ weight valued byte digit
            · exact whitespace_outside byte (List.all_eq_true.mp blank byte trailing)
          exact List.forall_mem_cons.mpr ⟨letterOutside, List.forall_mem_cons.mpr ⟨equalsOutside, valueOutside⟩⟩

theorem parse_element_letters (element : Bytes) (accepted : AcceptedCoding) (parsed : parseElement element = some accepted) :
    gzip <:+: element ↔ gzip <:+: accepted.coding := by
  have something : gzip ≠ [] := by decide
  simp only [parseElement] at parsed
  split at parsed
  · cases parsed
  · split at parsed
    · cases parsed
    · rename_i weight weighed
      cases parsed
      have before : ∀ byte ∈ element.takeWhile isWhitespace, byte ∉ gzip :=
        fun byte member => whitespace_outside byte (List.mem_takeWhile_imp member)
      have after := parse_weight_outside _ weight weighed
      have skipped := StdString.infix_after_outside gzip _ (element.dropWhile isWhitespace) something before
      have stopped := StdString.infix_before_outside gzip ((element.dropWhile isWhitespace).takeWhile isTokenByte) _
        something after
      rw [List.takeWhile_append_dropWhile] at skipped stopped
      rw [skipped, stopped]

theorem parse_elements_letters (elements : List Bytes) (accepted : List AcceptedCoding)
    (parsed : parseElements elements = some accepted) :
    (∃ element ∈ elements, gzip <:+: element) ↔ ∃ member ∈ accepted, gzip <:+: member.coding := by
  induction elements generalizing accepted with
  | nil =>
      cases parsed
      simp
  | cons element rest ih =>
      simp only [parseElements] at parsed
      rw [List.exists_mem_cons_iff]
      split at parsed
      · rename_i blank
        have missing : ¬ gzip <:+: element := by
          intro found
          have letter := found.subset (List.mem_cons_self : (103 : UInt8) ∈ gzip)
          exact whitespace_outside 103 (List.all_eq_true.mp blank 103 letter) (by decide)
        rw [or_iff_right missing, ih accepted parsed]
      · split at parsed
        · rename_i member others first later
          cases parsed
          rw [List.exists_mem_cons_iff, ih others later, parse_element_letters element member first]
        · cases parsed

theorem parse_letters (value : Bytes) (accepted : List AcceptedCoding) (parsed : parse value = some accepted) :
    gzip <:+: value ↔ ∃ member ∈ accepted, gzip <:+: member.coding := by
  rw [StdString.infix_split 44 gzip value (by decide)]
  exact parse_elements_letters _ accepted parsed

end AcceptEncoding
