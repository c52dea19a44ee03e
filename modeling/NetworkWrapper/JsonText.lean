import NetworkWrapper.Texts

set_option autoImplicit false

-- JSON objects whose members are strings, RFC 8259. The texts are UTF-8.
namespace JsonText

open NetworkWrapper

def isWhitespace (byte : UInt8) : Bool := byte = 32 || byte = 9 || byte = 10 || byte = 13

def hexValue (byte : UInt8) : Option Nat :=
  if 48 ≤ byte && byte ≤ 57 then some (byte.toNat - 48)
  else if 65 ≤ byte && byte ≤ 70 then some (byte.toNat - 55)
  else if 97 ≤ byte && byte ≤ 102 then some (byte.toNat - 87)
  else none

def codeUnit (first second third fourth : UInt8) : Option Nat :=
  match hexValue first, hexValue second, hexValue third, hexValue fourth with
  | some first, some second, some third, some fourth => some (((first * 16 + second) * 16 + third) * 16 + fourth)
  | _, _, _, _ => none

def isSurrogate (unit : Nat) : Bool := 0xD800 ≤ unit && unit < 0xE000

def encodeScalar (scalar : Nat) : Bytes := utf8 (String.singleton (Char.ofNat scalar))

def simpleEscape (byte : UInt8) : Option UInt8 :=
  [(34, 34), (92, 92), (47, 47), (98, 8), (102, 12), (110, 10), (114, 13), (116, 9)].lookup byte

-- What a backslash begins: the character it stands for and the rest of the text.
def escaped (text : Bytes) : Option (Bytes × Bytes) :=
  match text with
  | [] => none
  | escape :: others =>
      if escape = 117 then
        match others with
        | first :: second :: third :: fourth :: after =>
            match codeUnit first second third fourth with
            | none => none
            | some unit => if isSurrogate unit then surrogatePair unit after else some (encodeScalar unit, after)
        | _ => none
      else (simpleEscape escape).map fun character => ([character], others)
where
  surrogatePair (high : Nat) (text : Bytes) : Option (Bytes × Bytes) :=
    match text with
    | backslash :: escape :: first :: second :: third :: fourth :: after =>
        if backslash = 92 ∧ escape = 117 then
          match codeUnit first second third fourth with
          | none => none
          | some low =>
              if high < 0xDC00 ∧ 0xDC00 ≤ low ∧ low < 0xE000 then
                some (encodeScalar (0x10000 + (high - 0xD800) * 0x400 + (low - 0xDC00)), after)
              else none
        else none
    | _ => none

-- What follows the opening quotation mark: the characters and the rest of the
-- text. Every round takes at least a byte, so the length of the text is fuel enough.
def stringTail : Nat → Bytes → Option (Bytes × Bytes)
  | 0, _ => none
  | _, [] => none
  | fuel + 1, byte :: rest =>
      if byte = 34 then some ([], rest)
      else if byte = 92 then
        (escaped rest).bind fun character =>
          (stringTail fuel character.2).map fun later => (character.1 ++ later.1, later.2)
      else if byte < 32 then none
      else (stringTail fuel rest).map fun later => (byte :: later.1, later.2)

def parseString (text : Bytes) : Option (Bytes × Bytes) := stringTail text.length text

def expectByte (expected : UInt8) (text : Bytes) : Option Bytes :=
  match text.dropWhile isWhitespace with
  | [] => none
  | byte :: rest => if byte = expected then some rest else none

def parseMember (text : Bytes) : Option ((Bytes × Bytes) × Bytes) :=
  (expectByte 34 text).bind fun opened =>
    (parseString opened).bind fun name =>
      (expectByte 58 name.2).bind fun separated =>
        (expectByte 34 separated).bind fun valued =>
          (parseString valued).map fun value => ((name.1, value.1), value.2)

def parseMembers : Nat → Bytes → Option (List (Bytes × Bytes) × Bytes)
  | 0, _ => none
  | fuel + 1, text =>
      (parseMember text).bind fun member =>
        match expectByte 44 member.2 with
        | none => some ([member.1], member.2)
        | some next => (parseMembers fuel next).map fun others => (member.1 :: others.1, others.2)

def parseObject (text : Bytes) : Option (List (Bytes × Bytes)) :=
  (expectByte 123 text).bind fun opened =>
    match expectByte 125 opened with
    | some rest => if rest.all isWhitespace then some [] else none
    | none =>
        (parseMembers opened.length opened).bind fun members =>
          (expectByte 125 members.2).bind fun rest => if rest.all isWhitespace then some members.1 else none

-- Of two members with one name the later one counts.
def property (members : List (Bytes × Bytes)) (name : Bytes) : Option Bytes := members.reverse.lookup name

theorem expect_here (byte : UInt8) (rest : Bytes) (solid : isWhitespace byte = false) :
    expectByte byte (byte :: rest) = some rest := by
  simp [expectByte, solid]

theorem expect_after_space (byte : UInt8) (rest : Bytes) (solid : isWhitespace byte = false) :
    expectByte byte (32 :: byte :: rest) = some rest := by
  have space : isWhitespace 32 = true := by decide
  simp [expectByte, space, solid]

theorem expect_other (expected byte : UInt8) (rest : Bytes) (solid : isWhitespace byte = false) (other : byte ≠ expected) :
    expectByte expected (32 :: byte :: rest) = none := by
  have space : isWhitespace 32 = true := by decide
  simp [expectByte, space, solid, other]

def Plain (text : Bytes) : Prop := ∀ byte ∈ text, ¬ byte < 32 ∧ byte ≠ 34 ∧ byte ≠ 92

instance (text : Bytes) : Decidable (Plain text) := List.decidableBAll _ text

theorem string_tail_plain (text rest : Bytes) (fuel : Nat) (enough : text.length < fuel) (plain : Plain text) :
    stringTail fuel (text ++ 34 :: rest) = some (text, rest) := by
  induction text generalizing fuel with
  | nil =>
      cases fuel with
      | zero => cases enough
      | succ fuel => simp [stringTail]
  | cons byte others ih =>
      obtain ⟨⟨printed, notQuote, notBackslash⟩, later⟩ := List.forall_mem_cons.mp plain
      cases fuel with
      | zero => cases enough
      | succ fuel =>
          have tail := ih fuel (Nat.lt_of_succ_lt_succ enough) later
          rw [List.cons_append, stringTail, if_neg notQuote, if_neg notBackslash, if_neg printed, tail, Option.map_some]

theorem parse_string_plain (text rest : Bytes) (plain : Plain text) : parseString (text ++ 34 :: rest) = some (text, rest) := by
  apply string_tail_plain text rest _ _ plain
  simp

theorem parse_member_plain (name value rest : Bytes) (namePlain : Plain name) (valuePlain : Plain value) :
    parseMember (32 :: 34 :: (name ++ 34 :: 58 :: 32 :: 34 :: (value ++ 34 :: rest))) = some ((name, value), rest) := by
  simp only [parseMember, expect_after_space 34 _ (by decide), expect_here 58 _ (by decide), Option.bind_some,
    parse_string_plain name _ namePlain, parse_string_plain value _ valuePlain, Option.map_some]

theorem parse_object_plain (first firstValue second secondValue : Bytes) (firstPlain : Plain first)
    (firstValuePlain : Plain firstValue) (secondPlain : Plain second) (secondValuePlain : Plain secondValue) :
    parseObject (123 :: 32 :: 34 :: (first ++ 34 :: 58 :: 32 :: 34 :: (firstValue ++ 34 :: 44 :: 32 :: 34 ::
      (second ++ 34 :: 58 :: 32 :: 34 :: (secondValue ++ 34 :: [32, 125]))))) =
      some [(first, firstValue), (second, secondValue)] := by
  have notClosed : expectByte 125 (32 :: 34 :: (first ++ 34 :: 58 :: 32 :: 34 :: (firstValue ++ 34 :: 44 :: 32 :: 34 ::
      (second ++ 34 :: 58 :: 32 :: 34 :: (secondValue ++ 34 :: [32, 125]))))) = none :=
    expect_other 125 34 _ (by decide) (by decide)
  have noMore : expectByte 44 [32, 125] = none := expect_other 44 125 [] (by decide) (by decide)
  simp only [parseObject, expect_here 123 _ (by decide), Option.bind_some, notClosed, List.length_cons, parseMembers,
    parse_member_plain first firstValue _ firstPlain firstValuePlain, expect_here 44 _ (by decide),
    parse_member_plain second secondValue _ secondPlain secondValuePlain, noMore, Option.map_some,
    expect_after_space 125 [] (by decide), List.all_nil, if_true]

end JsonText
