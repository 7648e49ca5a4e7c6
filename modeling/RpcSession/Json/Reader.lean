import RpcSession.Decimal.Numeral
import RpcSession.Value.Basic

/-!
# Reading JSON texts

The reader takes one value from the front of a text and returns what is left. Beyond the standard
it knows the names of the doubles that are no numbers. A fault is reported with the text that was
left where it was found, from which its place in the document follows. Of members with one name
the last value counts, at the place of the first.
-/

namespace RpcSession.Json

inductive Fault where
  | byteOrderMark
  | expectingValue
  | expectingName
  | expectingColon
  | expectingComma
  | extraData
  | unterminatedString
  | controlCharacter
  | badEscape
  | badCodeEscape
  | longInteger (digits : Nat)
  deriving DecidableEq, Repr

structure Failed where
  fault : Fault
  remaining : List Char

def isSpace (character : Char) : Bool :=
  character == ' ' || character == '\t' || character == '\n' || character == '\r'

def skipSpace (characters : List Char) : List Char :=
  characters.dropWhile isSpace

/-! ## Strings -/

def hexValue? (character : Char) : Option Nat :=
  if character.isDigit then some (character.toNat - 0x30)
  else if 'a' ≤ character ∧ character ≤ 'f' then some (character.toNat - 0x57)
  else if 'A' ≤ character ∧ character ≤ 'F' then some (character.toNat - 0x37)
  else none

def codeUnit? (first second third fourth : Char) : Option Nat := do
  let first ← hexValue? first
  let second ← hexValue? second
  let third ← hexValue? third
  let fourth ← hexValue? fourth
  return ((first * 16 + second) * 16 + third) * 16 + fourth

def simpleEscape? (character : Char) : Option Char :=
  match character with
  | '"' => some '"'
  | '\\' => some '\\'
  | '/' => some '/'
  | 'b' => some '\x08'
  | 'f' => some '\x0c'
  | 'n' => some '\n'
  | 'r' => some '\r'
  | 't' => some '\t'
  | _ => none

/-- The codes of a string's characters up to its closing quote; a character beyond the first plane
may be escaped as two codes. `opening` is the text from the opening quote on. -/
def takeCodes (opening : List Char) : List Char → Except Failed (List Nat × List Char)
  | [] => .error ⟨.unterminatedString, opening⟩
  | '"' :: rest => .ok ([], rest)
  | '\\' :: escape =>
      match escape with
      | [] => .error ⟨.unterminatedString, opening⟩
      | 'u' :: digits =>
          match digits with
          | first :: second :: third :: fourth :: next :: rest =>
              match codeUnit? first second third fourth with
              | some code => do
                  let (codes, rest) ← takeCodes opening (next :: rest)
                  return (code :: codes, rest)
              | none => .error ⟨.badCodeEscape, escape⟩
          | _ => .error ⟨.badCodeEscape, escape⟩
      | character :: rest =>
          match simpleEscape? character with
          | some meant => do
              let (codes, rest) ← takeCodes opening rest
              return (meant.toNat :: codes, rest)
          | none => .error ⟨.badEscape, '\\' :: character :: rest⟩
  | character :: rest =>
      if character.toNat < 0x20 then .error ⟨.controlCharacter, character :: rest⟩
      else do
        let (codes, rest) ← takeCodes opening rest
        return (character.toNat :: codes, rest)

def isHighSurrogate (code : Nat) : Bool := 0xd800 ≤ code && code < 0xdc00

def isLowSurrogate (code : Nat) : Bool := 0xdc00 ≤ code && code < 0xe000

/-- A surrogate alone stands for no character and is read as the replacement character. -/
def characterOfCode (code : Nat) : Char :=
  if isHighSurrogate code || isLowSurrogate code then '\ufffd' else Char.ofNat code

/-- Characters of codes, where a high and a low surrogate together are one. -/
def joinSurrogates : List Nat → List Char
  | [] => []
  | [code] => [characterOfCode code]
  | high :: low :: codes =>
      if isHighSurrogate high && isLowSurrogate low then
        Char.ofNat (0x10000 + (high - 0xd800) * 0x400 + (low - 0xdc00)) :: joinSurrogates codes
      else characterOfCode high :: joinSurrogates (low :: codes)

def takeString (characters : List Char) : Except Failed (String × List Char) := do
  let (codes, rest) ← takeCodes ('"' :: characters) characters
  return (String.ofList (joinSurrogates codes), rest)

/-! ## Numbers -/

def takeAsciiDigits (characters : List Char) : List Nat × List Char :=
  ((characters.takeWhile Char.isDigit).map (·.toNat - 0x30), characters.dropWhile Char.isDigit)

/-- The whole part has no leading zeros. -/
def takeWhole : List Char → List Nat × List Char
  | '0' :: rest => ([0], rest)
  | characters => takeAsciiDigits characters

def takeFraction (characters : List Char) : List Nat × List Char :=
  match characters with
  | '.' :: rest =>
      match takeAsciiDigits rest with
      | ([], _) => ([], characters)
      | fraction => fraction
  | _ => ([], characters)

def takePower (characters : List Char) : Option Int × List Char :=
  match characters with
  | mark :: rest =>
      if mark == 'e' || mark == 'E' then
        let (negative, unsigned) := Decimal.takeSign rest
        match takeAsciiDigits unsigned with
        | ([], _) => (none, characters)
        | (digits, rest) =>
            let power : Int := Decimal.ofDigits digits
            (some (if negative then -power else power), rest)
      else (none, characters)
  | [] => (none, [])

/-- The number after an optional minus sign; `start` is the text from the sign on. -/
def takeNumber (start : List Char) (negative : Bool) (characters : List Char) :
    Except Failed (Value × List Char) :=
  match takeWhole characters with
  | ([], _) => .error ⟨.expectingValue, start⟩
  | (whole, rest) =>
      let (fraction, rest) := takeFraction rest
      let (power, rest) := takePower rest
      match fraction, power with
      | [], none =>
          match Decimal.integerOfDigits negative whole with
          | .ok number => .ok (.int number, rest)
          | .error _ => .error ⟨.longInteger whole.length, start⟩
      | _, _ =>
          .ok (.float (Decimal.floatOfDecimal negative (whole ++ fraction)
            (power.getD 0 - fraction.length)), rest)

/-! ## Values -/

def namedValues : List (List Char × Value) := [
  (['n', 'u', 'l', 'l'], .null),
  (['t', 'r', 'u', 'e'], .bool true),
  (['f', 'a', 'l', 's', 'e'], .bool false),
  (['N', 'a', 'N'], .float (Float.ofBits 0x7ff8000000000000)),
  (['I', 'n', 'f', 'i', 'n', 'i', 't', 'y'], .float (Float.ofBits 0x7ff0000000000000)),
  (['-', 'I', 'n', 'f', 'i', 'n', 'i', 't', 'y'], .float (Float.ofBits 0xfff0000000000000))]

/-- The rest of a text after the given beginning. -/
def after? : List Char → List Char → Option (List Char)
  | [], characters => some characters
  | _ :: _, [] => none
  | expected :: beginning, character :: characters =>
      if expected = character then after? beginning characters else none

def takeScalar (characters : List Char) : Except Failed (Value × List Char) :=
  match namedValues.findSome? fun (name, value) => (after? name characters).map (value, ·) with
  | some read => .ok read
  | none =>
      match characters with
      | '"' :: rest => do
          let (text, rest) ← takeString rest
          return (.string text, rest)
      | '-' :: rest => takeNumber characters true rest
      | _ => takeNumber characters false characters

/-- The members with a value for the name: in its place when it has one, else at the end. -/
def setMember (name : String) (value : Value) : List (String × Value) → List (String × Value)
  | [] => [(name, value)]
  | (other, present) :: members =>
      if other = name then (name, value) :: members
      else (other, present) :: setMember name value members

mutual

def takeValue : (fuel : Nat) → List Char → Except Failed (Value × List Char)
  | 0, characters => .error ⟨.expectingValue, characters⟩
  | fuel + 1, '[' :: rest =>
      match skipSpace rest with
      | ']' :: rest => .ok (.array [], rest)
      | items => do
          let (items, rest) ← takeItems fuel items
          return (.array items, rest)
  | fuel + 1, '{' :: rest =>
      match skipSpace rest with
      | '}' :: rest => .ok (.object [], rest)
      | members => do
          let (members, rest) ← takeMembers fuel [] members
          return (.object members, rest)
  | _ + 1, characters => takeScalar characters

def takeItems : (fuel : Nat) → List Char → Except Failed (List Value × List Char)
  | 0, characters => .error ⟨.expectingValue, characters⟩
  | fuel + 1, characters => do
      let (item, rest) ← takeValue fuel characters
      match skipSpace rest with
      | ']' :: rest => return ([item], rest)
      | ',' :: rest =>
          let (items, rest) ← takeItems fuel (skipSpace rest)
          return (item :: items, rest)
      | rest => .error ⟨.expectingComma, rest⟩

def takeMembers : (fuel : Nat) → List (String × Value) → List Char →
    Except Failed (List (String × Value) × List Char)
  | fuel + 1, before, '"' :: rest => do
      let (name, rest) ← takeString rest
      match skipSpace rest with
      | ':' :: rest =>
          let (value, rest) ← takeValue fuel (skipSpace rest)
          let members := setMember name value before
          match skipSpace rest with
          | '}' :: rest => return (members, rest)
          | ',' :: rest => takeMembers fuel members (skipSpace rest)
          | rest => .error ⟨.expectingComma, rest⟩
      | rest => .error ⟨.expectingColon, rest⟩
  | _, _, characters => .error ⟨.expectingName, characters⟩

end

/-! ## Documents -/

structure ReadError where
  fault : Fault
  position : Nat
  deriving DecidableEq, Repr

/-- The one value of a document, with blanks around it. Every value and every member takes at
least one character, so the length of the document bounds the depth. -/
def read (document : List Char) : Except ReadError Value :=
  let failed (failed : Failed) : ReadError :=
    ⟨failed.fault, document.length - failed.remaining.length⟩
  match document with
  | '\ufeff' :: _ => .error ⟨.byteOrderMark, 0⟩
  | _ =>
      match takeValue (document.length + 1) (skipSpace document) with
      | .error found => .error (failed found)
      | .ok (value, rest) =>
          match skipSpace rest with
          | [] => .ok value
          | rest => .error (failed ⟨.extraData, rest⟩)

namespace Fault

def problem : Fault → String
  | byteOrderMark => "Unexpected UTF-8 BOM (decode using utf-8-sig)"
  | expectingValue => "Expecting value"
  | expectingName => "Expecting property name enclosed in double quotes"
  | expectingColon => "Expecting ':' delimiter"
  | expectingComma => "Expecting ',' delimiter"
  | extraData => "Extra data"
  | unterminatedString => "Unterminated string starting at"
  | controlCharacter => "Invalid control character at"
  | badEscape => "Invalid \\escape"
  | badCodeEscape => "Invalid \\uXXXX escape"
  | longInteger digits =>
      "Exceeds the limit (4300 digits) for integer string conversion: value has " ++
        toString digits ++ " digits; use sys.set_int_max_str_digits() to increase the limit"

end Fault

/-- A fault with its line and column; a number that is too long is reported without its place. -/
def ReadError.message (error : ReadError) (document : List Char) : String :=
  let before := document.take error.position
  let line := before.count '\n' + 1
  let column := (before.reverse.takeWhile (· != '\n')).length + 1
  match error.fault with
  | .longInteger _ => error.fault.problem
  | _ =>
      error.fault.problem ++ ": line " ++ toString line ++ " column " ++ toString column ++
        " (char " ++ toString error.position ++ ")"

end RpcSession.Json
