import RpcSession.Decimal.Layout
import RpcSession.Text.Quoted
import RpcSession.Value.Basic

/-!
# JSON texts of values

A value is written as JSON with its members in order and its characters beyond ASCII as they are.
The doubles that are no numbers are written by name, and an object of the host as the text that
displays it.
-/

namespace RpcSession.Json

/-- What separates items and what separates a name from its value. -/
structure Style where
  betweenItems : List Char
  afterName : List Char

def spaced : Style := ⟨[',', ' '], [':', ' ']⟩

def compact : Style := ⟨[','], [':']⟩

def numberLayout : Decimal.Layout := ⟨-4, 16, "NaN", "Infinity"⟩

/-! ## Strings -/

def escapeCharacter (character : Char) : List Char :=
  if character = '"' then ['\\', '"']
  else if character = '\\' then ['\\', '\\']
  else if character = '\n' then ['\\', 'n']
  else if character = '\r' then ['\\', 'r']
  else if character = '\t' then ['\\', 't']
  else if character = '\x0c' then ['\\', 'f']
  else if character = '\x08' then ['\\', 'b']
  else if character.toNat < 0x20 then '\\' :: 'u' :: Text.hexDigits 4 character.toNat
  else [character]

def renderString (text : String) : List Char :=
  '"' :: text.toList.flatMap escapeCharacter ++ ['"']

/-! ## Values -/

mutual

def render (style : Style) : Value → List Char
  | .null => ['n', 'u', 'l', 'l']
  | .bool true => ['t', 'r', 'u', 'e']
  | .bool false => ['f', 'a', 'l', 's', 'e']
  | .int number => (toString number).toList
  | .float number => numberLayout.characters number
  | .string text => renderString text
  | .foreign _ display _ => renderString display
  | .array items => '[' :: renderItems style items ++ [']']
  | .object members => '{' :: renderMembers style members ++ ['}']

def renderItems (style : Style) : List Value → List Char
  | [] => []
  | [item] => render style item
  | item :: next :: items =>
      render style item ++ style.betweenItems ++ renderItems style (next :: items)

def renderMembers (style : Style) : List (String × Value) → List Char
  | [] => []
  | [(name, member)] => renderString name ++ style.afterName ++ render style member
  | (name, member) :: next :: members =>
      renderString name ++ style.afterName ++ render style member ++ style.betweenItems ++
        renderMembers style (next :: members)

end

def text (style : Style) (value : Value) : String :=
  String.ofList (render style value)

example : render compact (.object [("a", .array [.int 1, .null])]) =
    ['{', '"', 'a', '"', ':', '[', '1', ',', 'n', 'u', 'l', 'l', ']', '}'] := by decide +kernel

end RpcSession.Json
