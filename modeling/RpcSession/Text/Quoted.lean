import RpcSession.Text.Printable

/-!
# Quoted texts

A text is shown in single quotes, or in double quotes when it holds single quotes only. The quote
and the backslash are escaped, line ends and tabs have short escapes, and any other character
that is not printable is written by its code, in as many hexadecimal digits as it needs.
-/

namespace RpcSession.Text

def hexDigits : (count : Nat) → (number : Nat) → List Char
  | 0, _ => []
  | count + 1, number => hexDigits count (number / 16) ++ [Nat.digitChar (number % 16)]

namespace Quoted

def quoteFor (text : List Char) : Char :=
  if text.contains '\'' && !text.contains '"' then '"' else '\''

def escapeCode (code : Nat) : List Char :=
  if code < 0x100 then '\\' :: 'x' :: hexDigits 2 code
  else if code < 0x10000 then '\\' :: 'u' :: hexDigits 4 code
  else '\\' :: 'U' :: hexDigits 8 code

def encodeCharacter (quote character : Char) : List Char :=
  if character = quote ∨ character = '\\' then ['\\', character]
  else if character = '\n' then ['\\', 'n']
  else if character = '\r' then ['\\', 'r']
  else if character = '\t' then ['\\', 't']
  else if isPrintable character then [character]
  else escapeCode character.toNat

def encode (text : List Char) : List Char :=
  let quote := quoteFor text
  quote :: text.flatMap (encodeCharacter quote) ++ [quote]

end Quoted

def quoted (text : String) : String :=
  String.ofList (Quoted.encode text.toList)

example : Quoted.encode ['i', 't', '\'', 's'] = ['"', 'i', 't', '\'', 's', '"'] := by
  decide +kernel

example : Quoted.encode ['\n', '\x7f'] = ['\'', '\\', 'n', '\\', 'x', '7', 'f', '\''] := by
  decide +kernel

end RpcSession.Text
