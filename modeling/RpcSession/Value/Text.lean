import RpcSession.Decimal.Layout
import RpcSession.Text.Quoted
import RpcSession.Value.Basic

/-!
# Texts of values

A value has two texts: the literal denotes it, with texts in quotes, and the display shows it to
people, with a text as it is. Inside an array or an object every value is written as its literal.
-/

namespace RpcSession.Value

private def enclosed (opening closing : String) (parts : List String) : String :=
  opening ++ ", ".intercalate parts ++ closing

mutual

def literal : Value → String
  | null => "None"
  | bool true => "True"
  | bool false => "False"
  | int number => toString number
  | float number => Decimal.displayLayout.text number
  | string text => Text.quoted text
  | array items => enclosed "[" "]" (literals items)
  | object members => enclosed "\x7b" "\x7d" (memberLiterals members)
  | foreign _ _ literal => literal

def literals : List Value → List String
  | [] => []
  | item :: items => item.literal :: literals items

def memberLiterals : List (String × Value) → List String
  | [] => []
  | (name, member) :: members =>
      (Text.quoted name ++ ": " ++ member.literal) :: memberLiterals members

end

def tupleLiteral (values : List Value) : String :=
  enclosed "(" ")" (literals values)

def display : Value → String
  | string text => text
  | foreign _ display _ => display
  | value => value.literal

def typeName : Value → String
  | null => "NoneType"
  | bool _ => "bool"
  | int _ => "int"
  | float _ => "float"
  | string _ => "str"
  | array _ => "list"
  | object _ => "dict"
  | foreign type _ _ => type

example : (array [null, string "a"]).display = "[None, 'a']" := by decide +kernel

end RpcSession.Value
