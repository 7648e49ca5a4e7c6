import RpcSession.Logging.Conversion

/-!
# Templates of log messages

A template is filled with values at its conversions, each of which begins with a percent sign; two
of them are one sign. A conversion may name, in parentheses, a member of the one object given as
argument.
-/

namespace RpcSession.Logging

/-- What a template is filled with. -/
inductive Arguments where
  | absent
  | several (values : List Value)
  /-- One value, whose members serve conversions with names if it is an object. -/
  | single (value : Value)
  deriving Inhabited

namespace Arguments

/-- One object that is not empty stands for its members. -/
def ofList : List Value → Arguments
  | [] => absent
  | [.object (member :: members)] => single (.object (member :: members))
  | values => several values

def ofValue (value : Value) : Arguments :=
  if value.isTruthy then single value else absent

def values : Arguments → List Value
  | absent => []
  | several values => values
  | single value => [value]

/-- Whether the argument is one with parts, which conversions may name and may leave over. -/
def isIndexed : Arguments → Bool
  | single (.object _) | single (.array _) => true
  | _ => false

def member? (key : String) : Arguments → Except Fault Value
  | single (.object members) =>
      match members.lookup key with
      | some value => .ok value
      | none => .error (.missingKey key)
  | single (.array _) => .error .nameInArray
  | _ => .error .needsMapping

end Arguments

namespace Template

/-- A name up to the parenthesis that closes it, and the rest. -/
def takeKey : (depth : Nat) → List Char → Except Fault (List Char × List Char)
  | _, [] => .error .incompleteKey
  | 0, ')' :: rest => .ok ([], rest)
  | depth + 1, ')' :: rest => do
      let (key, rest) ← takeKey depth rest
      return (')' :: key, rest)
  | depth, character :: rest => do
      let (key, rest) ← takeKey (if character = '(' then depth + 1 else depth) rest
      return (character :: key, rest)

/-- The values for a conversion: the member that it names, or those that are left. -/
def takeNamed (arguments : Arguments) (values : List Value) :
    List Char → Except Fault (List Value × List Char)
  | '(' :: rest => do
      if !arguments.isIndexed then throw .needsMapping
      let (key, rest) ← takeKey 0 rest
      return ([← arguments.member? (String.ofList key)], rest)
  | characters => .ok (values, characters)

/-- Fills what is left of a template of some length with what is left of the values. Every round
takes at least one character. -/
def fill (length : Nat) (arguments : Arguments) : (fuel : Nat) → List Value → List Char →
    Except Fault (List Char)
  | 0, _, _ => .ok []
  | _ + 1, values, [] =>
      if values.isEmpty || arguments.isIndexed then .ok [] else .error .manyArguments
  | fuel + 1, values, '%' :: '%' :: rest => ('%' :: ·) <$> fill length arguments fuel values rest
  | fuel + 1, values, '%' :: rest => do
      let (values, rest) ← takeNamed arguments values rest
      let (conversion, values, rest) ← Conversion.take length values rest
      match values with
      | [] => throw .fewArguments
      | value :: values =>
          let text ← conversion.write value
          (text ++ ·) <$> fill length arguments fuel values rest
  | fuel + 1, values, character :: rest =>
      (character :: ·) <$> fill length arguments fuel values rest

end Template

def fillTemplate (template : String) (arguments : Arguments) : Except Fault String :=
  match arguments with
  | .absent => .ok template
  | _ =>
      let characters := template.toList
      String.ofList <$>
        Template.fill characters.length arguments (characters.length + 1) arguments.values
          characters

end RpcSession.Logging
