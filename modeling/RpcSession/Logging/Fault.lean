import RpcSession.Value.Text

/-!
# Faults of log records

Why a record cannot be written: its template does not fit its arguments, or its time cannot be
told.
-/

namespace RpcSession.Logging

inductive Fault where
  | fewArguments
  | manyArguments
  | needsMapping
  | missingKey (key : String)
  /-- An array has no members with names. -/
  | nameInArray
  | incompleteConversion
  | incompleteKey
  | starNotWhole
  | widthTooBig
  | precisionTooBig
  | precisionTooLarge
  | beyondWords
  | noRoom
  | unknownConversion (conversion : Char) (index : Nat)
  | notANumber (conversion : Char) (type : String)
  | notAnInteger (conversion : Char) (type : String)
  | notADouble (type : String)
  | beyondDoubles
  | notACharacter
  | noCharacter
  | wholeOfNan
  | wholeOfInfinity
  | timeNotANumber
  | timeNotAnInteger (type : String)
  | timeOutOfRange
  | timeTooLarge
  | yearOutOfRange (year : Int)
  | partless (type : String)
  | fewParts (type : String)
  /-- A part of what stands for the failure of a record is of no use. -/
  | uselessPart (type : String)
  | notText (type : String)
  | levelNotANumber (type : String)
  /-- What stands for the making of the message cannot make one. -/
  | cannotMakeMessage (type : String)
  | notAClass (type : String)
  | notADictionary (type : String)
  | missingAttribute (name : String)
  | fixedAttribute (name : String)
  deriving DecidableEq, Repr

namespace Fault

def kind : Fault → String
  | fewArguments | manyArguments | needsMapping | nameInArray | starNotWhole | notANumber _ _
  | notAnInteger _ _ | notADouble _ | notACharacter | timeNotAnInteger _ | partless _ | notText _
  | levelNotANumber _ | cannotMakeMessage _ | notAClass _ | notADictionary _ => "TypeError"
  | missingKey _ => "KeyError"
  | fewParts type => if type = "dict" then "KeyError" else "IndexError"
  | uselessPart _ | missingAttribute _ | fixedAttribute _ => "AttributeError"
  | incompleteConversion | incompleteKey | widthTooBig | precisionTooBig | unknownConversion _ _
  | wholeOfNan | timeNotANumber | yearOutOfRange _ => "ValueError"
  | precisionTooLarge | beyondWords | beyondDoubles | noCharacter | wholeOfInfinity
  | timeOutOfRange => "OverflowError"
  | timeTooLarge => "OSError"
  | noRoom => "MemoryError"

private def shown (character : Char) : Char :=
  if 0x1f ≤ character.toNat && character.toNat < 0x7f then character else '?'

private def format (conversion : Char) : String := "%" ++ String.singleton conversion ++ " format: "

def message : Fault → String
  | fewArguments => "not enough arguments for format string"
  | manyArguments => "not all arguments converted during string formatting"
  | needsMapping => "format requires a mapping"
  | missingKey key => Text.quoted key
  | nameInArray => "list indices must be integers or slices, not str"
  | incompleteConversion => "incomplete format"
  | incompleteKey => "incomplete format key"
  | starNotWhole => "* wants int"
  | widthTooBig => "width too big"
  | precisionTooBig => "precision too big"
  | precisionTooLarge => "precision too large"
  | noRoom => ""
  | beyondWords => "int too large to convert to a word"
  | unknownConversion conversion index =>
      "unsupported format character '" ++ String.singleton (shown conversion) ++ "' (0x" ++
        String.ofList (Nat.toDigits 16 conversion.toNat) ++ ") at index " ++ toString index
  | notANumber conversion type =>
      format conversion ++ "a real number is required, not " ++ type
  | notAnInteger conversion type =>
      format conversion ++ "an integer is required, not " ++ type
  | notADouble type => "must be real number, not " ++ type
  | beyondDoubles => "int too large to convert to float"
  | notACharacter => "%c requires int or char"
  | noCharacter => "%c arg not in range(0x110000)"
  | wholeOfNan => "cannot convert float NaN to integer"
  | wholeOfInfinity => "cannot convert float infinity to integer"
  | timeNotANumber => "Invalid value NaN (not a number)"
  | timeNotAnInteger type => "'" ++ type ++ "' object cannot be interpreted as an integer"
  | timeOutOfRange => "timestamp out of range for platform time_t"
  | timeTooLarge => "[Errno 75] Value too large for defined data type"
  | yearOutOfRange year => "year " ++ toString year ++ " is out of range"
  | partless type => "'" ++ type ++ "' object is not subscriptable"
  | fewParts type =>
      if type = "dict" then "2" else type ++ " index out of range"
  | uselessPart type => "'" ++ type ++ "' object is no part of a failure"
  | notText type => "can only concatenate str (not \"" ++ type ++ "\") to str"
  | levelNotANumber type => "'>=' not supported between instances of '" ++ type ++ "' and 'int'"
  | cannotMakeMessage type => "'" ++ type ++ "' object is not callable"
  | notAClass type => "__class__ must be set to a class, not '" ++ type ++ "' object"
  | notADictionary type => "__dict__ must be set to a dictionary, not a '" ++ type ++ "'"
  | missingAttribute name => "record has no attribute '" ++ name ++ "'"
  | fixedAttribute name => "attribute '" ++ name ++ "' is not writable"

end Fault

end RpcSession.Logging
