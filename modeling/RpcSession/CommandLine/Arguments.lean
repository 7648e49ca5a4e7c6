import RpcSession.Decimal.Numeral
import RpcSession.Text.Quoted

/-!
# Command-line arguments

The program takes options with one argument each, which may follow or be attached by an equals
sign, and may be abbreviated as long as one option is meant. The last of repeated options counts.
Two dashes are no argument: an option to which they are attached is set, but to nothing.
Everything else is a mistake.
-/

namespace RpcSession.CommandLine

inductive Setting where
  | help
  | config
  | files
  | seed
  deriving DecidableEq, Repr

namespace Setting

def all : List Setting := [help, config, files, seed]

def longName : Setting → String
  | help => "--help"
  | config => "--config"
  | files => "--files"
  | seed => "--seed"

def shortHelp : String := "-h"

def title : Setting → String
  | help => shortHelp ++ "/" ++ help.longName
  | setting => setting.longName

def named? (name : String) : Option Setting :=
  if name = shortHelp then some help else all.find? (·.longName == name)

end Setting

/-- Why arguments do not lead to a run: help is wanted, they are mistaken, or the number of files
is set to nothing, which cannot be compared with a number. -/
inductive Refusal where
  | help
  | misuse (message : String)
  | emptyFiles
  deriving DecidableEq, Repr

inductive Choice (α : Type) where
  | unset
  | empty
  | value (value : α)
  deriving DecidableEq, Repr, Inhabited

structure Options where
  config : Choice String := .unset
  files : Choice Int := .unset
  seed : Choice Int := .unset
  deriving DecidableEq, Repr, Inhabited

/-! ## Kinds of arguments -/

inductive Token where
  | plain (text : String)
  /-- Two dashes, after which everything is plain. -/
  | separator
  | option (setting : Setting) (attached : Option String)
  /-- The short option for help with text attached, by an equals sign or directly. -/
  | shortHelp (attached : List Char)
  | unknown (text : String)

namespace Token

def splitMark (text : List Char) : List Char × Option (List Char) :=
  let name := text.takeWhile (· != '=')
  match text.dropWhile (· != '=') with
  | [] => (name, none)
  | _ :: rest => (name, some rest)

private def isDecimal (character : Char) : Bool := (Text.digitValue? character).isSome

private def dropLineEnd (characters : List Char) : List Char :=
  if characters.getLast? = some '\n' then characters.dropLast else characters

def isNegativeNumber : List Char → Bool
  | '-' :: characters =>
      let number := dropLineEnd characters
      let whole := number.takeWhile isDecimal
      match number.dropWhile isDecimal with
      | [] => !whole.isEmpty
      | '.' :: fraction => !fraction.isEmpty && fraction.all isDecimal
      | _ => false
  | _ => false

/-- The kind of an argument that begins with a dash and is no option's name. -/
private def ofDashed (text : String) : Token :=
  match text.toList with
  | '-' :: 'h' :: attached => shortHelp attached
  | characters =>
      if isNegativeNumber characters || characters.contains ' ' then plain text
      else unknown text

def ofText (text : String) : Except Refusal Token :=
  match text.toList with
  | '-' :: second :: rest =>
      let (name, attached) := splitMark ('-' :: second :: rest)
      match Setting.named? text, Setting.named? (String.ofList name) with
      | some setting, _ => .ok (option setting none)
      | none, some setting =>
          if second = '-' then .ok (option setting (attached.map String.ofList))
          else .ok (shortHelp (attached.getD []))
      | none, none =>
          if second ≠ '-' then .ok (ofDashed text)
          else
            match Setting.all.filter fun setting => name.isPrefixOf setting.longName.toList with
            | [] => .ok (ofDashed text)
            | [setting] => .ok (option setting (attached.map String.ofList))
            | settings =>
                .error (.misuse ("ambiguous option: " ++ text ++ " could match " ++
                  ", ".intercalate (settings.map (·.longName))))
  | _ => .ok (plain text)

def ofTexts : List String → Except Refusal (List Token)
  | [] => .ok []
  | "--" :: texts => .ok (separator :: texts.map plain)
  | text :: texts => do
      let token ← ofText text
      let tokens ← ofTexts texts
      return token :: tokens

end Token

/-! ## Meaning of arguments -/

private def mistake (setting : Setting) (problem : String) : Refusal :=
  .misuse ("argument " ++ setting.title ++ ": " ++ problem)

private def ignored (attached : String) : Refusal :=
  mistake .help ("ignored explicit argument " ++ Text.quoted attached)

/-- What comes of text attached to the short option for help: some text, and more of its letters
only. -/
def helpWith (attached : List Char) : Refusal :=
  match attached, attached.dropWhile (· == 'h') with
  | [], _ => ignored ""
  | _, [] => .help
  | _, rest => ignored (String.ofList rest)

private def numberOf (setting : Setting) (text : String) : Except Refusal Int :=
  match Decimal.readInteger text with
  | .ok number => .ok number
  | .error _ => .error (mistake setting ("invalid int value: " ++ Text.quoted text))

namespace Options

def set (options : Options) (setting : Setting) (text : String) : Except Refusal Options :=
  match setting with
  | .help => .error .help
  | .config => .ok { options with config := .value text }
  | .files => do return { options with files := .value (← numberOf .files text) }
  | .seed => do return { options with seed := .value (← numberOf .seed text) }

def setEmpty (options : Options) : Setting → Options
  | .help => options
  | .config => { options with config := .empty }
  | .files => { options with files := .empty }
  | .seed => { options with seed := .empty }

def ofTokens (options : Options) : List Token → Except Refusal (Options × List String)
  | [] => .ok (options, [])
  | .plain text :: tokens | .unknown text :: tokens => do
      let (options, others) ← ofTokens options tokens
      return (options, text :: others)
  | .separator :: tokens => do
      let (options, others) ← ofTokens options tokens
      return (options, "--" :: others)
  | .shortHelp attached :: _ => .error (helpWith attached)
  | .option .help none :: _ => .error .help
  | .option .help (some attached) :: _ => .error (ignored attached)
  | .option setting (some "--") :: tokens => ofTokens (options.setEmpty setting) tokens
  | .option setting (some attached) :: tokens => do
      ofTokens (← options.set setting attached) tokens
  | .option setting none :: .plain text :: tokens => do
      ofTokens (← options.set setting text) tokens
  | .option setting none :: _ => .error (mistake setting "expected one argument")

def ofArguments (arguments : List String) : Except Refusal Options := do
  let (options, others) ← ofTokens {} (← Token.ofTexts arguments)
  if !others.isEmpty then
    throw (.misuse ("unrecognized arguments: " ++ " ".intercalate others))
  match options.files with
  | .empty => throw .emptyFiles
  | .value files => if files < 1 then throw (.misuse "--files must be at least 1")
  | .unset => pure ()
  return options

end Options

end RpcSession.CommandLine
