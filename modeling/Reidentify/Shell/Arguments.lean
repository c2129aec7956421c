import Reidentify.Text.Integer
import Reidentify.Text.Quoted

/-!
# Arguments of a command

A command takes options. A long option may be shortened as long as it cannot be mistaken for
another one, and its operand follows behind an equals sign or as the next argument. What looks
like an option is told apart from what does not before anything is read, so an ambiguous
abbreviation is refused wherever it stands; all other complaints come in the order of the
arguments. An argument that no option takes is left over, for a subcommand or for a complaint.
-/

namespace Reidentify

/-- What an option takes behind its name: nothing, a text, an integer, or one of some words. -/
inductive Operand where
  /-- Nothing: the option asks for help. -/
  | help
  /-- Nothing: the option is a switch. -/
  | switch
  /-- A text. -/
  | text
  /-- An integer. -/
  | integer
  /-- One of the words `words`. -/
  | oneOf (words : List String)
  deriving DecidableEq, Repr

/-- Whether an option takes nothing (`help` or `switch`), so that its short name may stand together
with others. -/
def Operand.isNothing : Operand → Bool
  | .help | .switch => true
  | _ => false

/-- An option of a command, by its `names` and what it takes. -/
structure Flag where
  /-- The names of the option, the short one first. -/
  names : List String
  /-- What the option takes. -/
  operand : Operand
  /-- Whether the option has to be given. -/
  isRequired : Bool
  deriving DecidableEq, Repr

/-- The name of `flag` in a complaint: all its names, with slashes between them. -/
def Flag.label (flag : Flag) : String := "/".intercalate flag.names

/-- What is given for an option in the arguments, as its `Operand` asks for. -/
inductive Given where
  /-- Nothing but the option itself. -/
  | present
  /-- A text. -/
  | text (value : String)
  /-- An integer. -/
  | integer (value : Int)
  deriving DecidableEq, Repr

/-- What is wrong with arguments, in the order of the arguments as far as it is about one of them.
-/
inductive UsageFault where
  /-- The abbreviation `argument` may stand for several options, those with `names`. -/
  | ambiguous (argument : String) (names : List String)
  /-- The operand of the option `label` is missing. -/
  | noOperand (label : String)
  /-- The option `label`, which takes nothing, has an operand. -/
  | strayOperand (label operand : String)
  /-- The `operand` of the option `label` is no integer. -/
  | notInteger (label operand : String)
  /-- The `operand` of `label` is none of the `words` that are allowed. -/
  | notAllowed (label operand : String) (words : List String)
  /-- The options `labels`, which have to be given, are missing. -/
  | missing (labels : List String)
  /-- The `arguments` are taken by no option. -/
  | leftOver (arguments : List String)
  deriving DecidableEq, Repr

/-- The wording of a `UsageFault`, behind the name of the topic. -/
def UsageFault.message : UsageFault → String
  | .ambiguous argument names =>
    s!"ambiguous option: {argument} could match " ++ ", ".intercalate names
  | .noOperand label => s!"argument {label}: expected one argument"
  | .strayOperand label operand =>
    s!"argument {label}: ignored explicit argument {Text.quoted operand}"
  | .notInteger label operand =>
    s!"argument {label}: invalid int value: {Text.quoted operand}"
  | .notAllowed label operand words =>
    s!"argument {label}: invalid choice: {Text.quoted operand} (choose from "
      ++ ", ".intercalate (words.map Text.quoted) ++ ")"
  | .missing labels => "the following arguments are required: " ++ ", ".intercalate labels
  | .leftOver arguments => "unrecognized arguments: " ++ " ".intercalate arguments

/-- An operand that is written in one argument with its option, behind an equals sign or the short
name. -/
structure Attached where
  /-- Whether the option is written by its short name. -/
  isShort : Bool
  /-- The operand. -/
  operand : String
  deriving DecidableEq, Repr

/-- What an argument looks like before anything is read, by its first characters and the options
that there are. -/
inductive Token where
  /-- The option `flag`, with an operand that may be attached to it. -/
  | known (flag : Flag) (attached : Option Attached)
  /-- An option that the command does not have. -/
  | unknown
  /-- The sign behind which nothing is an option. -/
  | divider
  /-- No option. -/
  | plain
  deriving DecidableEq, Repr

/-- What reading arguments found, as far as the command understands them: what is `given`, and what
is not taken. -/
structure Reading where
  /-- The options that are given, with the label and what is given. -/
  given : List (String × Given)
  /-- The arguments that are left over. -/
  leftOver : List String
  /-- The arguments from the first one that is no option, if they are for a subcommand. -/
  behind : List String
  deriving DecidableEq, Repr

/-- Why reading arguments stops early, at the first thing that is asked for (`help`) or `wrong`. -/
inductive Stop where
  /-- Help is asked for. -/
  | help
  /-- The arguments are wrong in the way that `fault` says. -/
  | wrong (fault : UsageFault)
  deriving DecidableEq, Repr

namespace Arguments

/-- The option among `flags` that has this `name`, short or long. -/
def flagNamed? (flags : List Flag) (name : String) : Option Flag :=
  flags.find? fun flag => flag.names.contains name

/-- The part of an argument before the first equals sign, and the part behind it, if there is one.
-/
def splitEquals : List Char → List Char × Option (List Char)
  | [] => ([], none)
  | '=' :: rest => ([], some rest)
  | c :: rest => let (before, behind) := splitEquals rest; (c :: before, behind)

/-- The options among `flags` that an argument may abbreviate, with the names it may stand for. -/
def readings (flags : List Flag) (chars : List Char) : List (String × Token) :=
  let named := flags.flatMap fun flag => flag.names.map fun name => (name, flag)
  match chars with
  | '-' :: '-' :: _ =>
    let (start, behind) := splitEquals chars
    let attached := behind.map fun operand => Attached.mk false (String.ofList operand)
    named.filterMap fun (name, flag) =>
      if start.isPrefixOf name.toList then some (name, .known flag attached) else none
  | _ =>
    named.filterMap fun (name, flag) =>
      if name.toList = chars.take 2 then
        some (name, .known flag (some ⟨true, String.ofList (chars.drop 2)⟩))
      else if chars.isPrefixOf name.toList then some (name, .known flag none)
      else none

/-- Whether all `chars` are decimal digits, of any script. -/
def areDigits (chars : List Char) : Bool :=
  chars.all fun c => (Text.digitValue? c).isSome

/-- Whether an argument is a negative number, with or without a fraction, and so no option. -/
def isNegativeNumber : List Char → Bool
  | '-' :: rest =>
    let body := if rest.getLast? = some '\n' then rest.dropLast else rest
    match body.dropWhile fun c => (Text.digitValue? c).isSome with
    | [] => !body.isEmpty
    | '.' :: fraction => !fraction.isEmpty && areDigits fraction
    | _ => false
  | _ => false

/-- What `argument` looks like if it does not stand behind a divider. -/
def tokenOf (flags : List Flag) (argument : String) : Except UsageFault Token :=
  let chars := argument.toList
  if chars.head? ≠ some '-' then .ok .plain
  else
    match flagNamed? flags argument with
    | some flag => .ok (.known flag none)
    | none =>
      if chars = ['-'] then .ok .plain
      else
        let (start, behind) := splitEquals chars
        match behind, flagNamed? flags (String.ofList start) with
        | some operand, some flag =>
          .ok (.known flag (some ⟨start[1]? != some '-', String.ofList operand⟩))
        | _, _ =>
          match readings flags chars with
          | [(_, token)] => .ok token
          | [] =>
            if isNegativeNumber chars || chars.contains ' ' then .ok .plain
            else .ok .unknown
          | several => .error (.ambiguous argument (several.map (·.1)))

/-- The arguments with what they look like, by `tokenOf`; behind a divider all are plain. -/
def tokens (flags : List Flag) : List String → Except UsageFault (List (String × Token))
  | [] => .ok []
  | argument :: rest =>
    if argument = "--" then
      .ok ((argument, .divider) :: rest.map fun behind => (behind, .plain))
    else
      match tokenOf flags argument with
      | .error fault => .error fault
      | .ok token => (tokens flags rest).map ((argument, token) :: ·)

/-- What the text `operand` gives for the option `flag`. -/
def operandOf (flag : Flag) (operand : String) : Except UsageFault Given :=
  match flag.operand with
  | .help | .switch => .error (.strayOperand flag.label operand)
  | .text => .ok (.text operand)
  | .integer =>
    match Text.readInteger operand with
    | .integer value => .ok (.integer value)
    | _ => .error (.notInteger flag.label operand)
  | .oneOf words =>
    if words.contains operand then .ok (.text operand)
    else .error (.notAllowed flag.label operand words)

/-- The options that stand in one argument behind the short name of `flag`, one letter each. A
letter has to name an option that takes nothing. -/
def shortOptions (flags : List Flag) (flag : Flag) : List Char → Except UsageFault (List Flag)
  | [] => .ok [flag]
  | c :: rest =>
    match (flagNamed? flags (String.ofList ['-', c])).filter (·.operand.isNothing) with
    | some next => (shortOptions flags next rest).map (flag :: ·)
    | none => .error (.strayOperand flag.label (String.ofList (c :: rest)))

/-- The effect of the option `flag` without its operand, which is wrong if it needs one. -/
def present (flag : Flag) : Except Stop Given :=
  match flag.operand with
  | .help => .error .help
  | .switch => .ok .present
  | _ => .error (.wrong (.noOperand flag.label))

/-- The effects of options that take nothing, in their order, up to one that asks for help. -/
def presentAll : List Flag → Except Stop (List (Flag × Given))
  | [] => .ok []
  | flag :: rest =>
    match present flag with
    | .error stop => .error stop
    | .ok given => (presentAll rest).map ((flag, given) :: ·)

/-- The effects of the option `flag` with a text that is attached to it. Behind the short name of an
option that takes nothing, the text is for more short names. -/
def attachedTo (flags : List Flag) (flag : Flag) (attached : Attached) :
    Except Stop (List (Flag × Given)) :=
  if flag.operand.isNothing && attached.isShort && !attached.operand.isEmpty then
    match shortOptions flags flag attached.operand.toList with
    | .error fault => .error (.wrong fault)
    | .ok several => presentAll several
  else
    match operandOf flag attached.operand with
    | .error fault => .error (.wrong fault)
    | .ok given => .ok [(flag, given)]

/-- The reading `reading` with `argument` in front of what is left over. -/
def leave (argument : String) (reading : Reading) : Reading :=
  { reading with leftOver := argument :: reading.leftOver }

/-- The reading `reading` with `flag` in front of the options that are given. -/
def give (flag : Flag) (given : Given) (reading : Reading) : Reading :=
  { reading with given := (flag.label, given) :: reading.given }

/-- Goes through the arguments in order. With a subcommand, the first argument that is no option and
all that follow it are for the subcommand; a divider is for it only if more follows. -/
def collect (flags : List Flag) (hasSubcommand : Bool) :
    List (String × Token) → Except Stop Reading
  | [] => .ok ⟨[], [], []⟩
  | (argument, .plain) :: rest =>
    if hasSubcommand then .ok ⟨[], [], argument :: rest.map (·.1)⟩
    else (collect flags hasSubcommand rest).map (leave argument)
  | (argument, .divider) :: rest =>
    if hasSubcommand && !rest.isEmpty then .ok ⟨[], [], argument :: rest.map (·.1)⟩
    else (collect flags hasSubcommand rest).map (leave argument)
  | (argument, .unknown) :: rest => (collect flags hasSubcommand rest).map (leave argument)
  | (_, .known flag (some attached)) :: rest =>
    match attachedTo flags flag attached with
    | .error stop => .error stop
    | .ok several =>
      (collect flags hasSubcommand rest).map fun reading =>
        several.foldr (fun (named, given) reading => give named given reading) reading
  | (_, .known flag none) :: rest =>
    if flag.operand.isNothing then
      match present flag with
      | .error stop => .error stop
      | .ok given => (collect flags hasSubcommand rest).map (give flag given)
    else
      match rest with
      | (operand, .plain) :: others =>
        match operandOf flag operand with
        | .error fault => .error (.wrong fault)
        | .ok given => (collect flags hasSubcommand others).map (give flag given)
      | _ => .error (.wrong (.noOperand flag.label))

/-- The labels of the options among `flags` that have to be given and are not. -/
def missing (flags : List Flag) (reading : Reading) : List String :=
  ((flags.filter (·.isRequired)).map Flag.label).filter fun label =>
    !(reading.given.any (·.1 == label))

/-- Reads the `arguments` of a command with the options `flags`. Whether options are missing is
looked at last. -/
def read (flags : List Flag) (hasSubcommand : Bool) (arguments : List String) :
    Except Stop Reading :=
  match tokens flags arguments with
  | .error fault => .error (.wrong fault)
  | .ok found =>
    match collect flags hasSubcommand found with
    | .error stop => .error stop
    | .ok reading =>
      match missing flags reading with
      | [] => .ok reading
      | labels => .error (.wrong (.missing labels))

end Arguments

namespace Reading

/-- What is given last for the option `label`; what was given before does not count. -/
def last? (reading : Reading) (label : String) : Option Given :=
  reading.given.reverse.lookup label

/-- Whether the option `label` is given at all, with or without an operand. -/
def has (reading : Reading) (label : String) : Bool :=
  (reading.last? label).isSome

/-- The text that is given last for the option `label`. -/
def text? (reading : Reading) (label : String) : Option String :=
  match reading.last? label with
  | some (.text value) => some value
  | _ => none

/-- The integer that is given last for the option `label`. -/
def integer? (reading : Reading) (label : String) : Option Int :=
  match reading.last? label with
  | some (.integer value) => some value
  | _ => none

end Reading

end Reidentify
