/-!
What a command line asks for. Arguments are read from left to right. An option
takes its value from the same argument or from the next one; the value counts
when the next argument that makes sense has been read, so that an argument that
makes none is reported first.
-/

namespace HtmlBuilder.Command

inductive ValueOption where
  | output
  | config
  | indentWidth
  | baseDepth
deriving DecidableEq

inductive Flag where
  | directLinks
  | force
  | check
  | verbose
  | help
  | version
deriving DecidableEq

inductive NumberFault where
  | empty
  | invalidDigit
  | tooLarge
  | tooSmall
  | outOfRange (n : Int) (limit : Nat)
deriving DecidableEq

inductive UsageError where
  | missingValue (option : ValueOption)
  | repeatedOption (option : ValueOption)
  | repeatedFlag (flag : Flag)
  | invalidValue (value : String) (option : ValueOption) (fault : NumberFault)
  | unknown (argument : String)
  | unneededValue (value : String) (flag : Flag)
deriving DecidableEq

structure Invocation where
  input? : Option String := none
  output? : Option String := none
  config? : Option String := none
  indentWidth? : Option UInt8 := none
  baseDepth? : Option UInt16 := none
  directLinks : Bool := false
  force : Bool := false
  check : Bool := false
  verbosity : Nat := 0
deriving DecidableEq

/-- Why reading arguments stops: an error, or a flag that asks for a text. -/
inductive Stop where
  | error (error : UsageError)
  | help (isLong : Bool)
  | version
deriving DecidableEq

namespace ValueOption

def all : List ValueOption := [.output, .config, .indentWidth, .baseDepth]

def long : ValueOption → String
  | .output => "output"
  | .config => "config"
  | .indentWidth => "indent-width"
  | .baseDepth => "base-depth"

def valueName : ValueOption → String
  | .output => "FILE"
  | .config => "PATH"
  | .indentWidth | .baseDepth => "N"

def text (option : ValueOption) : String :=
  "--" ++ option.long ++ " <" ++ option.valueName ++ ">"

def ofShort? (c : Char) : Option ValueOption :=
  if c == 'o' then some .output else none

end ValueOption

namespace Flag

def all : List Flag := [.directLinks, .force, .check, .verbose, .help, .version]

def long : Flag → String
  | .directLinks => "direct-links"
  | .force => "force"
  | .check => "check"
  | .verbose => "verbose"
  | .help => "help"
  | .version => "version"

def text (flag : Flag) : String :=
  "--" ++ flag.long ++ if flag = .verbose then "..." else ""

def ofShort? (c : Char) : Option Flag :=
  match c with
  | 'v' => some .verbose
  | 'h' => some .help
  | 'V' => some .version
  | _ => none

end Flag

/-- Reads the digits of a number of 64 bits from left to right; the first fault
counts. -/
def readDigits (negative : Bool) (n : Nat) : List Char → Except NumberFault Int
  | [] => .ok (if negative then -(n : Int) else n)
  | c :: rest =>
    if !c.isDigit then .error .invalidDigit
    else
      let n := n * 10 + (c.toNat - '0'.toNat)
      if negative && n > Nat.pow 2 63 then .error .tooSmall
      else if !negative && n ≥ Nat.pow 2 63 then .error .tooLarge
      else readDigits negative n rest

def readNumber (text : List Char) : Except NumberFault Int :=
  match text with
  | [] => .error .empty
  | ['+'] | ['-'] => .error .invalidDigit
  | '+' :: digits => readDigits false 0 digits
  | '-' :: digits => readDigits true 0 digits
  | digits => readDigits false 0 digits

def readNatural (limit : Nat) (text : String) : Except NumberFault Nat :=
  match readNumber text.toList with
  | .error fault => .error fault
  | .ok n =>
    if 0 ≤ n && n ≤ limit then .ok n.toNat else .error (.outOfRange n limit)

structure Pending where
  option : ValueOption
  value? : Option String

structure Reading where
  invocation : Invocation := {}
  pending? : Option Pending := none
  /-- Whether all arguments that follow are operands. -/
  operandsOnly : Bool := false

namespace Invocation

def hasOption (invocation : Invocation) (option : ValueOption) : Bool :=
  match option with
  | .output => invocation.output?.isSome
  | .config => invocation.config?.isSome
  | .indentWidth => invocation.indentWidth?.isSome
  | .baseDepth => invocation.baseDepth?.isSome

def setOption (invocation : Invocation) (option : ValueOption)
    (value : String) : Except UsageError Invocation :=
  if invocation.hasOption option then .error (.repeatedOption option)
  else
    let number := fun limit =>
      match readNatural limit value with
      | .ok n => Except.ok n
      | .error fault => .error (.invalidValue value option fault)
    match option with
    | .output => .ok { invocation with output? := some value }
    | .config => .ok { invocation with config? := some value }
    | .indentWidth => do
      return { invocation with indentWidth? := some (← number 255).toUInt8 }
    | .baseDepth => do
      return { invocation with baseDepth? := some (← number 65535).toUInt16 }

def setFlag (invocation : Invocation) (flag : Flag) (isLong : Bool) :
    Except Stop Invocation :=
  let once := fun (isSet : Bool) (set : Invocation) =>
    if isSet then Except.error (Stop.error (.repeatedFlag flag)) else .ok set
  match flag with
  | .directLinks =>
    once invocation.directLinks { invocation with directLinks := true }
  | .force => once invocation.force { invocation with force := true }
  | .check => once invocation.check { invocation with check := true }
  | .verbose => .ok { invocation with verbosity := invocation.verbosity + 1 }
  | .help => .error (.help isLong)
  | .version => .error .version

end Invocation

namespace Reading

def resolve (reading : Reading) : Except Stop Reading :=
  match reading.pending? with
  | none => .ok reading
  | some ⟨option, none⟩ => .error (.error (.missingValue option))
  | some ⟨option, some value⟩ =>
    match reading.invocation.setOption option value with
    | .ok invocation => .ok { reading with invocation, pending? := none }
    | .error error => .error (.error error)

/-- Gives an option a value that stands in the same argument, or waits for
one. -/
def takeOption (reading : Reading) (option : ValueOption)
    (value? : Option String) :
    Except Stop Reading := do
  let reading ← reading.resolve
  let reading := { reading with pending? := some ⟨option, value?⟩ }
  if value?.isSome then reading.resolve else .ok reading

def takeFlag (reading : Reading) (flag : Flag) (isLong : Bool) :
    Except Stop Reading := do
  let reading ← reading.resolve
  let invocation ← reading.invocation.setFlag flag isLong
  .ok { reading with invocation }

def takeOperand (reading : Reading) (operand : String) : Except Stop Reading :=
  if reading.invocation.input?.isSome then .error (.error (.unknown operand))
  else do
    let reading ← reading.resolve
    .ok { reading with
      invocation := { reading.invocation with input? := some operand } }

def takeLong (reading : Reading) (body : List Char) : Except Stop Reading :=
  let name := String.ofList (body.takeWhile (· != '='))
  let value? :=
    match body.dropWhile (· != '=') with
    | _ :: value => some (String.ofList value)
    | [] => none
  match ValueOption.all.find? (·.long == name),
    Flag.all.find? (·.long == name), value? with
  | some option, _, _ => reading.takeOption option value?
  | none, some flag, none => reading.takeFlag flag true
  | none, some flag, some value => .error (.error (.unneededValue value flag))
  | none, none, _ => .error (.error (.unknown ("--" ++ name)))

def takeShort (reading : Reading) : List Char → Except Stop Reading
  | [] => .ok reading
  | c :: rest =>
    match ValueOption.ofShort? c, Flag.ofShort? c with
    | some option, _ =>
      match rest with
      | [] => reading.takeOption option none
      | '=' :: value => reading.takeOption option (some (String.ofList value))
      | value => reading.takeOption option (some (String.ofList value))
    | none, some flag => do (← reading.takeFlag flag false).takeShort rest
    | none, none => .error (.error (.unknown ("-" ++ String.singleton c)))

/-- Takes an argument that does not begin with a hyphen, or is nothing but one:
the value that is waited for, or an operand. -/
def takeWord (reading : Reading) (word : String) : Except Stop Reading :=
  match reading.pending?, reading.operandsOnly with
  | some ⟨option, none⟩, false =>
    .ok { reading with pending? := some ⟨option, some word⟩ }
  | _, _ => reading.takeOperand word

def take (reading : Reading) (argument : String) : Except Stop Reading :=
  if reading.operandsOnly then reading.takeOperand argument
  else match argument.toList with
    | ['-', '-'] => .ok { reading with operandsOnly := true }
    | '-' :: '-' :: body => reading.takeLong body
    | ['-'] => reading.takeWord argument
    | '-' :: letters => reading.takeShort letters
    | _ => reading.takeWord argument

end Reading

def Invocation.parse (arguments : List String) : Except Stop Invocation := do
  let reading ← arguments.foldlM Reading.take {}
  return (← reading.resolve).invocation

end HtmlBuilder.Command
