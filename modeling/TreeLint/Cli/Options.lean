import TreeLint.Text

/-!
# Command line options

The words of a command line are first told apart, all of them, and then read from left to right. A
long option may be cut short as long as it stays unambiguous, and its value may follow an equals
sign. Short options may be joined, and the value of the last one may be attached to it. Only the
first of them may be followed by an equals sign that is not part of a value. A double dash that is
attached to an option withdraws its value: the option is then set, but to nothing. A word that
starts with a dash but is a negative number, or holds a blank, is an argument. After a double dash
every word is an argument. The program takes no arguments, so what is left over is an error.

## Main definitions

* `Flag`: the options
* `Word`: what a word of the command line is
* `Options`: the settings that the options give
* `Options.parse`: reading a command line
-/

namespace TreeLint.Cli

/-- The options. -/
inductive Flag where
  | help
  | dump
  | config
  | format
  | output
  | verbose
  deriving DecidableEq, Repr

namespace Flag

/-- The spellings of the options. -/
def spellings : List (String × Flag) :=
  [("-h", .help), ("--help", .help), ("--dump", .dump), ("-d", .dump), ("--config", .config),
    ("--format", .format), ("--out", .output), ("--output", .output), ("--verbose", .verbose),
    ("-v", .verbose)]

/-- Whether an option takes a value. -/
def takesValue : Flag → Bool
  | .help => false
  | .verbose => false
  | _ => true

end Flag

/-- Why a command line is refused. -/
inductive UsageFault where
  | ambiguous (word : String)
  | missingValue (flag : Flag)
  | unwantedValue (flag : Flag)
  | unknownFormat (value : String)
  | unrecognized
  deriving DecidableEq, Repr

/-- What a word of the command line is. -/
inductive Word where
  /-- An option, which may be a short one, with the value attached to it. -/
  | option (flag : Flag) (short : Bool) (attached : Option (List Char))
  /-- A word that looks like an option and is none. -/
  | unknown
  | argument (text : String)
  | separator

/-- The characters of a word before and after its first equals sign. -/
def cutAtSign (cs : List Char) : List Char × Option (List Char) :=
  match cs.dropWhile (· != '=') with
  | [] => (cs, none)
  | _ :: value => (cs.takeWhile (· != '='), some value)

/-- Whether the characters are digits, at least one. -/
def isDigits (cs : List Char) : Bool :=
  !cs.isEmpty && cs.all Text.isDigit

/-- Whether the characters are digits, at least one, after the only point, or digits alone. -/
def isNumeral (cs : List Char) : Bool :=
  match cs.dropWhile (· != '.') with
  | [] => isDigits cs
  | _ :: places => (cs.takeWhile (· != '.')).all Text.isDigit && isDigits places

/-- Whether a word is a negative number; a line break may follow it. -/
def isNegativeNumber : List Char → Bool
  | '-' :: rest => isNumeral rest || (rest.getLast? == some '\n' && isNumeral rest.dropLast)
  | _ => false

/-- A word that starts like an option and matches none. -/
def unmatched (word : String) : Word :=
  if isNegativeNumber word.toList || word.toList.contains ' ' then .argument word else .unknown

/-- A long option that may be cut short. -/
def longWord (word : String) : Except UsageFault Word :=
  let (name, value) := cutAtSign word.toList
  let matching := Flag.spellings.filter fun entry => name.isPrefixOf entry.1.toList
  match matching with
  | [] => .ok (unmatched word)
  | [(_, flag)] => .ok (.option flag false value)
  | _ => .error (.ambiguous word)

/-- Short options joined to a word. -/
def shortWord (word : String) : Word :=
  match word.toList with
  | dash :: letter :: rest =>
    match Flag.spellings.lookup (String.ofList [dash, letter]) with
    | some flag => .option flag true (some rest)
    | none => unmatched word
  | _ => unmatched word

/-- What a word before the double dash is. -/
def classify (word : String) : Except UsageFault Word :=
  match word.toList with
  | ['-'] => .ok (.argument word)
  | '-' :: second :: _ =>
    let isShort := second != '-'
    match Flag.spellings.lookup word with
    | some flag => .ok (.option flag isShort none)
    | none =>
      let (name, value) := cutAtSign word.toList
      match value, Flag.spellings.lookup (String.ofList name) with
      | some value, some flag => .ok (.option flag isShort (some value))
      | _, _ => if isShort then .ok (shortWord word) else longWord word
  | _ => .ok (.argument word)

/-- What the words of a command line are. -/
def classifyAll : List String → Except UsageFault (List Word)
  | [] => .ok []
  | word :: words =>
    if word = "--" then .ok (.separator :: words.map .argument)
    else do
      let first ← classify word
      let rest ← classifyAll words
      pure (first :: rest)

/-- The format for reports. -/
def reportFormat : String := "json"

/-- The settings that the options give. A value that was withdrawn is absent. -/
structure Options where
  dumps : List (Option String) := []
  config : Option String := some "seclint.yaml"
  format : Option String := some reportFormat
  output : Option String := none
  verbose : Bool := false
  deriving DecidableEq, Repr

/-- Why reading a command line stops. -/
inductive Stop where
  | help
  | usage (fault : UsageFault)
  deriving DecidableEq, Repr

/-- An option together with its value, which is absent when the option takes none or when it was
withdrawn. -/
structure Action where
  flag : Flag
  value : Option String := none

/-- The settings after an option. -/
def Action.apply (options : Options) (action : Action) : Except Stop Options :=
  match action.flag with
  | .help => .error .help
  | .verbose => .ok { options with verbose := true }
  | .dump => .ok { options with dumps := options.dumps ++ [action.value] }
  | .config => .ok { options with config := action.value }
  | .output => .ok { options with output := action.value }
  | .format => match action.value with
    | none => .ok { options with format := none }
    | some format =>
      if format = reportFormat then .ok { options with format := some format }
      else .error (.usage (.unknownFormat format))

/-- The options that a word stands for. -/
structure Expansion where
  /-- The options that have all they need, in order. -/
  actions : List Action
  /-- An option that takes the next word as its value. -/
  pending : Option Flag := none

/-- The expansion with an option in front. -/
def Expansion.after (action : Action) (e : Expansion) : Expansion :=
  { e with actions := action :: e.actions }

/-- An option without an attached value. -/
def Expansion.bare (flag : Flag) : Expansion :=
  if flag.takesValue then { actions := [], pending := some flag } else { actions := [{ flag }] }

/-- The value that is attached to an option. A double dash withdraws the value. -/
def attachedValue (cs : List Char) : Option String :=
  if cs = ['-', '-'] then none else some (String.ofList cs)

/-- An option with the characters attached to it as its value. -/
def Expansion.withValue (flag : Flag) (cs : List Char) : Expansion :=
  { actions := [⟨flag, attachedValue cs⟩] }

/-- A short option and what is attached to it: its value if it takes one, and otherwise the letters
of further options. -/
def expandShort (flag : Flag) : List Char → Except UsageFault Expansion
  | [] => if flag.takesValue then .ok (.withValue flag []) else .error (.unwantedValue flag)
  | c :: rest =>
    if flag.takesValue then .ok (.withValue flag (c :: rest))
    else match Flag.spellings.lookup (String.ofList ['-', c]), rest with
      | none, _ => .error (.unwantedValue flag)
      | some next, [] => .ok ((Expansion.bare next).after { flag })
      | some next, more => (expandShort next more).map (.after { flag })

/-- The options that an option word stands for. -/
def expand (flag : Flag) (short : Bool) : Option (List Char) → Except UsageFault Expansion
  | none => .ok (.bare flag)
  | some cs =>
    if short then expandShort flag cs
    else if flag.takesValue then .ok (.withValue flag cs)
    else .error (.unwantedValue flag)

/-- The settings after several options. -/
def applyAll (options : Options) (actions : List Action) : Except Stop Options :=
  actions.foldlM Action.apply options

/-- The options of a word that waits for the next word: those before the last, and the last, which
takes the next word as its value. -/
structure Waiting where
  actions : List Action
  flag : Flag

/-- Reads words from left to right. The flag tells whether a word was left over. -/
def readWords : Options → Bool → Option Waiting → List Word → Except Stop Options
  | options, leftover, none, [] =>
    if leftover then .error (.usage .unrecognized) else .ok options
  | options, leftover, none, .option flag short attached :: words =>
    match expand flag short attached with
    | .error fault => .error (.usage fault)
    | .ok e => match e.pending with
      | some pending => readWords options leftover (some ⟨e.actions, pending⟩) words
      | none => do
        let options ← applyAll options e.actions
        readWords options leftover none words
  | options, _, none, _ :: words => readWords options true none words
  | options, leftover, some waiting, .argument value :: words => do
    let options ← applyAll options (waiting.actions ++ [⟨waiting.flag, some value⟩])
    readWords options leftover none words
  | _, _, some waiting, _ => .error (.usage (.missingValue waiting.flag))

/-- The settings that a command line gives. -/
def Options.parse (argv : List String) : Except Stop Options :=
  match classifyAll argv with
  | .ok words => readWords {} false none words
  | .error fault => .error (.usage fault)

end TreeLint.Cli
