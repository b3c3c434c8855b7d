import OverflowScan.CommandLine.Words
import OverflowScan.ReportFile

set_option autoImplicit false

namespace OverflowScan.CommandLine

structure Options where
  source : String
  format : Format := .json
  output : Option String := none
  verbosity : Nat := 0
  deriving DecidableEq, Repr

inductive UsageError where
  | ambiguous (word : String) (candidates : List String)
  | valueMissing (flag : Flag)
  | valueIgnored (flag : Flag) (value : List Char)
  | invalidFormat (value : String)
  | sourceMissing
  | leftOver (words : List String)
  deriving DecidableEq, Repr

def UsageError.message : UsageError → String
  | .ambiguous word candidates =>
    "ambiguous option: " ++ word ++ " could match " ++ String.intercalate ", " candidates
  | .valueMissing flag => "argument " ++ flag.title ++ ": expected one argument"
  | .valueIgnored flag value =>
    "argument " ++ flag.title ++ ": ignored explicit argument " ++
      Text.quoted (String.ofList value)
  | .invalidFormat value =>
    "argument " ++ Flag.format.title ++ ": invalid choice: " ++ Text.quoted value ++
      " (choose from 'json', 'yaml')"
  | .sourceMissing => "the following arguments are required: source"
  | .leftOver words => "unrecognized arguments: " ++ String.intercalate " " words

inductive Request where
  | help
  | version
  | usage (error : UsageError)
  | scan (options : Options)
  deriving DecidableEq, Repr

/-- What the words read so far have set. -/
structure Settings where
  source : Option String := none
  format : Format := .json
  output : Option String := none
  verbosity : Nat := 0
  leftOver : List String := []
  deriving DecidableEq, Repr

namespace Settings

def takePlain (settings : Settings) (word : String) : Settings :=
  match settings.source with
  | none => { settings with source := some word }
  | some _ => { settings with leftOver := settings.leftOver ++ [word] }

def leave (settings : Settings) (words : List String) : Settings :=
  { settings with leftOver := settings.leftOver ++ words }

def takeFlag (settings : Settings) : Flag → Except Request Settings
  | .help => .error .help
  | .version => .error .version
  | .verbose => .ok { settings with verbosity := settings.verbosity + 1 }
  | flag => .error (.usage (.valueMissing flag))

def takeFlags (settings : Settings) : List Flag → Except Request Settings
  | [] => .ok settings
  | flag :: rest =>
    match settings.takeFlag flag with
    | .ok next => next.takeFlags rest
    | .error request => .error request

/-- The settings after an option with a value. A double dash attached as a value counts as no value:
the option then has neither output nor a format of its own. -/
def takeValue (settings : Settings) (flag : Flag) (value : String) : Except Request Settings :=
  match flag with
  | .format =>
    if value = "json" ∨ value = "--" then .ok { settings with format := .json }
    else if value = "yaml" then .ok { settings with format := .yaml }
    else .error (.usage (.invalidFormat value))
  | .output =>
    .ok { settings with output := if value = "--" then none else some value }
  | _ => .error (.usage (.valueIgnored flag value.toList))

def finish (settings : Settings) : Request :=
  match settings.source with
  | none => .usage .sourceMissing
  | some source =>
    if settings.leftOver.isEmpty then
      .scan ⟨source, settings.format, settings.output, settings.verbosity⟩
    else .usage (.leftOver settings.leftOver)

end Settings

/-- The short options written behind one dash: the first one and the text attached to it, in which
every character has to be another one. -/
def shortFlags (flag : Flag) : List Char → Except UsageError (List Flag)
  | [] => .ok [flag]
  | c :: rest =>
    match spelling? ['-', c] with
    | none => .error (.valueIgnored flag (c :: rest))
    | some spelling =>
      match shortFlags spelling.flag rest with
      | .ok flags => .ok (flag :: flags)
      | .error error => .error error

def takeShort (settings : Settings) (flag : Flag) (attached : List Char) :
    Except Request Settings :=
  match shortFlags flag attached with
  | .ok flags => settings.takeFlags flags
  | .error error => .error (.usage error)

def isValue (word : String) : Bool :=
  word ≠ "--" && classify word == .plain

/-- The words after a double dash, where `adjacent` says that the word just before the double dash
was taken for the source. -/
def readPlain (settings : Settings) (adjacent : Bool) (words : List String) : Settings :=
  match settings.source, words with
  | none, word :: rest => (settings.takePlain word).leave rest
  | none, [] => settings.leave ["--"]
  | some _, _ => settings.leave (if adjacent then words else "--" :: words)

/-- Reads words from left to right; `adjacent` says that the word just before was taken for the
source. -/
def read (settings : Settings) (adjacent : Bool) : List String → Request
  | [] => settings.finish
  | word :: rest =>
    if word = "--" then (readPlain settings adjacent rest).finish
    else
      match classify word with
      | .plain => read (settings.takePlain word) settings.source.isNone rest
      | .unknown => read (settings.leave [word]) false rest
      | .ambiguous candidates => .usage (.ambiguous word candidates)
      | .short flag none =>
        match takeShort settings flag [] with
        | .ok next => read next false rest
        | .error request => request
      | .short flag (some []) => .usage (.valueIgnored flag [])
      | .short flag (some (c :: attached)) =>
        match takeShort settings flag (c :: attached) with
        | .ok next => read next false rest
        | .error request => request
      | .long flag none =>
        if flag.takesValue then
          match rest with
          | value :: more =>
            if isValue value then
              match settings.takeValue flag value with
              | .ok next => read next false more
              | .error request => request
            else .usage (.valueMissing flag)
          | [] => .usage (.valueMissing flag)
        else
          match settings.takeFlag flag with
          | .ok next => read next false rest
          | .error request => request
      | .long flag (some value) =>
        match settings.takeValue flag (String.ofList value) with
        | .ok next => read next false rest
        | .error request => request

def ambiguity? : List String → Option UsageError
  | [] => none
  | word :: rest =>
    if word = "--" then none
    else
      match classify word with
      | .ambiguous candidates => some (.ambiguous word candidates)
      | _ => ambiguity? rest

def parseWords (words : List String) : Request :=
  match ambiguity? words with
  | some error => .usage error
  | none => read {} false words

/-- What the arguments of the program ask for. A lone argument is always the source. -/
def parse (arguments : List String) : Request :=
  match arguments with
  | [source] => parseWords ["--", source]
  | _ => parseWords arguments

end OverflowScan.CommandLine
