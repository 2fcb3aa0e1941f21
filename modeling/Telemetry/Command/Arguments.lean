import Telemetry.Command.Usage
import Telemetry.Text.Similar

/-!
# Arguments

What the words behind the name of the program ask for. Options may stand before a command and
behind it. Of two settings files the one behind the command counts; where no word names one, a
variable of the environment does, and then there is a default.
-/

namespace Telemetry

/-- What the words behind the name of the program ask for. -/
inductive Request where
  | run (invocation : Invocation)
  | help (place : Option Command)
  | helpOnHelp
  /-- The name and the version of the program. -/
  | programVersion
  deriving DecidableEq, Repr

namespace Arguments

/-- What the next word is read as. -/
inductive Mode where
  | any
  /-- The settings file that the option before it wants. -/
  | settingsFile
  /-- The mark that ends the options came before it. -/
  | plain
  deriving DecidableEq, Repr

/-- How far the words were read. -/
structure State where
  /-- The command, once it was read. -/
  place : Option Command := none
  /-- The settings file that was named before the command. -/
  earlier : Option String := none
  /-- The settings file that was named at this place. -/
  named : Option String := none
  mode : Mode := .any

/-- The options that were given at this place. -/
def State.given (s : State) : List CommandOption := s.named.toList.map fun _ => .settings

/-- The kinds of words. -/
inductive Word where
  /-- The mark that ends the options. -/
  | ending
  | long (name : String) (value : Option String)
  | short (letter : Char) (attached : String)
  | plain (text : String)
  deriving DecidableEq, Repr

/-- The kind of a word. -/
def Word.ofString (word : String) : Word :=
  match word.toList with
  | ['-', '-'] => .ending
  | '-' :: '-' :: cs =>
    let name := cs.takeWhile (· ≠ '=')
    .long (String.ofList name) ((cs.drop name.length).tail?.map String.ofList)
  | '-' :: letter :: cs => .short letter (String.ofList cs)
  | _ => .plain word

/-- Names the settings file at this place. -/
def State.name (s : State) (file : String) : Except UsageError State :=
  if s.named.isSome then .error (.repeated s.place)
  else if file.isEmpty then .error .missingValue
  else .ok { s with named := some file, mode := .any }

/-- What is asked for when there are no more words. -/
def State.finish (s : State) (fallback : Option String) : Except UsageError Request :=
  let unset := s.named.isNone || (s.place.isSome && s.earlier.isNone)
  if s.mode = .settingsFile || (unset && fallback = some "") then .error .missingValue
  else .ok (.run ⟨s.place.getD .start,
    ((s.named <|> s.earlier) <|> fallback).getD Command.defaultSettings⟩)

/-- The words that can stand in the place of a command. -/
def commandWords : List String := Command.all.map (·.name) ++ [Command.helpName]

/-- A word that has no meaning at its place. -/
def State.unknownWord (s : State) (word : String) : UsageError :=
  match s.place with
  | none => .unknownCommand none word (Text.similarWords word commandWords)
  | some _ => .unknownArgument s.place word none []

/-- A long option that does not exist. -/
def State.unknownLong (s : State) (name : String) : UsageError :=
  let options := CommandOption.allAt s.place
  let similar := (Text.similarWords name (options.map (·.longName))).getLast?
  .unknownArgument s.place ("--" ++ name)
    (options.find? fun o => some o.longName = similar) s.given

/-- The help that some words ask for. -/
def readHelp (place : Option Command) : List String → Except UsageError Request
  | [] => .ok (.help place)
  | word :: rest =>
    match place, Command.ofName? word with
    | none, some c => readHelp (some c) rest
    | none, none =>
      if word = Command.helpName then .ok .helpOnHelp
      else .error (.unknownCommand none word [])
    | some c, _ => .error (.unknownCommand (some c) word [])

/-- An option that takes no value. -/
def State.readFlag (s : State) (option : CommandOption) : Option String → Except UsageError Request
  | some value => .error (.unexpectedValue s.place option value)
  | none => .ok (if option = .version then .programVersion else .help s.place)

/-- What a word comes to: the end of reading, or the state for the next word. -/
inductive Step where
  | done (request : Request)
  | goOn (s : State)

/-- Reads an option. The value is what is attached to it. -/
def State.readOption (s : State) (option : CommandOption) (value : Option String) :
    Except UsageError Step :=
  match option, value with
  | .settings, some file => (s.name file).map .goOn
  | .settings, none => .ok (.goOn { s with mode := .settingsFile })
  | option, value => (s.readFlag option value).map .done

/-- The value that is attached to the letter of an option. -/
def attachedValue? (option : CommandOption) (attached : String) : Option String :=
  if option ≠ .settings then none
  else match attached.toList with
    | [] => none
    | '=' :: cs => some (String.ofList cs)
    | _ => some attached

/-- Reads a word that has the form of an option. -/
def State.readWord (s : State) : Word → Except UsageError Step
  | .ending => .ok (.goOn { s with mode := .plain })
  | .plain text => .error (s.unknownWord text)
  | .long name value =>
    match (CommandOption.allAt s.place).find? (·.longName = name) with
    | none => .error (s.unknownLong name)
    | some option =>
      if s.mode = .settingsFile then .error .missingValue else s.readOption option value
  | .short letter attached =>
    match (CommandOption.allAt s.place).find? (·.letter = letter) with
    | none => .error (.unknownArgument s.place (String.ofList ['-', letter]) none [])
    | some option =>
      if s.mode = .settingsFile then .error .missingValue
      else s.readOption option (attachedValue? option attached)

/-- Reads a word where options may stand. -/
def State.step (s : State) (word : String) : Except UsageError Step :=
  match Word.ofString word with
  | .plain text =>
    match s.place, Command.ofName? text with
    | none, some c => .ok (.goOn { place := some c, earlier := s.named })
    | _, _ => .error (s.unknownWord text)
  | w => s.readWord w

/-- Reads the settings file that an option wants. -/
def State.stepValue (s : State) (word : String) : Except UsageError Step :=
  match Word.ofString word with
  | .plain file => (s.name file).map .goOn
  | .ending => .error .missingValue
  | w => s.readWord w

/-- A word behind the mark that ends the options has no meaning. -/
def State.refuse (s : State) (word : String) : UsageError :=
  if s.place.isNone && commandWords.contains word then .commandTooLate word else s.unknownWord word

/-- Reads words. `fallback` is the settings file that the environment names. -/
def State.read (fallback : Option String) (s : State) : List String → Except UsageError Request
  | [] => s.finish fallback
  | word :: rest =>
    if s.mode = .any && s.place.isNone && word = Command.helpName then readHelp none rest
    else do
      let step ← match s.mode with
        | .any => s.step word
        | .settingsFile => s.stepValue word
        | .plain => .error (s.refuse word)
      match step with
      | .done request => return request
      | .goOn s => State.read fallback s rest

/-- What some words ask for. `fallback` is the settings file that the environment names. -/
def read (fallback : Option String) (words : List String) : Except UsageError Request :=
  State.read fallback {} words

end Arguments

end Telemetry
