import Inlay.CommandLine.Settings

/-!
Reading the arguments of a command line. An option with a value has it in the same argument,
behind `=` or, for a short option, directly, or in the next argument. The last value that was
given is kept back until the argument after it is understood, so that an argument nobody knows is
reported before a value that makes no sense.
-/

namespace Inlay.CommandLine

inductive Argument where
  | endOfOptions
  | long (name : Text) (value : Option Text)
  | short (name : Char) (attached : Option Text)
  | plain
  deriving DecidableEq, Repr

namespace Argument

/-- The value that stands in the same argument as a short option. -/
def attachedValue? : Text → Option Text
  | [] => none
  | '=' :: value => some value
  | value => some value

def read : Text → Argument
  | ['-', '-'] => endOfOptions
  | '-' :: '-' :: rest =>
      match Text.splitFirst? '=' rest with
      | some (name, value) => long name (some value)
      | none => long rest none
  | '-' :: name :: rest => short name (attachedValue? rest)
  | _ => plain

end Argument

/-- A parameter that has been named, and its value if that has been seen. -/
structure Held where
  parameter : Parameter
  value : Option Text
  deriving DecidableEq, Repr

structure ReadState where
  settings : Settings := {}
  held : Option Held := none
  inputSeen : Bool := false
  deriving DecidableEq, Repr

namespace ReadState

def settle (state : ReadState) : Except Refusal Settings :=
  match state.held with
  | none => .ok state.settings
  | some ⟨parameter, none⟩ => .error (.usage (.missingValue parameter))
  | some ⟨parameter, some value⟩ => (state.settings.give parameter value).mapError .usage

/-- Take a parameter that was named, with the value in the same argument if there is one. -/
def take (state : ReadState) (parameter : Parameter) (attached : Option Text) :
    Except Refusal ReadState :=
  if parameter.takesValue then do
    let settings ← state.settle
    match attached with
    | none => return { state with settings := settings, held := some ⟨parameter, none⟩ }
    | some value =>
        let settings ← (settings.give parameter value).mapError .usage
        return { state with settings := settings, held := none }
  else
    match attached with
    | some value => .error (.usage (.unexpectedValue parameter value))
    | none => do
        let settings ← state.settle
        let settings ← settings.turnOn parameter
        return { state with settings := settings, held := none }

def takeInput (state : ReadState) (argument : Text) : Except Refusal ReadState :=
  if state.inputSeen then
    .error (.usage (.unexpectedArgument argument))
  else do
    let settings ← state.settle
    return { settings := settings, held := some ⟨.input, some argument⟩, inputSeen := true }

/-- Take an argument that is no option: the value that is waited for, or the input. -/
def takePlain (state : ReadState) (argument : Text) : Except Refusal ReadState :=
  match state.held with
  | some ⟨parameter, none⟩ => .ok { state with held := some ⟨parameter, some argument⟩ }
  | _ => state.takeInput argument

/-- Take a short option. Those without a value end the reading, so nothing attached to them is
looked at. -/
def takeShort (state : ReadState) (name : Char) (attached : Option Text) :
    Except Refusal ReadState :=
  match Parameter.shortNames.lookup name with
  | none => .error (.usage (.unexpectedArgument ['-', name]))
  | some parameter =>
      state.take parameter (if parameter.takesValue then attached else none)

def takeLong (state : ReadState) (name : Text) (attached : Option Text) :
    Except Refusal ReadState :=
  match Parameter.longNames.lookup name with
  | none => .error (.usage (.unexpectedArgument (['-', '-'] ++ name)))
  | some parameter => state.take parameter attached

def takeArgument (state : ReadState) (argument : Text) : Except Refusal ReadState :=
  match Argument.read argument with
  | .long name attached => state.takeLong name attached
  | .short name attached => state.takeShort name attached
  | _ => state.takePlain argument

def takeInputs (state : ReadState) : List Text → Except Refusal ReadState
  | [] => .ok state
  | argument :: rest => do (← state.takeInput argument).takeInputs rest

def takeAll (state : ReadState) : List Text → Except Refusal ReadState
  | [] => .ok state
  | argument :: rest =>
      if Argument.read argument = .endOfOptions then state.takeInputs rest
      else do (← state.takeArgument argument).takeAll rest

end ReadState

def readArguments (arguments : List Text) : Except Refusal Settings := do
  (← ReadState.takeAll {} arguments).settle

end Inlay.CommandLine
