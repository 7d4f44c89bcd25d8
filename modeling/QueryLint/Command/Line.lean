import QueryLint.Command.Options
import QueryLint.Command.Switch
import QueryLint.Config.Error

/-!
# Command lines

A command line is a list of words: switches, their values and inputs.  Letters
combine in one word, a value follows its switch or is attached to it, and every
word after two hyphens is an input.
-/

namespace QueryLint

/-- Why a command line is not accepted. -/
inductive UsageError where
  | unknown (word : String)
  | missingValue (switch : Switch)
  | unlistedValue (switch : Switch) (value : String)
  | badValue (switch : Switch) (reason : SettingError)
  | repeated (switch : Switch)
  | unexpectedValue (switch : Switch) (value : String)
  deriving DecidableEq, Repr, Inhabited

def UsageError.message : UsageError → String
  | unknown word => s!"unexpected argument '{word}'"
  | missingValue switch => s!"a value is required for '{switch.label}'"
  | unlistedValue switch value =>
      s!"invalid value '{value}' for '{switch.label}'"
  | badValue switch reason =>
      s!"invalid value for '{switch.label}': {reason.message}"
  | repeated switch => s!"'{switch.label}' cannot be used multiple times"
  | unexpectedValue switch value =>
      s!"unexpected value '{value}' for '{switch.label}'"

/-- Why a command line gives no options. -/
inductive Refusal where
  | help
  | error (reason : UsageError)
  deriving DecidableEq, Repr, Inhabited

/-- A command line that has been read in part: the options so far, the switches
that were given, and the switch whose value is not taken over yet. -/
structure LineState where
  options : Options
  given : List Switch
  waiting : Option (Switch × Option String)
  deriving DecidableEq, Repr, Inhabited

namespace LineState

def start : LineState :=
  ⟨.unset, [], none⟩

def turnedOn (options : Options) : Switch → Options
  | .createConfig => { options with createConfig := true }
  | .force => { options with force := true }
  | .printConfig => { options with printConfig := true }
  | .listPlugins => { options with listPlugins := true }
  | .version => { options with version := true }
  | .color => { options with forceColor := true, noColor := false }
  | .noColor => { options with noColor := true, forceColor := false }
  | _ => options

/-- The switch that a switch takes back. -/
def opposite? : Switch → Option Switch
  | .color => some .noColor
  | .noColor => some .color
  | _ => none

def withValue (options : Options) (switch : Switch) (value : String) :
    Except UsageError Options :=
  match switch with
  | .config =>
      if value.isEmpty then .error (.missingValue switch)
      else .ok { options with configFile := some value }
  | .logFile =>
      if value.isEmpty then .error (.missingValue switch)
      else .ok { options with logFile := some value }
  | .plugin => .ok { options with plugins := options.plugins ++ [value] }
  | .excludePlugin =>
      .ok { options with exclusions := options.exclusions ++ [value] }
  | .maxParallel =>
      match positiveCount value with
      | .ok number => .ok { options with maxParallel := some number }
      | .error reason => .error (.badValue switch reason)
  | .logLevel =>
      match Log.Threshold.ofName? value with
      | some level => .ok { options with logLevel := some level }
      | none => .error (.unlistedValue switch value)
  | .logFormat =>
      match Log.Layout.ofName? value with
      | some layout => .ok { options with logLayout := some layout }
      | none => .error (.unlistedValue switch value)
  | _ => .error (.unexpectedValue switch value)

/-- Gives a switch a value, unless it has one already. -/
def assign (state : LineState) (switch : Switch) (value : String) :
    Except Refusal LineState :=
  if state.given.contains switch && !switch.repeats then
    .error (.error (.repeated switch))
  else
    match withValue state.options switch value with
    | .ok options =>
        .ok { state with options := options, given := switch :: state.given }
    | .error reason => .error (.error reason)

/-- Takes over the value that waits. -/
def settle (state : LineState) : Except Refusal LineState :=
  match state.waiting with
  | none => .ok state
  | some (switch, none) => .error (.error (.missingValue switch))
  | some (switch, some value) =>
      { state with waiting := none }.assign switch value

/-- Turns a switch without value on. -/
def turnOn (state : LineState) (switch : Switch) :
    Except Refusal LineState := do
  let state ← state.settle
  if switch = .help then .error .help
  else if state.given.contains switch then .error (.error (.repeated switch))
  else
    let others := state.given.filter fun other => some other ≠ opposite? switch
    return { state with
      options := turnedOn state.options switch,
      given := switch :: others }

/-- Meets a switch with a value, attached or still to come. -/
def meet (state : LineState) (switch : Switch) (attached : Option String) :
    Except Refusal LineState := do
  let state ← state.settle
  match attached with
  | some value => state.assign switch value
  | none => return { state with waiting := some (switch, none) }

def addInput (state : LineState) (input : String) :
    Except Refusal LineState := do
  let state ← state.settle
  return { state with
    options :=
      { state.options with inputs := state.options.inputs ++ [input] } }

/-- Takes a word that is no switch: the value that a switch waits for, or an
input. -/
def addPlain (state : LineState) (word : String) : Except Refusal LineState :=
  match state.waiting with
  | some (switch, none) =>
      .ok { state with waiting := some (switch, some word) }
  | _ => state.addInput word

/-- Takes a switch by its long name, which an equals sign may end. -/
def addLong (state : LineState) (word body : Text) : Except Refusal LineState :=
  let name := body.takeWhile fun character => character != '='
  let attached :=
    match body.dropWhile fun character => character != '=' with
    | _ :: value => some (String.ofList value)
    | [] => none
  match Switch.ofName? (String.ofList name) with
  | none => .error (.error (.unknown (String.ofList word)))
  | some switch =>
      if switch.takesValue then state.meet switch attached
      else
        match attached with
        | some value => .error (.error (.unexpectedValue switch value))
        | none => state.turnOn switch

/-- The value attached to a letter: the rest of the word, without an equals
sign in front. -/
def attachedValue? : Text → Option String
  | [] => none
  | '=' :: value => some (String.ofList value)
  | value => some (String.ofList value)

def addLetters (state : LineState) : Text → Except Refusal LineState
  | [] => .ok state
  | letter :: rest =>
      match Switch.ofLetter? letter with
      | none => .error (.error (.unknown s!"-{letter}"))
      | some switch =>
          if switch.takesValue then state.meet switch (attachedValue? rest)
          else do
            let state ← state.turnOn switch
            addLetters state rest

/-- Takes one word in front of two hyphens. -/
def addWord (state : LineState) (word : String) : Except Refusal LineState :=
  match word.toList with
  | '-' :: '-' :: body => state.addLong word.toList body
  | '-' :: letter :: rest => state.addLetters (letter :: rest)
  | _ => state.addPlain word

/-- Takes words; the flag tells that two hyphens have been met. -/
def addWords (state : LineState) :
    (onlyInputs : Bool) → List String → Except Refusal LineState
  | _, [] => state.settle
  | true, word :: rest => do
      let state ← state.addInput word
      addWords state true rest
  | false, word :: rest =>
      if word = "--" then addWords state true rest
      else do
        let state ← state.addWord word
        addWords state false rest

end LineState

/-- The options that a command line writes. -/
def Options.ofWords (words : List String) : Except Refusal Options :=
  (LineState.start.addWords false words).map LineState.options

end QueryLint
