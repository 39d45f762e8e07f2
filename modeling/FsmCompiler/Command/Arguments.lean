/-
# Arguments of the command line

A word for the command, and options before and behind it. An option may be
joined to its value by an equals sign, or directly if its name is one letter; of
two values the later counts.
-/

namespace FsmCompiler.Command

/-- The version of the program. -/
def version : String := "0.1.0"

/-- What the program can do with a project. -/
inductive Action
  | validate
  | lint
  | inspect
  | build
  deriving DecidableEq, Repr

/-- The word for an action. -/
def Action.ofWord? : String → Option Action
  | "validate" => some validate
  | "lint" => some lint
  | "inspect" => some inspect
  | "build" => some build
  | _ => none

/-- The options of actions. -/
inductive Setting
  | manifest
  | format
  | machine
  | output
  deriving DecidableEq, Repr

/-- The options of an action, with the names by which they are given. -/
def Action.settings : Action → List (String × Setting)
  | validate | lint =>
    [("--manifest", .manifest), ("-m", .manifest), ("--format", .format), ("-f", .format)]
  | inspect =>
    [("--manifest", .manifest), ("-m", .manifest), ("--format", .format), ("-f", .format),
      ("--machine", .machine)]
  | build =>
    [("--manifest", .manifest), ("-m", .manifest), ("--output", .output), ("-o", .output)]

/-- A call of the program. -/
structure Invocation where
  verbose : Bool
  action : Action
  /-- The options given, the last one first. -/
  given : List (Setting × String)
  deriving DecidableEq, Repr

/-- The value given for an option. -/
def Invocation.value? (call : Invocation) (setting : Setting) : Option String :=
  call.given.lookup setting

/-- An option joined to its value. -/
def joined? (settings : List (String × Setting)) (word : String) : Option (Setting × String) :=
  settings.findSome? fun (name, setting) =>
    if name.startsWith "--" then
      if word.startsWith (name ++ "=") then
        some (setting, (word.drop (name.length + 1)).toString)
      else none
    else if word.startsWith name ∧ name.length < word.length then
      some (setting, (word.drop name.length).toString)
    else none

/-- The word that ends the options. -/
def endOfOptions : String := "--"

/-- The options behind an action, the last one first. -/
def readSettings (settings : List (String × Setting)) (given : List (Setting × String)) :
    List String → Option (List (Setting × String))
  | [] => some given
  | word :: value :: rest =>
    match settings.lookup word with
    | some setting => readSettings settings ((setting, value) :: given) rest
    | none => (joined? settings word).bind fun option =>
      readSettings settings (option :: given) (value :: rest)
  | [word] =>
    if word = endOfOptions then some given else (joined? settings word).map (· :: given)

/-- Whether a word asks for the journal: by name, or by one or more letters. -/
def asksForJournal (word : String) : Bool :=
  word == "--verbose" ||
    match word.toList with
    | '-' :: 'v' :: rest => rest.all (· == 'v')
    | _ => false

/-- The call that an action and its options stand for. -/
def Invocation.ofAction (verbose : Bool) : List String → Option Invocation
  | [] => none
  | word :: rest => do
    let action ← Action.ofWord? word
    return ⟨verbose, action, ← readSettings action.settings [] rest⟩

/-- The call that the arguments stand for. -/
def Invocation.ofArguments (verbose : Bool) : List String → Option Invocation
  | [] => none
  | word :: rest =>
    if asksForJournal word then ofArguments true rest
    else if word = endOfOptions then ofAction verbose rest
    else ofAction verbose (word :: rest)

end FsmCompiler.Command
