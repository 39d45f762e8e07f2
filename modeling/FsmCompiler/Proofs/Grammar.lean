/-
# The grammar of machine files

Which lists of tokens declare machines, and which machines they declare. Every
production relates the tokens of a construct to what the construct stands for;
of a token it asks for the kind alone. The productions follow the text from left
to right:

    File     := ';'* (Machine ';'*)* end
    Machine  := name '{' ';'* (Guard ';'*)? (Action ';'*)? (Initial ';'*)? (Event ';'*)* '}'
    Guard    := 'GuardResources' '{' (Resource (',' Resource)* ','?)? '}'
    Initial  := ('InitialStates' | 'States') '{' (name (',' name)* ','?)? '}'
    Event    := name '{' (Line (',' | ';')*)+ '}'
    Line     := name (',' name)* '=>' name

The relations know nothing of the automaton that reads machines.
-/

import FsmCompiler.Machine.Reader

namespace FsmCompiler.Grammar

open TokenKind

/-! ## Runs of tokens -/

/-- Semicolons, any number of them. -/
def Semicolons (tokens : List Token) : Prop := ∀ token ∈ tokens, token.kind = semicolon

/-- Commas and semicolons, any number of them. -/
def Separators (tokens : List Token) : Prop :=
  ∀ token ∈ tokens, token.kind = comma ∨ token.kind = semicolon

/-- Items with commas between them; a last comma is allowed, and so is the empty
list. -/
inductive CommaList (Item : List Token → α → Prop) : List Token → List α → Prop
  | nil : CommaList Item [] []
  | last {tokens item} (hitem : Item tokens item) : CommaList Item tokens [item]
  | cons {tokens item separator rest items} (hitem : Item tokens item)
      (hseparator : separator.kind = comma) (hrest : CommaList Item rest items) :
      CommaList Item (tokens ++ separator :: rest) (item :: items)

/-- A block that may be missing, and the semicolons behind it. -/
inductive Optional (Block : List Token → List α → Prop) : List Token → List α → Prop
  | absent : Optional Block [] []
  | present {tokens items separators} (hblock : Block tokens items)
      (hseparators : Semicolons separators) : Optional Block (tokens ++ separators) items

/-! ## Types -/

/-- Tokens of a type in which brackets are properly nested. A comma stands only
inside brackets. -/
inductive TypeRun : (inBrackets : Bool) → List Token → Prop
  | nil {inBrackets} : TypeRun inBrackets []
  | plain {inBrackets token rest} (hkind : token.kind.inType)
      (hopening : token.kind.closer? = none)
      (hclosing : token.kind ≠ rightBracket ∧ token.kind ≠ rightParen)
      (hcomma : token.kind = comma → inBrackets = true) (hrest : TypeRun inBrackets rest) :
      TypeRun inBrackets (token :: rest)
  | group {inBrackets opening inner closing rest}
      (hclosing : opening.kind.closer? = some closing.kind) (hinner : TypeRun true inner)
      (hrest : TypeRun inBrackets rest) :
      TypeRun inBrackets (opening :: inner ++ closing :: rest)

/-! ## Blocks -/

/-- A resource: its name, a colon and its type. -/
inductive ResourceItem (file : String) : List Token → Resource → Prop
  | intro {name separator type} (hname : name.kind = identifier)
      (hseparator : separator.kind = colon) (htype : TypeRun false type) (hsome : type ≠ []) :
      ResourceItem file (name :: separator :: type)
        ⟨name.text, TypeText.ofTokens type, some (name.pos.inFile file)⟩

/-- A block of resources behind the keyword of the given kind. -/
inductive ResourceBlock (file : String) (kind : TokenKind) : List Token → List Resource → Prop
  | intro {keyword opening body resources closing} (hkeyword : keyword.kind = kind)
      (hopening : opening.kind = leftBrace)
      (hbody : CommaList (ResourceItem file) body resources)
      (hclosing : closing.kind = rightBrace) :
      ResourceBlock file kind (keyword :: opening :: body ++ [closing]) resources

/-- The name of an initial state. -/
inductive InitialItem (file : String) : List Token → Declaration → Prop
  | intro {name} (hname : name.kind = identifier) :
      InitialItem file [name] (Reader.declare file name)

/-- A block of initial states. -/
inductive InitialBlock (file : String) : List Token → List Declaration → Prop
  | intro {keyword opening body states closing}
      (hkeyword : keyword.kind = initialStates ∨ keyword.kind = TokenKind.states)
      (hopening : opening.kind = leftBrace)
      (hbody : CommaList (InitialItem file) body states)
      (hclosing : closing.kind = rightBrace) :
      InitialBlock file (keyword :: opening :: body ++ [closing]) states

/-- The source states of a line. -/
inductive SourceList : List Token → List Token → Prop
  | one {name} (hname : name.kind = identifier) : SourceList [name] [name]
  | cons {name separator rest names} (hname : name.kind = identifier)
      (hseparator : separator.kind = comma) (hrest : SourceList rest names) :
      SourceList (name :: separator :: rest) (name :: names)

/-- A line of an event block. It stands for one rule for each source state, from
left to right, with the event of the block and the target of the line. -/
inductive Line (file : String) (event : Declaration) : List Token → List Transition → Prop
  | intro {tokens sources arrow target} (hsources : SourceList tokens sources)
      (harrow : arrow.kind = TokenKind.arrow) (htarget : target.kind = identifier) :
      Line file event (tokens ++ [arrow, target])
        (sources.map fun source => ⟨event, Reader.declare file source,
          Reader.declare file target, some (arrow.pos.inFile file)⟩)

/-- The lines of an event block, with the separators behind each; there is at
least one line. -/
inductive LineRun (file : String) (event : Declaration) : List Token → List Transition → Prop
  | one {tokens rules separators} (hline : Line file event tokens rules)
      (hseparators : Separators separators) : LineRun file event (tokens ++ separators) rules
  | cons {tokens rules separators rest later} (hline : Line file event tokens rules)
      (hseparators : Separators separators) (hrest : LineRun file event rest later) :
      LineRun file event (tokens ++ separators ++ rest) (rules ++ later)

/-- An event block. -/
inductive EventBlock (file : String) : List Token → List Transition → Prop
  | intro {name opening body rules closing} (hname : name.kind = identifier)
      (hopening : opening.kind = leftBrace)
      (hbody : LineRun file (Reader.declare file name) body rules)
      (hclosing : closing.kind = rightBrace) :
      EventBlock file (name :: opening :: body ++ [closing]) rules

/-- Event blocks, with the semicolons behind each. -/
inductive EventRun (file : String) : List Token → List Transition → Prop
  | nil : EventRun file [] []
  | cons {tokens rules separators rest later} (hblock : EventBlock file tokens rules)
      (hseparators : Semicolons separators) (hrest : EventRun file rest later) :
      EventRun file (tokens ++ separators ++ rest) (rules ++ later)

/-! ## Machines -/

/-- A machine block. It declares an initial state or a rule. -/
inductive MachineBlock (file : String) : List Token → Machine → Prop
  | intro {name opening separators guardTokens actionTokens initialTokens eventTokens closing}
      {guards actions : List Resource} {initials : List Declaration} {rules : List Transition}
      (hname : name.kind = identifier) (hopening : opening.kind = leftBrace)
      (hseparators : Semicolons separators)
      (hguards : Optional (ResourceBlock file guardResources) guardTokens guards)
      (hactions : Optional (ResourceBlock file actionResources) actionTokens actions)
      (hinitials : Optional (InitialBlock file) initialTokens initials)
      (hevents : EventRun file eventTokens rules)
      (hclosing : closing.kind = rightBrace) (hsome : initials ≠ [] ∨ rules ≠ []) :
      MachineBlock file
        (name :: opening :: separators ++ guardTokens ++ actionTokens ++ initialTokens ++
          eventTokens ++ [closing])
        ⟨name.text, rules, initials, guards, actions, some (name.pos.inFile file)⟩

/-- Machine blocks, with the semicolons behind each. -/
inductive MachineRun (file : String) : List Token → List Machine → Prop
  | nil : MachineRun file [] []
  | cons {tokens machine separators rest machines} (hblock : MachineBlock file tokens machine)
      (hseparators : Semicolons separators) (hrest : MachineRun file rest machines) :
      MachineRun file (tokens ++ separators ++ rest) (machine :: machines)

/-- A whole file: machine blocks up to the end of the input. -/
inductive File (file : String) : List Token → List Machine → Prop
  | intro {separators tokens machines ending} (hseparators : Semicolons separators)
      (hmachines : MachineRun file tokens machines) (hending : ending.kind = endOfInput) :
      File file (separators ++ tokens ++ [ending]) machines

/-! ## Small facts -/

theorem closer?_eq_some_iff {opening closing : TokenKind} :
    opening.closer? = some closing ↔
      opening = leftBracket ∧ closing = rightBracket ∨
        opening = leftParen ∧ closing = rightParen := by
  cases opening <;> simp [closer?, eq_comm]

theorem Semicolons.nil : Semicolons [] := by
  intro token hmem
  cases hmem

theorem Semicolons.cons {token : Token} {tokens : List Token} (htoken : token.kind = semicolon)
    (htokens : Semicolons tokens) : Semicolons (token :: tokens) := by
  intro other hmem
  rcases List.mem_cons.1 hmem with rfl | hmem
  · exact htoken
  · exact htokens other hmem

theorem Separators.nil : Separators [] := by
  intro token hmem
  cases hmem

theorem Separators.cons {token : Token} {tokens : List Token}
    (htoken : token.kind = comma ∨ token.kind = semicolon) (htokens : Separators tokens) :
    Separators (token :: tokens) := by
  intro other hmem
  rcases List.mem_cons.1 hmem with rfl | hmem
  · exact htoken
  · exact htokens other hmem

end FsmCompiler.Grammar
