/-
# Parameters are read back

The parameters of a module are written from the resources of a block, and no declared type gets
out of its place there. Scanning the text and cutting it at the commas outside brackets gives one
group of tokens for each resource: its name, a colon and a type. As the body of a block the text
declares the same names in the same order, and the same types unless a dot stood directly behind
a number.
-/

import FsmCompiler.Proofs.Parameters
import FsmCompiler.Proofs.Respelling

namespace FsmCompiler

/-! ## Reading one block -/

namespace Reader

open Grammar TokenKind

variable {file : String} {machine : Token} {tokens behind : List Token} {read : Draft}
  {resources : List Resource}

/-- Read tokens to the end of the block at hand: what has been read of the machine, and the
tokens that are left. -/
def readBlock (file : String) : State → List Token → Option (Draft × List Token)
  | .between _, _ => none
  | .within _ draft .body, tokens => some (draft, tokens)
  | .within _ _ _, [] => none
  | .within complete draft cursor, token :: rest =>
    match step file (.within complete draft cursor) token with
    | .ok next => readBlock file next rest
    | .error _ => none

/-- Read a block of resources: the resources, and the tokens that are left. -/
def readResources (file : String) (machine : Token) :
    List Token → Option (List Resource × List Token)
  | [] => none
  | keyword :: rest =>
    if keyword.kind = guardResources ∨ keyword.kind = actionResources then
      match step file (.within [] (.ofName machine) .body) keyword with
      | .ok next => (readBlock file next rest).map fun (draft, left) =>
        (draft.guardResources ++ draft.actionResources, left)
      | .error _ => none
    else none

theorem readBlock_body {complete : List Machine} {draft : Draft} :
    readBlock file (.within complete draft .body) tokens = some (draft, tokens) := by
  cases tokens <;> rfl

theorem follows_readBlock :
    Follows file (fun state tokens => readBlock file state tokens = some (read, behind)) := by
  intro complete draft cursor tokens hcursor
  cases tokens with
  | nil => cases cursor <;> simp_all [readBlock]
  | cons token rest =>
    have hread : readBlock file (.within complete draft cursor) (token :: rest) =
        match step file (.within complete draft cursor) token with
        | .ok next => readBlock file next rest
        | .error _ => none := by
      cases cursor <;> first | rfl | exact absurd rfl hcursor
    beta_reduce
    rw [hread]
    simp only [← step_within_eq_ok_iff]
    cases hstep : step file (.within complete draft cursor) token with
    | ok next => simp [hstep]
    | error fault => simp [hstep]

theorem readBlock_resources_iff {complete : List Machine} {draft : Draft} {keyword : String} :
    readBlock file (.within complete draft (.resourcesOpening keyword)) tokens =
        some (read, behind) ↔
      ∃ opening body resources closing, tokens = opening :: body ++ closing :: behind ∧
        opening.kind = leftBrace ∧ CommaList (ResourceItem file) body resources ∧
        closing.kind = rightBrace ∧ resources.foldl Draft.addResource draft = read := by
  rw [follows_readBlock.resourcesOpening_iff]
  simp only [readBlock_body, Option.some.injEq, Prod.mk.injEq]
  constructor
  · rintro ⟨opening, body, resources, closing, rest, rfl, hopening, hbody, hclosing, hread, rfl⟩
    exact ⟨opening, body, resources, closing, rfl, hopening, hbody, hclosing, hread⟩
  · rintro ⟨opening, body, resources, closing, rfl, hopening, hbody, hclosing, hread⟩
    exact ⟨opening, body, resources, closing, behind, rfl, hopening, hbody, hclosing, hread, rfl⟩

/-- The keywords of the two blocks, and the parts of a machine that they begin. -/
def Opens (kind : TokenKind) (part : Part) : Prop :=
  kind = guardResources ∧ part = .guardResources ∨ kind = actionResources ∧ part = .actionResources

theorem readResources_cons {keyword : Token} {part : Part} (hopens : Opens keyword.kind part) :
    readResources file machine (keyword :: tokens) =
      (readBlock file (.within [] { Draft.ofName machine with part := some part }
        (.resourcesOpening keyword.text)) tokens).map fun (draft, left) =>
          (draft.guardResources ++ draft.actionResources, left) := by
  rcases hopens with ⟨hkind, rfl⟩ | ⟨hkind, rfl⟩ <;>
    simp [readResources, hkind, step, stepWithin, stepBody, Part.ofKeyword?, Draft.allows,
      Draft.ofName, Except.mapError]

theorem resources_foldl {kind : TokenKind} {part : Part} (hopens : Opens kind part) :
    let draft := resources.foldl Draft.addResource { Draft.ofName machine with part := some part }
    draft.guardResources ++ draft.actionResources = resources := by
  rcases hopens with ⟨-, rfl⟩ | ⟨-, rfl⟩
  · rw [foldl_addResource_guards _ resources rfl]
    exact List.append_nil resources
  · rw [foldl_addResource_actions _ resources rfl]
    rfl

/-- What is read as a block of resources is one, behind either of the two keywords. -/
theorem readResources_eq_some_iff :
    readResources file machine tokens = some (resources, behind) ↔
      ∃ kind part block, Opens kind part ∧ ResourceBlock file kind block resources ∧
        tokens = block ++ behind := by
  constructor
  · intro hread
    cases tokens with
    | nil => cases hread
    | cons keyword rest =>
      obtain ⟨part, hopens⟩ : ∃ part, Opens keyword.kind part := by
        by_contra hnone
        rw [readResources, if_neg] at hread
        · cases hread
        · rintro (hkind | hkind)
          · exact hnone ⟨_, .inl ⟨hkind, rfl⟩⟩
          · exact hnone ⟨_, .inr ⟨hkind, rfl⟩⟩
      rw [readResources_cons hopens, Option.map_eq_some_iff] at hread
      obtain ⟨⟨draft, left⟩, hblock, heq⟩ := hread
      obtain ⟨rfl, rfl⟩ := Prod.mk.inj heq
      obtain ⟨opening, body, resources, closing, rfl, hopening, hbody, hclosing, rfl⟩ :=
        readBlock_resources_iff.1 hblock
      rw [resources_foldl hopens]
      exact ⟨_, part, _, hopens, .intro rfl hopening hbody hclosing, by simp⟩
  · rintro ⟨kind, part, block, hopens, hblock, rfl⟩
    cases hblock with
    | @intro keyword opening body _ closing hkeyword hopening hbody hclosing =>
      subst hkeyword
      rw [List.cons_append, List.cons_append, readResources_cons hopens, Option.map_eq_some_iff]
      refine ⟨(_, behind), readBlock_resources_iff.2 ⟨opening, body, resources, closing, ?_,
        hopening, hbody, hclosing, rfl⟩, ?_⟩
      · simp
      · exact congrArg (·, behind) (resources_foldl hopens)

end Reader

/-! ## Groups between commas -/

namespace Token

open Grammar TokenKind

variable {file : String} {depth : Nat} {tokens type rest : List Token} {inBrackets : Bool}

/-- How many brackets are open behind a token. -/
def openBehind (depth : Nat) : TokenKind → Nat
  | leftBracket | leftParen => depth + 1
  | rightBracket | rightParen => depth - 1
  | _ => depth

/-- The groups of tokens between the commas that stand outside brackets, where `depth` brackets
are open already. -/
def groupsWithin (depth : Nat) : List Token → List (List Token)
  | [] => [[]]
  | token :: rest =>
    if token.kind = comma ∧ depth = 0 then [] :: groupsWithin 0 rest
    else (groupsWithin (openBehind depth token.kind) rest).modifyHead (token :: ·)

/-- The groups of tokens between the commas outside brackets. Where nothing is, there is no
group. -/
def commaGroups (tokens : List Token) : List (List Token) :=
  if tokens = [] then [] else groupsWithin 0 tokens

theorem groupsWithin_cons {token : Token} (hcomma : token.kind = comma → 0 < depth) :
    groupsWithin depth (token :: rest) =
      (groupsWithin (openBehind depth token.kind) rest).modifyHead (token :: ·) := by
  rw [groupsWithin, if_neg]
  rintro ⟨hkind, rfl⟩
  exact absurd (hcomma hkind) (lt_irrefl 0)

/-- A nested run stays in one group. -/
theorem groupsWithin_append (htype : TypeRun inBrackets type)
    (hinside : inBrackets = true → 0 < depth) :
    groupsWithin depth (type ++ rest) = (groupsWithin depth rest).modifyHead (type ++ ·) := by
  induction htype generalizing depth rest with
  | nil => exact (congrFun List.modifyHead_id _).symm
  | @plain _ token _ hkind hopening hclosing hcomma _ ih =>
    have hstays : openBehind depth token.kind = depth := by
      cases htoken : token.kind <;> simp_all [openBehind, closer?]
    rw [List.cons_append, groupsWithin_cons fun hkind => hinside (hcomma hkind), hstays,
      ih hinside, List.modifyHead_modifyHead]
    rfl
  | @group _ opening inner closing later hclosing _ _ ihInner ihRest =>
    have hkinds : openBehind depth opening.kind = depth + 1 ∧ opening.kind ≠ comma ∧
        openBehind (depth + 1) closing.kind = depth ∧ closing.kind ≠ comma := by
      rcases closer?_eq_some_iff.1 hclosing with ⟨hopens, hcloses⟩ | ⟨hopens, hcloses⟩ <;>
        simp [hopens, hcloses, openBehind]
    obtain ⟨hopens, hopening, hcloses, hcloser⟩ := hkinds
    rw [List.cons_append, List.cons_append, List.append_assoc, List.cons_append,
      groupsWithin_cons fun hkind => absurd hkind hopening, hopens,
      ihInner fun _ => Nat.succ_pos depth, groupsWithin_cons fun hkind => absurd hkind hcloser,
      hcloses, ihRest hinside]
    simp [List.modifyHead_modifyHead, Function.comp_def]

/-- A list is its first group, or it goes on behind the comma that ends the group. -/
theorem groupsWithin_cases (depth : Nat) (tokens : List Token) :
    groupsWithin depth tokens = [tokens] ∨
      ∃ group separator rest, tokens = group ++ separator :: rest ∧ separator.kind = comma ∧
        groupsWithin depth tokens = group :: groupsWithin 0 rest := by
  induction tokens generalizing depth with
  | nil => exact .inl rfl
  | cons token tokens ih =>
    rw [groupsWithin]
    split
    · rename_i hcomma
      exact .inr ⟨[], token, tokens, rfl, hcomma.1, rfl⟩
    · rcases ih (openBehind depth token.kind) with
        hall | ⟨group, separator, rest, rfl, hcomma, hgroups⟩
      · exact .inl (by rw [hall]; rfl)
      · exact .inr ⟨token :: group, separator, rest, rfl, hcomma, by rw [hgroups]; rfl⟩

/-- What stands between the commas is a list with commas. -/
theorem commaList_of_groups {Item : List Token → α → Prop} {items : List α}
    (hgroups : List.Forall₂ Item (commaGroups tokens) items) : CommaList Item tokens items := by
  by_cases hempty : tokens = []
  · subst hempty
    cases hgroups
    exact .nil
  rw [commaGroups, if_neg hempty] at hgroups
  clear hempty
  induction items generalizing tokens with
  | nil =>
    rcases groupsWithin_cases 0 tokens with hall | ⟨_, _, _, _, _, hsplit⟩
    · rw [hall] at hgroups
      cases hgroups
    · rw [hsplit] at hgroups
      cases hgroups
  | cons item items ih =>
    rcases groupsWithin_cases 0 tokens with hall | ⟨group, separator, rest, rfl, hcomma, hsplit⟩
    · rw [hall] at hgroups
      cases hgroups with
      | cons hitem hnone =>
        cases hnone
        exact .last hitem
    · rw [hsplit] at hgroups
      cases hgroups with
      | cons hitem hlater => exact .cons hitem hcomma (ih hlater)

/-- Groups do not depend on places. -/
theorem groupsWithin_words :
    groupsWithin depth (words tokens) = (groupsWithin depth tokens).map words := by
  induction tokens generalizing depth with
  | nil => rfl
  | cons token tokens ih =>
    rw [words, List.map_cons, ← words, groupsWithin, groupsWithin, relocate_kind]
    split
    · rw [ih]
      rfl
    · rw [ih]
      cases groupsWithin (openBehind depth token.kind) tokens <;> rfl

/-! ## Parameters -/

theorem closersAfterAll_words {closers : List TokenKind} :
    Reader.closersAfterAll closers (words tokens) = Reader.closersAfterAll closers tokens := by
  induction tokens generalizing closers with
  | nil => rfl
  | cons token tokens ih =>
    rw [words, List.map_cons, ← words, Reader.closersAfterAll, Reader.closersAfterAll,
      relocate_kind]
    simp only [ih]

theorem typeRun_words_iff : TypeRun false (words tokens) ↔ TypeRun false tokens := by
  rw [← Reader.closersAfterAll_eq_nil_iff, ← Reader.closersAfterAll_eq_nil_iff,
    closersAfterAll_words]

variable {plain : Prop} {group body : List Token} {groups : List (List Token)}
  {resource : Resource} {resources : List Resource}

/-- The tokens declare the resource again at another place. Its type is the same if `plain`
holds. -/
def DeclaresAgain (file : String) (plain : Prop) (group : List Token) (resource : Resource) :
    Prop :=
  ∃ again, ResourceItem file group again ∧ again.name = resource.name ∧
    (plain → again.type = resource.type)

/-- What is declared again does not depend on places. -/
theorem DeclaresAgain.of_words (hgroup : DeclaresAgain file plain (words group) resource) :
    DeclaresAgain file plain group resource := by
  obtain ⟨again, hitem, hname, htype⟩ := hgroup
  generalize hwords : words group = spelled at hitem
  cases hitem with
  | @intro name separator type hkind hseparator hrun hsome =>
    obtain ⟨first, _, rfl, rfl, hrest⟩ := List.map_eq_cons_iff.1 hwords
    obtain ⟨second, later, rfl, rfl, rfl⟩ := List.map_eq_cons_iff.1 hrest
    refine ⟨_, .intro hkind hseparator (typeRun_words_iff.1 hrun) (by simpa using hsome), hname, ?_⟩
    intro hplain
    rw [← htype hplain]
    exact (TypeText.ofTokens_relocate _ _).symm

/-- A sign as a token. -/
def sign (kind : TokenKind) : Token := ⟨kind, kind.symbol, .start⟩

theorem Written.sign {c : Char} {kind : TokenKind} {text behind : List Char} {spelled : List Token}
    (hkind : TokenKind.ofPunctuation c = some kind) (htext : Written text behind spelled) :
    Written (c :: text) behind (sign kind :: spelled) := by
  have hsymbol : kind.symbol = String.ofList [c] := by
    unfold TokenKind.ofPunctuation at hkind
    split at hkind <;> cases hkind <;> rfl
  rw [Token.sign, hsymbol]
  have hwritten : Written ([c] ++ text) behind (⟨kind, String.ofList [c], .start⟩ :: spelled) :=
    .lexeme (.punctuation hkind) htext
  exact hwritten

/-- The text of a parameter. -/
def parameter (resource : Resource) : List Char :=
  resource.name.toList ++ ':' :: ' ' :: resource.type.toList

/-- The text of a parameter is written with these tokens, and they declare the resource again. -/
structure SpellsResource (file : String) (plain : Prop) (group : List Token) (resource : Resource) :
    Prop where
  written : ∀ rest, Apart rest → Written (parameter resource) rest group
  again : DeclaresAgain file plain group resource

theorem exists_spellsResource (hitem : ResourceItem file group resource)
    (hlexical : ∀ token ∈ group, token.kind.inType = true → Lexical token)
    (hplain : plain → group.IsChain fun a b => ¬ DotBehindNumber a b) :
    ∃ spelled, SpellsResource file plain spelled resource := by
  cases hitem with
  | @intro name separator type hname hseparator htype hsome =>
    have hword : Lexical name := hlexical name (by simp) (by rw [hname]; rfl)
    have htokens : ∀ token ∈ type, Lexical token := fun token htoken =>
      hlexical token (by simp [htoken]) (inType_of_typeRun htype token htoken)
    -- The name and the colon are as they were; the type is what is read again.
    refine ⟨words (name :: sign colon :: reread none type), fun rest hapart => ?_, _,
      .intro hname rfl (typeRun_words_iff.2 (typeRun_reread htype)) ?_, rfl, fun h => ?_⟩
    · have hcolon : Written (':' :: ' ' :: (TypeText.ofTokens type).toList) rest
          (words (sign colon :: reread none type)) :=
        .sign rfl (.blank (written_ofTokens htokens hapart))
      refine Written.cons (hword.lexeme_before (fun _ => ?_) (by simp [hname])) hcolon
      exact fun c hc => (apart_of_mem_signs (by decide) (by decide) c hc).1
    · simpa using reread_ne_nil (.inr hsome)
    · have hchain : type.IsChain fun a b => ¬ DotBehindNumber a b := (hplain h).tail.tail
      rw [reread_eq_self hchain]
      exact TypeText.ofTokens_relocate _ _

/-- Each resource of a block is spelled by some tokens. -/
theorem exists_spelled (hbody : CommaList (ResourceItem file) body resources)
    (hlexical : ∀ token ∈ body, token.kind.inType = true → Lexical token)
    (hplain : plain → body.IsChain fun a b => ¬ DotBehindNumber a b) :
    ∃ groups, List.Forall₂ (SpellsResource file plain) groups resources := by
  induction hbody with
  | nil => exact ⟨[], .nil⟩
  | last hitem =>
    obtain ⟨spelled, hspelled⟩ := exists_spellsResource hitem hlexical hplain
    exact ⟨[spelled], .cons hspelled .nil⟩
  | cons hitem _ _ ih =>
    obtain ⟨spelled, hspelled⟩ := exists_spellsResource hitem
      (fun token htoken => hlexical token (by simp [htoken])) fun h => (hplain h).left_of_append
    obtain ⟨groups, hgroups⟩ := ih (fun token htoken => hlexical token (by simp [htoken]))
      fun h => (hplain h).right_of_append.tail
    exact ⟨spelled :: groups, .cons hspelled hgroups⟩

/-- Groups with commas between them. -/
def joined : List (List Token) → List Token
  | [] => []
  | group :: groups => group ++ groups.flatMap (sign comma :: ·)

/-- The text of parameters is written with the groups that spell them. -/
theorem written_params (hgroups : List.Forall₂ (SpellsResource file plain) groups resources)
    {behind : List Char} (hapart : Apart behind) :
    Written (ModuleText.params resources).toList behind (joined groups) := by
  have htail : ∀ {groups resources},
      List.Forall₂ (SpellsResource file plain) groups resources →
        Apart (resources.flatMap Target.paramText ++ behind) ∧
          Written (resources.flatMap Target.paramText) behind
            (groups.flatMap (sign comma :: ·)) := by
    intro groups resources hgroups
    induction hgroups with
    | nil => exact ⟨hapart, .nil⟩
    | @cons group resource groups resources hgroup _ ih =>
      have hcomma : Apart (',' :: (' ' :: parameter resource ++
          resources.flatMap Target.paramText ++ behind)) :=
        apart_of_mem_signs (by decide) (by decide)
      refine ⟨hcomma, ?_⟩
      exact .sign rfl (.blank ((hgroup.written _ ih.1).append ih.2))
  cases hgroups with
  | nil => exact .nil
  | @cons group resource groups resources hgroup hgroups =>
    have htext : (ModuleText.params (resource :: resources)).toList =
        parameter resource ++ resources.flatMap Target.paramText := by
      have hflat := Target.flatMap_params (resource :: resources)
      simpa [Target.paramText, parameter] using hflat
    rw [htext]
    obtain ⟨hbehind, hwritten⟩ := htail hgroups
    exact (hgroup.written _ hbehind).append hwritten

theorem groupsWithin_resource (hitem : ResourceItem file group resource) :
    groupsWithin 0 (group ++ rest) = (groupsWithin 0 rest).modifyHead (group ++ ·) := by
  cases hitem with
  | @intro name separator type hname hseparator htype hsome =>
    have hword : openBehind 0 name.kind = 0 ∧ name.kind ≠ comma := by simp [hname, openBehind]
    have hcolon : openBehind 0 separator.kind = 0 ∧ separator.kind ≠ comma := by
      simp [hseparator, openBehind]
    rw [List.cons_append, List.cons_append, groupsWithin_cons fun hkind => absurd hkind hword.2,
      hword.1, groupsWithin_cons fun hkind => absurd hkind hcolon.2, hcolon.1,
      groupsWithin_append htype (by simp), List.modifyHead_modifyHead, List.modifyHead_modifyHead]
    rfl

/-- The groups are found again between the commas. -/
theorem commaGroups_joined (hgroups : List.Forall₂ (SpellsResource file plain) groups resources) :
    commaGroups (joined groups) = groups := by
  cases hgroups with
  | nil => rfl
  | @cons group resource groups resources hgroup hgroups =>
    have hsome : joined (group :: groups) ≠ [] := by
      obtain ⟨again, hitem, -⟩ := hgroup.again
      cases hitem
      simp [joined]
    rw [commaGroups, if_neg hsome, joined]
    clear hsome
    induction hgroups generalizing group resource with
    | nil =>
      obtain ⟨again, hitem, -⟩ := hgroup.again
      rw [groupsWithin_resource hitem]
      simp [groupsWithin]
    | @cons second _ later _ hsecond _ ih =>
      obtain ⟨again, hitem, -⟩ := hgroup.again
      rw [groupsWithin_resource hitem, List.flatMap_cons, List.cons_append, groupsWithin,
        if_pos ⟨rfl, rfl⟩, ih hsecond]
      simp

/-- Tokens that differ from joined groups in their places only are groups that declare the
resources again. -/
theorem declaresAgain_of_words (hgroups : List.Forall₂ (SpellsResource file plain) groups resources)
    (hwords : words tokens = joined groups) :
    List.Forall₂ (DeclaresAgain file plain) (commaGroups tokens) resources := by
  have hsplit : (commaGroups tokens).map words = groups := by
    rw [← commaGroups_joined hgroups, ← hwords, commaGroups, commaGroups]
    by_cases hempty : tokens = []
    · rw [if_pos hempty, if_pos (by simp [hempty, words])]
      rfl
    · rw [if_neg hempty, if_neg (by simpa [words] using hempty), groupsWithin_words]
  rw [← hsplit, List.forall₂_map_left_iff] at hgroups
  exact hgroups.imp fun _ _ hgroup => hgroup.again.of_words

/-- Groups that declare resources again are the body of a block. -/
theorem exists_commaList
    (hgroups : List.Forall₂ (DeclaresAgain file plain) (commaGroups tokens) resources) :
    ∃ again, CommaList (ResourceItem file) tokens again ∧
      again.map (·.name) = resources.map (·.name) ∧
      (plain → again.map (·.type) = resources.map (·.type)) := by
  suffices hitems : ∃ again, List.Forall₂ (ResourceItem file) (commaGroups tokens) again ∧
      again.map (·.name) = resources.map (·.name) ∧
      (plain → again.map (·.type) = resources.map (·.type)) by
    obtain ⟨again, hitems, hboth⟩ := hitems
    exact ⟨again, commaList_of_groups hitems, hboth⟩
  generalize commaGroups tokens = groups at hgroups
  induction hgroups with
  | nil => exact ⟨[], .nil, rfl, fun _ => rfl⟩
  | cons hgroup _ ih =>
    obtain ⟨first, hitem, hname, htype⟩ := hgroup
    obtain ⟨again, hitems, hnames, htypes⟩ := ih
    refine ⟨first :: again, .cons hitem hitems, by simp [hname, hnames], fun h => ?_⟩
    simp [htype h, htypes h]

end Token

namespace Reader

open Grammar TokenKind

variable {text file : String} {machine : Token} {before block behind : List Token}
  {resources : List Resource}

/-- The resources of a block are spelled by groups of tokens. -/
theorem exists_spelled_of_readResources
    (hscan : Token.scan text = .ok (before ++ block ++ behind))
    (hread : readResources file machine (block ++ behind) = some (resources, behind)) :
    ∃ groups, List.Forall₂ (Token.SpellsResource file
      (block.IsChain fun first second => ¬ Token.DotBehindNumber first second))
      groups resources := by
  obtain ⟨kind, part, _, -, hblock, hsplit⟩ := readResources_eq_some_iff.1 hread
  obtain rfl := List.append_cancel_right hsplit
  cases hblock with
  | intro _ _ hbody _ =>
    refine Token.exists_spelled hbody (fun token htoken => ?_) fun hchain => ?_
    · exact Token.lexical_of_scan hscan (by simp [htoken])
    · exact hchain.left_of_append.tail.tail

theorem lexeme_guardResources {rest : List Char} :
    Token.Lexeme guardResources "GuardResources".toList (' ' :: rest) := by
  have htext : "GuardResources".toList = 'G' :: "uardResources".toList := by simp
  have hword : "uardResources".toList.all Token.isWordRest = true := by decide +kernel
  have hkind : Token.WordKind "GuardResources" guardResources := .inl (by simp [TokenKind.keywords])
  rw [htext]
  refine .word (.inl (by decide))
    (fun c hc => Token.isWordRest_iff.1 (List.all_eq_true.1 hword c hc)) ?_ ?_
  · rintro _ ⟨⟩
    exact Token.not_wordChar_blank.1
  · rwa [← htext, String.ofList_toList]

/-- The text of the parameters as the body of a block. -/
theorem written_block {groups : List (List Token)} {plain : Prop}
    (hgroups : List.Forall₂ (Token.SpellsResource file plain) groups resources) :
    Token.Written ("GuardResources \x7b " ++ ModuleText.params resources ++ " \x7d").toList []
      (Token.sign guardResources :: Token.sign leftBrace ::
        (Token.joined groups ++ [Token.sign rightBrace])) := by
  have hclosing : Token.Written [' ', '}'] [] [Token.sign rightBrace] :=
    .blank (.sign rfl .nil)
  have hbehind : Token.Apart ([' ', '}'] ++ []) := Token.apart_of_isBlank rfl
  have hparams := (Token.written_params hgroups hbehind).append hclosing
  have hopening : Token.Written (' ' :: '{' :: ' ' ::
      ((ModuleText.params resources).toList ++ [' ', '}'])) [] (Token.sign leftBrace ::
        (Token.joined groups ++ [Token.sign rightBrace])) :=
    .blank (.sign rfl (.blank hparams))
  have htext : ("GuardResources \x7b " ++ ModuleText.params resources ++ " \x7d").toList =
      "GuardResources".toList ++ ' ' :: '{' :: ' ' ::
        ((ModuleText.params resources).toList ++ [' ', '}']) := by
    simp
  rw [htext]
  exact Token.Written.lexeme lexeme_guardResources hopening

/-- Reading the parameters of a block of resources back. Cut at the commas outside brackets, their
text is one group of tokens for each resource: its name, a colon and a type, in which brackets
match. As a block of resources it declares the same names again, and the same types if no dot
stood directly behind a number. -/
theorem params_readBack (hscan : Token.scan text = .ok (before ++ block ++ behind))
    (hread : readResources file machine (block ++ behind) = some (resources, behind)) :
    (∃ front ending, Token.scan (ModuleText.params resources) = .ok (front ++ [ending]) ∧
      ending.kind = endOfInput ∧
      List.Forall₂ (fun group resource =>
        ∃ again, ResourceItem file group again ∧ again.name = resource.name)
          (Token.commaGroups front) resources) ∧
    ∃ tokens again ending,
      Token.scan ("GuardResources \x7b " ++ ModuleText.params resources ++ " \x7d") = .ok tokens ∧
      readResources file machine tokens = some (again, [ending]) ∧ ending.kind = endOfInput ∧
      again.map (·.name) = resources.map (·.name) ∧
      (block.IsChain (fun first second => ¬ Token.DotBehindNumber first second) →
        again.map (·.type) = resources.map (·.type)) := by
  obtain ⟨groups, hgroups⟩ := exists_spelled_of_readResources hscan hread
  constructor
  · obtain ⟨tokens, htokens, hwords⟩ :=
      Token.scan_of_spells (Token.written_params hgroups Token.apart_nil).spells
    obtain ⟨front, ending, rfl, hfront, hending⟩ := List.map_eq_append_iff.1 hwords
    obtain ⟨ending, _, rfl, hend, hnone⟩ := List.map_eq_cons_iff.1 hending
    obtain rfl := List.map_eq_nil_iff.1 hnone
    refine ⟨front, ending, htokens, congrArg Token.kind hend, ?_⟩
    refine (Token.declaresAgain_of_words hgroups hfront).imp fun group resource hgroup => ?_
    obtain ⟨again, hitem, hname, -⟩ := hgroup
    exact ⟨again, hitem, hname⟩
  · obtain ⟨tokens, htokens, hwords⟩ := Token.scan_of_spells (written_block hgroups).spells
    rw [List.cons_append, List.cons_append, List.append_assoc] at hwords
    obtain ⟨keyword, _, rfl, hkeyword, hwords⟩ := List.map_eq_cons_iff.1 hwords
    obtain ⟨opening, _, rfl, hopening, hwords⟩ := List.map_eq_cons_iff.1 hwords
    obtain ⟨body, _, rfl, hbody, hwords⟩ := List.map_eq_append_iff.1 hwords
    obtain ⟨closing, _, rfl, hclosing, hwords⟩ := List.map_eq_cons_iff.1 hwords
    obtain ⟨ending, _, rfl, hending, hwords⟩ := List.map_eq_cons_iff.1 hwords
    obtain rfl := List.map_eq_nil_iff.1 hwords
    obtain ⟨again, hagain, hnames, htypes⟩ :=
      Token.exists_commaList (Token.declaresAgain_of_words hgroups hbody)
    refine ⟨_, again, ending, htokens, ?_, congrArg Token.kind hending, hnames, htypes⟩
    have hblock :
        ResourceBlock file guardResources (keyword :: opening :: body ++ [closing]) again :=
      .intro (congrArg Token.kind hkeyword :) (congrArg Token.kind hopening :) hagain
        (congrArg Token.kind hclosing :)
    exact readResources_eq_some_iff.2 ⟨_, _, _, .inl ⟨rfl, rfl⟩, hblock, by simp⟩

theorem params_readBack_of_pair :
    ∃ resources tokens again ending, ModuleText.params resources = "a: (b, c)" ∧
      Token.scan ("GuardResources \x7b " ++ ModuleText.params resources ++ " \x7d") = .ok tokens ∧
      readResources "m.sm" (Token.endAt .start) tokens = some (again, [ending]) ∧
      again.map (·.type) = ["(b, c)"] := by
  let block : List Token :=
    [⟨guardResources, "GuardResources", ⟨1, 1⟩⟩, ⟨leftBrace, "\x7b", ⟨1, 15⟩⟩,
    ⟨identifier, "a", ⟨1, 16⟩⟩, ⟨colon, ":", ⟨1, 17⟩⟩, ⟨leftParen, "(", ⟨1, 18⟩⟩,
    ⟨identifier, "b", ⟨1, 19⟩⟩, ⟨comma, ",", ⟨1, 20⟩⟩, ⟨identifier, "c", ⟨1, 21⟩⟩,
    ⟨rightParen, ")", ⟨1, 22⟩⟩, ⟨rightBrace, "\x7d", ⟨1, 23⟩⟩]
  let ending : Token := ⟨endOfInput, "", ⟨1, 24⟩⟩
  have hscan : Token.scan "GuardResources\x7ba:(b,c)\x7d" = .ok ([] ++ block ++ [ending]) := by
    decide +kernel
  have hread : readResources "m.sm" (Token.endAt .start) (block ++ [ending]) =
      some ([⟨"a", "(b, c)", some ⟨"m.sm", 1, 16⟩⟩], [ending]) := rfl
  obtain ⟨-, tokens, again, ending, htokens, hagain, -, -, htypes⟩ := params_readBack hscan hread
  have hplain : block.IsChain fun first second => ¬ Token.DotBehindNumber first second := by
    simp [block, Token.DotBehindNumber]
  exact ⟨_, tokens, again, ending, rfl, htokens, hagain, htypes hplain⟩

end Reader

end FsmCompiler
