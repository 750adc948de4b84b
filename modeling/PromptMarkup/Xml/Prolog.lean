import PromptMarkup.Xml.Dtd

/-!
# The prolog

What may stand before the root element: a declaration, comments, processing instructions and one document type with
its declarations.  The prolog is read token by token; each state says which tokens may come next.
-/

namespace PromptMarkup.Xml

/-- What may stand behind a name or a closing parenthesis. -/
inductive Suffix where
  | none
  | optional
  | many
  | some
  deriving DecidableEq, Repr

/-- The shapes of names: a plain one, two with a colon between them, or one that no element may have. -/
inductive NameShape where
  | plain
  | qualified
  | token
  deriving DecidableEq, Repr

/-- A token of the prolog. -/
inductive Token where
  | space
  | declaration
  | instruction
  | comment
  | open (keyword : String)
  | conditionOpen
  | conditionClose
  | root
  | name (shape : NameShape) (suffix : Suffix) (s : String)
  | keyword (s : String)
  | literal (s : List Char)
  | percent
  | parameter (name : String)
  | leftBracket
  | rightBracket
  | leftParen
  | rightParen (suffix : Suffix)
  | comma
  | bar
  | close
  deriving DecidableEq, Repr

/-- Whether a character may stand behind a name in a declaration. -/
def endsToken (c : Char) : Bool := isSpace c || ">),|[%".toList.contains c

/-- The suffix that a character is. -/
def suffixOf? : Char → Option Suffix
  | '?' => some .optional
  | '*' => some .many
  | '+' => some .some
  | _ => none

/-- The rest of a name of a given shape.  `final` says that the end of the text ends a token. -/
def scanNameToken (final : Bool) (shape : NameShape) (acc : List Char) : List Char → Scan Token
  | [] => if final then .found (.name shape .none (String.ofList acc.reverse)) [] else .short
  | [':'] =>
    match shape with
    | .plain => .short
    | _ => if final then .found (.name .token .none (String.ofList (':' :: acc).reverse)) [] else .short
  | ':' :: c :: r =>
    match shape with
    | .plain =>
      if isNameChar c then scanNameToken final .qualified (c :: ':' :: acc) r
      else scanNameToken final .token (':' :: acc) (c :: r)
    | _ => scanNameToken final .token (':' :: acc) (c :: r)
  | c :: r =>
    if isNameChar c then scanNameToken final shape (c :: acc) r
    else if endsToken c then .found (.name shape .none (String.ofList acc.reverse)) (c :: r)
    else
      match suffixOf? c with
      | some x =>
        if shape = .token then .bad (c :: r)
        else .found (.name shape x (String.ofList acc.reverse)) r
      | none => .bad (c :: r)

/-- A literal up to its closing quotation mark. -/
def scanLiteral (final : Bool) (mark : Char) (acc : List Char) : List Char → Scan Token
  | [] => .short
  | c :: r =>
    if c = mark then
      match r with
      | [] => if final then .found (.literal acc.reverse) [] else .short
      | d :: _ =>
        if isSpace d || ">%[".toList.contains d then .found (.literal acc.reverse) r else .bad r
    else scanLiteral final mark (c :: acc) r

/-- The opening of a declaration, from behind its exclamation mark. -/
def scanOpening : List Char → Scan Token
  | [] => .short
  | ['-'] => .short
  | '-' :: '-' :: r => (scanComment r).map fun _ => .comment
  | '-' :: r => .bad r
  | '[' :: r => .found .conditionOpen r
  | c :: r =>
    let isLetter (d : Char) : Bool := d.isAlpha || d == '_'
    if isLetter c then
      let word := String.ofList (c :: r.takeWhile isLetter)
      match r.dropWhile isLetter with
      | [] => .short
      | ['%'] => .short
      | '%' :: d :: t =>
        if isSpace d || d == '%' then .bad ('%' :: d :: t) else .found (.open word) ('%' :: d :: t)
      | d :: t => if isSpace d then .found (.open word) (d :: t) else .bad (d :: t)
    else .bad (c :: r)

/-- What a percent sign opens, from behind it. -/
def scanPercent : List Char → Scan Token
  | [] => .short
  | c :: r =>
    if isSpace c || c == '%' then .found .percent (c :: r)
    else
      (scanName (c :: r)).bind fun name t =>
        match t with
        | [] => .short
        | ';' :: u => .found (.parameter name) u
        | t => .bad t

/-- A keyword, from behind its number sign. -/
def scanKeyword (final : Bool) (s : List Char) : Scan Token :=
  (scanName s).bind fun name t =>
    match t with
    | [] => if final then .found (.keyword name) [] else .short
    | c :: _ => if isSpace c || ")>%|".toList.contains c then .found (.keyword name) t else .bad t

/-- A token of the prolog, from the start of a text that is not empty. -/
def scanToken (final : Bool) : List Char → Scan Token
  | [] => .short
  | '"' :: r => scanLiteral final '"' [] r
  | '\'' :: r => scanLiteral final '\'' [] r
  | ['<'] => .short
  | '<' :: '!' :: r => scanOpening r
  | '<' :: '?' :: r =>
    (scanInstruction r).map fun declared => if declared then .declaration else .instruction
  | '<' :: c :: r =>
    if isNameStart c || c.toNat ≥ 128 then .found .root ('<' :: c :: r) else .bad (c :: r)
  | '%' :: r => scanPercent r
  | ',' :: r => .found .comma r
  | '[' :: r => .found .leftBracket r
  | [']'] => if final then .found .rightBracket [] else .short
  | [']', ']'] => .short
  | ']' :: ']' :: '>' :: r => .found .conditionClose r
  | ']' :: r => .found .rightBracket r
  | '(' :: r => .found .leftParen r
  | [')'] => if final then .found (.rightParen .none) [] else .short
  | ')' :: c :: r =>
    match suffixOf? c with
    | some x => .found (.rightParen x) r
    | none =>
      if isSpace c || ">,|)".toList.contains c then .found (.rightParen .none) (c :: r)
      else .bad (c :: r)
  | '|' :: r => .found .bar r
  | '>' :: r => .found .close r
  | '#' :: r => scanKeyword final r
  | c :: r =>
    if isSpace c then .found .space (r.dropWhile isSpace)
    else if isNameStart c then scanNameToken final .plain [c] r
    else if isNameChar c || c == ':' then scanNameToken final .token [c] r
    else .bad (c :: r)

/-- An entity that is being declared: a general one that counts under a name, or one that does not count. -/
abbrev Target := Option String

/-- The connectors of the groups that are open, innermost first. -/
abbrev Groups := List (Option Char)

/-- What the tokens before have led to. -/
inductive Expect where
  | start
  | misc
  | doctypeName
  | doctypeBody
  | doctypePublic
  | doctypeSystem
  | doctypeSubset
  | doctypeEnd
  | afterDoctype
  | subset
  | entityName
  | parameterName
  | entityBody (t : Target)
  | entityPublic (t : Target)
  | entitySystem (t : Target)
  | entityEnd (t : Target)
  | entityNotation (t : Target)
  | parameterBody
  | parameterPublic
  | parameterSystem
  | parameterEnd
  | notationName
  | notationBody
  | notationPublic
  | notationSystem
  | notationOptionalSystem
  | attributesOf
  | attributeName (element : String)
  | attributeType (element name : String)
  | enumValue (element name : String)
  | enumNext (element name : String)
  | notationOpen (element name : String)
  | notationValue (element name : String)
  | notationNext (element name : String)
  | attributeDefault (element name : String) (verbatim isId : Bool)
  | attributeFixed (element name : String) (verbatim : Bool)
  | elementName
  | elementBody
  | groupStart
  | mixedEnd
  | mixedName
  | mixedNext
  | groupItem (groups : Groups)
  | groupNext (groups : Groups)
  | declarationEnd
  deriving DecidableEq, Repr

/-- A state of the prolog: what is expected, and what has been declared. -/
structure PrologState where
  expect : Expect := .start
  dtd : Dtd := {}

/-- Why a token is refused: it cannot stand where it does, or it has a fault of its own at a place. -/
inductive Refused where
  | unexpected
  | problem (p : Problem) (left : Nat)
  /-- A problem at the place of the token itself. -/
  | here (p : Problem)

namespace PrologState

/-- The state that expects something else. -/
def expecting (s : PrologState) (e : Expect) : Except Refused PrologState := .ok { s with expect := e }

/-- The name under which a declared entity counts: predefined and declared names are not declared again. -/
def target (s : PrologState) (name : String) : Target :=
  if s.dtd.reading && (predefined? name).isNone && (s.dtd.entity? name).isNone then some name
  else none

/-- Declares an entity, if it counts. -/
def addEntity (s : PrologState) (t : Target) (e : Entity) : PrologState :=
  match t with
  | some name => { s with dtd := { s.dtd with entities := s.dtd.entities ++ [(name, e)] } }
  | none => s

/-- A public identifier; `after` is the number of characters behind the literal. -/
def checkPublic (literal : List Char) (after : Nat) : Except Refused Unit :=
  match publicIdFault literal with
  | [] => .ok ()
  | r => .error (.problem .publicId (r.length + 1 + after))

/-- The value of an entity literal. -/
def entityLiteral (s : PrologState) (literal : List Char) (after : Nat) :
    Except Refused (List Char) :=
  if s.dtd.reading then
    match entityValue (literal.length + 1) literal with
    | .ok v => .ok v
    | .error (p, left) => .error (.problem p (left + 1 + after))
  else .ok []

/-- Declares an attribute whose default is a literal. -/
def declareDefault (s : PrologState) (element name : String) (verbatim : Bool)
    (literal : List Char) (after : Nat) : Except Refused PrologState :=
  if s.dtd.reading then
    match attributeValue s.dtd s.dtd.strict verbatim [] literal with
    | .ok v =>
      .ok { s with
        dtd := s.dtd.declare element ⟨name, verbatim, some v⟩ false
        expect := .attributeName element }
    | .error (p, some left) => .error (.problem p (left + 1 + after))
    | .error (p, none) => .error (.here p)
  else .ok { s with expect := .attributeName element }

/-- Declares an attribute without a default. -/
def declareBare (s : PrologState) (element name : String) (verbatim isId : Bool) : PrologState :=
  let dtd :=
    if s.dtd.reading then s.dtd.declare element ⟨name, verbatim, none⟩ isId else s.dtd
  { s with dtd, expect := .attributeName element }

/-- The document type names an external part: the declarations that are read are not all. -/
def nameExternal (s : PrologState) : PrologState :=
  { s with expect := .doctypeSubset, dtd := { s.dtd with incomplete := true } }

/-- A parameter reference stands for declarations that are not read. -/
def skipParameter (s : PrologState) : PrologState :=
  { s with dtd := { s.dtd with incomplete := true, reading := s.dtd.standalone } }

/-- The name and the suffix of a token that names an element. -/
def elementToken? : Token → Option Suffix
  | .name .plain x _ => some x
  | .name .qualified x _ => some x
  | _ => none

/-- A group's connector must be the same between all its items. -/
def connect (groups : Groups) (c : Char) : Except Refused Groups :=
  match groups with
  | some d :: r => if c = d then .ok (some d :: r) else .error .unexpected
  | none :: r => .ok (some c :: r)
  | [] => .ok []

/-- The name that a token is, when it has no suffix and is an element's name. -/
def qualifiedName? : Token → Option String
  | .name .plain .none s => some s
  | .name .qualified .none s => some s
  | _ => none

/-- The next token.  `after` is the number of characters behind it. -/
def next (s : PrologState) (token : Token) (after : Nat) : Except Refused PrologState :=
  match s.expect, token with
  | .start, .space => s.expecting .misc
  | .start, .declaration => s.expecting .misc
  | .start, .instruction => s.expecting .misc
  | .start, .comment => s.expecting .misc
  | .start, .open "DOCTYPE" => s.expecting .doctypeName
  | .misc, .space => .ok s
  | .misc, .instruction => .ok s
  | .misc, .comment => .ok s
  | .misc, .open "DOCTYPE" => s.expecting .doctypeName
  | .afterDoctype, .space => .ok s
  | .afterDoctype, .instruction => .ok s
  | .afterDoctype, .comment => .ok s
  | .subset, .space => .ok s
  | .subset, .instruction => .ok s
  | .subset, .comment => .ok s
  | .subset, .open "ENTITY" => s.expecting .entityName
  | .subset, .open "ATTLIST" => s.expecting .attributesOf
  | .subset, .open "ELEMENT" => s.expecting .elementName
  | .subset, .open "NOTATION" => s.expecting .notationName
  | .subset, .parameter _ => .ok s.skipParameter
  | .subset, .rightBracket => s.expecting .doctypeEnd
  | _, .space => .ok s
  | .doctypeName, .name .plain .none _ => s.expecting .doctypeBody
  | .doctypeName, .name .qualified .none _ => s.expecting .doctypeBody
  | .doctypeBody, .leftBracket => s.expecting .subset
  | .doctypeBody, .close => s.expecting .afterDoctype
  | .doctypeBody, .name .plain .none "SYSTEM" => s.expecting .doctypeSystem
  | .doctypeBody, .name .plain .none "PUBLIC" => s.expecting .doctypePublic
  | .doctypePublic, .literal l => do
    checkPublic l after
    s.expecting .doctypeSystem
  | .doctypeSystem, .literal _ => .ok s.nameExternal
  | .doctypeSubset, .leftBracket => s.expecting .subset
  | .doctypeSubset, .close => s.expecting .afterDoctype
  | .doctypeEnd, .close => s.expecting .afterDoctype
  | .entityName, .percent => s.expecting .parameterName
  | .entityName, .name .plain .none n => s.expecting (.entityBody (s.target n))
  | .entityBody t, .name .plain .none "SYSTEM" => s.expecting (.entitySystem t)
  | .entityBody t, .name .plain .none "PUBLIC" => s.expecting (.entityPublic t)
  | .entityBody t, .literal l => do
    let v ← s.entityLiteral l after
    (s.addEntity t (.internal v)).expecting .declarationEnd
  | .entityPublic t, .literal l => do
    checkPublic l after
    s.expecting (.entitySystem t)
  | .entitySystem t, .literal _ => s.expecting (.entityEnd t)
  | .entityEnd t, .close => (s.addEntity t .external).expecting .subset
  | .entityEnd t, .name .plain .none "NDATA" => s.expecting (.entityNotation t)
  | .entityNotation t, .name .plain .none _ => (s.addEntity t .unparsed).expecting .declarationEnd
  | .parameterName, .name .plain .none _ => s.expecting .parameterBody
  | .parameterBody, .name .plain .none "SYSTEM" => s.expecting .parameterSystem
  | .parameterBody, .name .plain .none "PUBLIC" => s.expecting .parameterPublic
  | .parameterBody, .literal l => do
    let _ ← s.entityLiteral l after
    s.expecting .declarationEnd
  | .parameterPublic, .literal l => do
    checkPublic l after
    s.expecting .parameterSystem
  | .parameterSystem, .literal _ => s.expecting .parameterEnd
  | .parameterEnd, .close => s.expecting .subset
  | .notationName, .name .plain .none _ => s.expecting .notationBody
  | .notationBody, .name .plain .none "SYSTEM" => s.expecting .notationSystem
  | .notationBody, .name .plain .none "PUBLIC" => s.expecting .notationPublic
  | .notationPublic, .literal l => do
    checkPublic l after
    s.expecting .notationOptionalSystem
  | .notationSystem, .literal _ => s.expecting .declarationEnd
  | .notationOptionalSystem, .literal _ => s.expecting .declarationEnd
  | .notationOptionalSystem, .close => s.expecting .subset
  | .attributesOf, .name .plain .none n => s.expecting (.attributeName n)
  | .attributesOf, .name .qualified .none n => s.expecting (.attributeName n)
  | .attributeName _, .close => s.expecting .subset
  | .attributeName e, .name .plain .none n => s.expecting (.attributeType e n)
  | .attributeName e, .name .qualified .none n => s.expecting (.attributeType e n)
  | .attributeType e n, .name .plain .none w =>
    match w with
    | "CDATA" => s.expecting (.attributeDefault e n true false)
    | "ID" => s.expecting (.attributeDefault e n false true)
    | "NOTATION" => s.expecting (.notationOpen e n)
    | w =>
      if ["IDREF", "IDREFS", "ENTITY", "ENTITIES", "NMTOKEN", "NMTOKENS"].contains w then
        s.expecting (.attributeDefault e n false false)
      else .error .unexpected
  | .attributeType e n, .leftParen => s.expecting (.enumValue e n)
  | .enumValue e n, .name _ .none _ => s.expecting (.enumNext e n)
  | .enumNext e n, .rightParen .none => s.expecting (.attributeDefault e n false false)
  | .enumNext e n, .bar => s.expecting (.enumValue e n)
  | .notationOpen e n, .leftParen => s.expecting (.notationValue e n)
  | .notationValue e n, .name .plain .none _ => s.expecting (.notationNext e n)
  | .notationNext e n, .rightParen .none => s.expecting (.attributeDefault e n false false)
  | .notationNext e n, .bar => s.expecting (.notationValue e n)
  | .attributeDefault e n v i, .keyword "IMPLIED" => .ok (s.declareBare e n v i)
  | .attributeDefault e n v i, .keyword "REQUIRED" => .ok (s.declareBare e n v i)
  | .attributeDefault e n v _, .keyword "FIXED" => s.expecting (.attributeFixed e n v)
  | .attributeDefault e n v _, .literal l => s.declareDefault e n v l after
  | .attributeFixed e n v, .literal l => s.declareDefault e n v l after
  | .elementName, .name .plain .none _ => s.expecting .elementBody
  | .elementName, .name .qualified .none _ => s.expecting .elementBody
  | .elementBody, .name .plain .none "EMPTY" => s.expecting .declarationEnd
  | .elementBody, .name .plain .none "ANY" => s.expecting .declarationEnd
  | .elementBody, .leftParen => s.expecting .groupStart
  | .groupStart, .keyword "PCDATA" => s.expecting .mixedEnd
  | .groupStart, .leftParen => s.expecting (.groupItem [none, none])
  | .groupStart, token =>
    match elementToken? token with
    | some _ => s.expecting (.groupNext [none])
    | none => .error .unexpected
  | .mixedEnd, .rightParen .none => s.expecting .declarationEnd
  | .mixedEnd, .rightParen .many => s.expecting .declarationEnd
  | .mixedEnd, .bar => s.expecting .mixedName
  | .mixedName, token =>
    match qualifiedName? token with
    | some _ => s.expecting .mixedNext
    | none => .error .unexpected
  | .mixedNext, .rightParen .many => s.expecting .declarationEnd
  | .mixedNext, .bar => s.expecting .mixedName
  | .groupItem groups, .leftParen => s.expecting (.groupItem (none :: groups))
  | .groupItem groups, token =>
    match elementToken? token with
    | some _ => s.expecting (.groupNext groups)
    | none => .error .unexpected
  | .groupNext groups, .rightParen _ =>
    match groups with
    | [] => s.expecting .declarationEnd
    | [_] => s.expecting .declarationEnd
    | _ :: r => s.expecting (.groupNext r)
  | .groupNext groups, .comma => do s.expecting (.groupItem (← connect groups ','))
  | .groupNext groups, .bar => do s.expecting (.groupItem (← connect groups '|'))
  | .declarationEnd, .close => s.expecting .subset
  | _, _ => .error .unexpected

end PrologState

/-- What is wrong with a token that cannot stand where it does. -/
def unexpectedProblem : Token → Problem
  | .parameter _ => .misplacedParameterReference
  | .declaration => .misplacedDeclaration
  | _ => .unexpected

/-- How a text ends: as it should, or at something that is no character. -/
inductive Ending where
  | clean
  /-- Half a unit of two bytes is left over. -/
  | halfUnit
  /-- The bytes that follow are no character. -/
  | invalid
  /-- The bytes that follow are the start of a character. -/
  | partialCharacter
  deriving DecidableEq, Repr

namespace Ending

/-- The problem of a text that ends inside a token, which started `left` characters before the end. -/
def insideToken (e : Ending) (left : Nat) : Error :=
  match e with
  | clean => ⟨.unclosedToken, left⟩
  | halfUnit => ⟨.unclosedToken, left⟩
  | invalid => ⟨.invalidToken, 0⟩
  | partialCharacter => ⟨.partialCharacter, left⟩

/-- The problem of a text that ends between tokens, if the clean end is one. -/
def betweenTokens (e : Ending) (clean : Problem) : Error :=
  match e with
  | .clean => ⟨clean, 0⟩
  | e => e.insideToken 0

/-- Whether the end of the text ends a token. -/
def isFinal (e : Ending) : Bool := e = clean || e = halfUnit

end Ending

/-- Reads the prolog up to the root element; `fuel` bounds the number of tokens. -/
def readProlog (ending : Ending) : Nat → PrologState → List Char → Except Error (Dtd × List Char)
  | 0, _, s => .error (ending.insideToken s.length)
  | _ + 1, _, [] => .error (ending.betweenTokens .noElement)
  | fuel + 1, state, s =>
    match scanToken ending.isFinal s with
    | .short => .error (ending.insideToken s.length)
    | .bad r => .error ⟨.invalidToken, r.length⟩
    | .found token rest =>
      if token = .root ∧ (state.expect = .start ∨ state.expect = .misc ∨ state.expect = .afterDoctype)
      then .ok (state.dtd, s)
      else
        match state.next token rest.length with
        | .ok state => readProlog ending fuel state rest
        | .error .unexpected => .error ⟨unexpectedProblem token, s.length⟩
        | .error (.problem p left) => .error ⟨p, left⟩
        | .error (.here p) => .error ⟨p, s.length⟩

/-- Reads what follows the root element: nothing but blanks, comments and instructions. -/
def readEpilog (ending : Ending) : Nat → List Char → Except Error Unit
  | 0, s => .error (ending.insideToken s.length)
  | _ + 1, [] => if ending = .clean then .ok () else .error (ending.insideToken 0)
  | fuel + 1, s =>
    match scanToken ending.isFinal s with
    | .short => .error (ending.insideToken s.length)
    | .bad r => .error ⟨.invalidToken, r.length⟩
    | .found token rest =>
      if token = .space ∨ token = .comment ∨ token = .instruction then readEpilog ending fuel rest
      else .error ⟨.junkAfterRoot, s.length⟩

end PromptMarkup.Xml
