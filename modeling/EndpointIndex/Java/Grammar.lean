import EndpointIndex.Java.Parser
import EndpointIndex.Java.Tree

/-!
# The grammar of Java

Declarations, statements and expressions as parsers over tokens. Every rule that can contain itself
is a `Rule`; the grammar says how to read each, given how to read the rules inside it. `parseRule`
closes this knot: with `n` levels it reads everything nested less than `n` deep, and a text cannot
nest deeper than it is long.
-/

namespace EndpointIndex.Java

open EndpointIndex.Java.Parser

/-- The rules of the grammar that can nest. -/
inductive Rule where
  | expression | ternary | unary
  | variableInitializer
  | block | blockStatement | statement
  | mark | elementValue
  | typeArguments
  | typeDeclaration | classBody | interfaceBody | enumBody | annotationBody
  deriving DecidableEq, Repr

/-- What reading a rule yields. -/
@[reducible] def Rule.Result : Rule → Type
  | .expression | .ternary | .unary | .elementValue => Element
  | .mark => Mark
  | .typeDeclaration => Option Node
  | .classBody | .interfaceBody => List Node
  | _ => Unit

/-- A way to read every rule. -/
abbrev Grammar := (r : Rule) → Parser r.Result

variable (self : Grammar)

/-! ## Names and types -/

def qualifiedName : Parser String := do
  return String.intercalate "." (← separated "." identifier)

/-- Passes over pairs of empty square brackets. -/
def skipDimensions : List Token → List Token
  | a :: b :: r => if a.text == "[" && b.text == "]" then skipDimensions r else a :: b :: r
  | s => s

def dimensions : Parser Unit := modify skipDimensions

def referenceType : Parser Unit := do
  let _ ← separated "." do
    let _ ← identifier
    if ← nextIs "<" then self .typeArguments

def typeName : Parser Unit := do
  if ← nextKind .basicType then let _ ← advance
  else if ← nextKind .identifier then referenceType self
  else mismatch
  dimensions

/-- A type where a basic type must have dimensions. -/
def listedType : Parser Unit := do
  if ← nextKind .basicType then
    let _ ← advance
    acceptAll ["[", "]"]
  else referenceType self
  dimensions

def typeArgument : Parser Unit := do
  if ← tryAccept "?" then
    if ← nextIn ["extends", "super"] then
      let _ ← advance
      listedType self
  else listedType self

def typeArguments : Parser Unit := do
  accept "<"
  let _ ← separated "," (typeArgument self)
  accept ">"

def typeList : Parser Unit := do
  let _ ← separated "," (listedType self)

/-- Type arguments without wildcards. -/
def plainTypeArguments : Parser Unit := do
  accept "<"
  typeList self
  accept ">"

def typeParameter : Parser Unit := do
  let _ ← identifier
  if ← tryAccept "extends" then
    let _ ← separated "&" (referenceType self)

def typeParameters : Parser Unit := do
  accept "<"
  let _ ← separated "," (typeParameter self)
  accept ">"

def optionalTypeParameters : Parser Unit := do
  if ← nextIs "<" then typeParameters self

/-! ## Annotations and modifiers -/

def elementPair : Parser (String × Element) := do
  let key ← identifier
  accept "="
  return (key, ← self .elementValue)

def annotationArguments : Parser Arguments := do
  if ← nextName "=" then return .pairs (← separated "," (elementPair self))
  else return .single (← self .elementValue)

def mark : Parser Mark := do
  accept "@"
  let name ← qualifiedName
  if ← tryAccept "(" then
    let arguments ← if ← nextIs ")" then pure none else some <$> annotationArguments self
    accept ")"
    return ⟨name, arguments⟩
  else return ⟨name, none⟩

def elementItems : Nat → Parser (List Element)
  | 0 => exhausted
  | n + 1 => do
    let value ← self .elementValue
    -- a comma may stand before the closing brace
    if (← nextIs closeBrace) || (← next [",", closeBrace]) then return [value]
    accept ","
    return value :: (← elementItems n)

def elementArray : Parser Element := do
  accept openBrace
  if ← tryAccept closeBrace then return .emptyArray
  let values ← bounded (elementItems self)
  let _ ← tryAccept ","
  accept closeBrace
  return .array values

def elementValue : Parser Element := do
  if startsMark (← get) then
    let _ ← self .mark
    return .other .mark
  else if ← nextIs openBrace then elementArray self
  else self .ternary

def startsModifier (s : List Token) : Bool :=
  kindAt s 0 == some .modifier || startsMark s

/-- Modifiers and annotations in any order; the annotations are kept. -/
def modifierList : Parser (List Mark) := do
  let marks ← untilNext (fun s => !startsModifier s) do
    if ← nextKind .modifier then
      let _ ← advance
      return none
    else some <$> self .mark
  return marks.filterMap id

def startsVariableModifier (s : List Token) : Bool :=
  textAt s 0 == "final" || startsMark s

def variableModifiers : Parser Unit := do
  let _ ← untilNext (fun s => !startsVariableModifier s) do
    if ← tryAccept "final" then return () else
      let _ ← self .mark

/-! ## Variables and parameters -/

def arrayItems : Nat → Parser Unit
  | 0 => exhausted
  | n + 1 => do
    self .variableInitializer
    if !(← nextIs closeBrace) then accept ","
    if ← tryAccept closeBrace then return ()
    arrayItems n

def arrayInitializer : Parser Unit := do
  accept openBrace
  if ← tryAccept "," then accept closeBrace
  else if ← tryAccept closeBrace then return ()
  else bounded (arrayItems self)

def variableInitializer : Parser Unit := do
  if ← nextIs openBrace then arrayInitializer self else
    let _ ← self .expression

def optionalInitializer : Parser Unit := do
  if ← tryAccept "=" then self .variableInitializer

def variableRest : Parser Unit := do
  dimensions
  optionalInitializer self

def variableDeclarator : Parser Unit := do
  let _ ← identifier
  variableRest self

/-- Further declarators, after the first. -/
def moreDeclarators : Parser Unit := do
  if ← tryAccept "," then
    let _ ← separated "," (variableDeclarator self)

def constantRest : Parser Unit := do
  dimensions
  accept "="
  self .variableInitializer

def constantRests : Parser Unit := do
  constantRest self
  if ← tryAccept "," then
    let _ ← separated "," do
      let _ ← identifier
      constantRest self

/-- A parameter; the answer tells whether it takes all further arguments, and so is the last. -/
def parameter : Parser Bool := do
  variableModifiers self
  typeName self
  let variadic ← tryAccept "..."
  let _ ← identifier
  dimensions
  return variadic

def parameterItems : Nat → Parser Unit
  | 0 => exhausted
  | n + 1 => do
    -- after a parameter that takes all further arguments the parenthesis has to close
    if ← parameter self then return ()
    if ← tryAccept "," then parameterItems n

def parameters : Parser Unit := do
  accept "("
  if ← tryAccept ")" then return ()
  bounded (parameterItems self)
  accept ")"

/-! ## Expressions -/

def assignmentOperators : List String :=
  ["=", "+=", "-=", "*=", "/=", "&=", "|=", "^=", "%=", "<<=", ">>=", ">>>="]

def infixOperators : List String :=
  ["||", "&&", "|", "^", "&", "==", "!=", "<", ">", "<=", ">=", "<<", "+", "-", "*", "/", "%"]

def prefixOperators : List String := ["++", "--", "!", "~", "+", "-"]

def postfixOperators : List String := ["++", "--"]

def skipOperators (operators : List String) : Parser Unit :=
  modify fun s => s.dropWhile fun t => operators.contains t.text

def expression : Parser Element := do
  let e ← self .ternary
  if ← nextIn assignmentOperators then
    let _ ← advance
    let _ ← self .expression
    return .other .assignment
  else return e

def arguments : Parser Unit := do
  accept "("
  if ← tryAccept ")" then return ()
  let _ ← separated "," (self .expression)
  accept ")"

def parenthesized : Parser Element := do
  accept "("
  let e ← self .expression
  accept ")"
  return e

def lambdaBody : Parser Unit := do
  accept "->"
  if ← nextIs openBrace then self .block else
    let _ ← self .expression

def methodReference : Parser Unit := do
  if ← nextIs "<" then plainTypeArguments self
  if ← tryAccept "new" then return ()
  let _ ← self .expression

def infixOperator : Parser Unit := do
  let op ← advance
  -- shifts to the right come as single signs
  if op.text == ">" then
    if ← tryAccept ">" then
      let _ ← tryAccept ">"

def startsInfix (s : List Token) : Bool :=
  match s with
  | [] => false
  | t :: _ => infixOperators.contains t.text || t.text == "instanceof"

/-- One operator of a chain with its right operand. -/
def operand : Parser Unit := do
  if ← tryAccept "instanceof" then typeName self
  else
    infixOperator
    let _ ← self .unary

def infixChain : Parser Element := do
  let e ← self .unary
  match ← untilNext (fun s => !startsInfix s) (operand self) with
  | [] => return e
  | _ => return .other .binary

def ternary : Parser Element := do
  let e ← infixChain self
  if ← tryAccept "?" then
    let _ ← self .expression
    accept ":"
    let _ ← self .ternary
    return .other .ternary
  else if ← nextIs "->" then
    lambdaBody self
    return .other .lambda
  else if ← tryAccept "::" then
    methodReference self
    return .other .methodReference
  else return e

/-- Parameter names without types, the commas between them optional. -/
def inferredParameters : Parser Unit := do
  let _ ← enclosed "(" ")" do
    let _ ← identifier
    tryAccept ","

def lambda : Parser Element := do
  let s ← get
  -- names without types are known by the comma after the first of them
  if kindAt s 1 == some .identifier && textAt s 2 == "," then inferredParameters
  else parameters self
  lambdaBody self
  return .other .lambda

def cast : Parser Element := do
  accept "("
  typeName self
  accept ")"
  let _ ← self .unary
  return .other .cast

def superSuffix : Parser Element := do
  if ← tryAccept "." then
    if ← nextIs "<" then plainTypeArguments self
    let _ ← identifier
    if ← nextIs "(" then
      arguments self
      return .other .superMethod
    else return .other .superMember
  else
    arguments self
    return .other .superInvocation

def genericInvocationSuffix : Parser Element := do
  if ← tryAccept "super" then superSuffix self
  else
    let _ ← identifier
    arguments self
    return .other .invocation

def genericInvocation : Parser Element := do
  plainTypeArguments self
  genericInvocationSuffix self

def optionalClassBody : Parser Unit := do
  if ← nextIs openBrace then
    let _ ← self .classBody

def innerCreator : Parser Element := do
  if ← nextIs "<" then plainTypeArguments self
  let _ ← identifier
  if ← nextIs "<" then
    if !(← tryAll ["<", ">"]) then plainTypeArguments self
  arguments self
  optionalClassBody self
  return .other .innerClassCreator

def startsIndex (s : List Token) : Bool := startsWith ["["] s && !startsWith ["[", "]"] s

def arrayCreatorRest : Parser Unit := do
  if ← next ["[", "]"] then
    dimensions
    arrayInitializer self
  else
    let _ ← untilNext (fun s => !startsIndex s) do
      accept "["
      let _ ← self .expression
      accept "]"
    dimensions

def createdName : Parser Unit := do
  let _ ← separated "." do
    let _ ← identifier
    if ← nextIs "<" then
      if !(← tryAll ["<", ">"]) then self .typeArguments

def creator : Parser Element := do
  if ← nextKind .basicType then
    let _ ← advance
    arrayCreatorRest self
    return .other .arrayCreator
  let generic ← nextIs "<"
  if generic then plainTypeArguments self
  createdName self
  if ← nextIs "[" then
    -- type arguments before the name are those of a constructor
    if generic then mismatch
    arrayCreatorRest self
    return .other .arrayCreator
  else
    arguments self
    optionalClassBody self
    return .other .classCreator

/-- The further identifiers of a dotted name. -/
def dottedRun : List Token → List String × List Token
  | dot :: t :: r =>
    if dot.text == "." && t.kind == .identifier then
      let (names, rest) := dottedRun r
      (t.text :: names, rest)
    else ([], dot :: t :: r)
  | s => ([], s)

/-- What follows a dotted name. -/
def nameSuffix (qualifier : List String) (member : String) : Parser Element := do
  if ← tryAll ["[", "]"] then
    dimensions
    acceptAll [".", "class"]
    return .other .classReference
  else if ← nextIs "(" then
    arguments self
    return .other .invocation
  else if ← tryAll [".", "class"] then return .other .classReference
  else if ← tryAll [".", "this"] then return .other .this
  else if ← next [".", "<"] then
    let _ ← advance
    genericInvocation self
  else if ← tryAll [".", "new"] then innerCreator self
  else if ← next [".", "super", "("] then
    acceptAll [".", "super"]
    arguments self
    return .other .superInvocation
  else return .name qualifier member

def primary : Parser Element := do
  if ← nextKind .literal then return .literal (← acceptKind .literal)
  else if ← nextIs "(" then parenthesized self
  else if ← tryAccept "this" then
    if ← nextIs "(" then
      arguments self
      return .other .thisInvocation
    else return .other .this
  else if ← next ["super", "::"] then
    let _ ← advance
    return .other .superMember
  else if ← tryAccept "super" then superSuffix self
  else if ← tryAccept "new" then creator self
  else if ← nextIs "<" then
    plainTypeArguments self
    if ← tryAccept "this" then
      arguments self
      return .other .thisInvocation
    else genericInvocationSuffix self
  else if ← nextKind .identifier then
    let first ← identifier
    let (more, rest) := dottedRun (← get)
    set rest
    nameSuffix self (first :: more).dropLast (more.getLastD first)
  else if ← nextKind .basicType then
    let _ ← advance
    dimensions
    acceptAll [".", "class"]
    return .other .classReference
  else if ← tryAccept "void" then
    acceptAll [".", "class"]
    return .other .voidClassReference
  else mismatch

def selector : Parser Unit := do
  if ← tryAccept "[" then
    let _ ← self .expression
    accept "]"
  else
    accept "."
    if ← nextKind .identifier then
      let _ ← advance
      if ← nextIs "(" then arguments self
    else if ← next ["super", "::"] then let _ ← advance
    else if ← nextIs "<" then let _ ← genericInvocation self
    else if ← tryAccept "this" then return ()
    else if ← tryAccept "super" then let _ ← superSuffix self
    else if ← tryAccept "new" then let _ ← innerCreator self
    else mismatch

def selectors : Nat → Parser Unit
  | 0 => exhausted
  | n + 1 => do
    match ← get with
    | [] => exhausted
    | t :: _ =>
      if t.text == "[" || t.text == "." then
        selector self
        selectors n

/-- A primary expression with selectors and postfix operators, none of which change its shape. -/
def selection : Parser Element := do
  let e ← primary self
  bounded (selectors self)
  skipOperators postfixOperators
  return e

def unary : Parser Element := do
  skipOperators prefixOperators
  if ← nextIs "(" then orElse (lambda self) (orElse (cast self) (selection self))
  else selection self

/-! ## Statements -/

def condition : Parser Unit := do
  let _ ← parenthesized self

def localVariables : Parser Unit := do
  variableModifiers self
  typeName self
  let _ ← separated "," (variableDeclarator self)
  accept ";"

def skipDots : List Token → List Token
  | dot :: t :: r => if dot.text == "." then skipDots r else dot :: t :: r
  | [dot] => if dot.text == "." then [] else [dot]
  | [] => []

/-- What follows the parenthesis that closes the `depth` open ones. -/
def afterParens? : Nat → List Token → Option (List Token)
  | 0, s => some s
  | _ + 1, [] => none
  | depth + 1, t :: r =>
    if t.text == "(" then afterParens? (depth + 2) r
    else if t.text == ")" then afterParens? depth r
    else afterParens? (depth + 1) r

/-- What a look past the modifiers of a statement finds. -/
inductive Ahead where
  /-- A modifier that only types have. -/
  | typeModifier
  /-- A token that is no modifier, and whether annotations stand before it. -/
  | found (annotated : Bool) (s : List Token)
  /-- The tokens end inside an annotation. -/
  | cutOff

/-- Looks past modifiers and annotations. After an annotation without arguments one more token is
passed over. -/
def lookAhead (annotated : Bool) : Nat → List Token → Ahead
  | 0, _ => .cutOff
  | _ + 1, [] => .found annotated []
  | n + 1, t :: r =>
    if t.kind == .modifier then
      if t.text == "final" then lookAhead annotated n r else .typeModifier
    else if startsMark (t :: r) then
      match skipDots (r.drop 1) with
      | [] => lookAhead true n []
      | p :: r' =>
        if p.text == "(" then
          match afterParens? 1 r' with
          | some rest => lookAhead true n rest
          | none => .cutOff
        else lookAhead true n r'
    else .found annotated (t :: r)

def blockStatement : Parser Unit := do
  let s ← get
  if (← nextName ":") || (← nextIs "synchronized") then self .statement
  else
    match lookAhead false (s.length + 1) s with
    | .typeModifier => let _ ← self .typeDeclaration
    | .cutOff => exhausted
    | .found annotated ahead =>
      if ["class", "enum", "interface", "@"].contains (textAt ahead 0) then
        let _ ← self .typeDeclaration
      else if annotated || kindAt ahead 0 == some .basicType then localVariables self
      else if kindAt ahead 0 == some .identifier then
        -- whether a name starts a type or an expression shows only further on
        orElse (localVariables self) (self .statement)
      else self .statement

def block : Parser Unit := do
  let _ ← enclosed openBrace closeBrace (self .blockStatement)

def catchClause : Parser Unit := do
  acceptAll ["catch", "("]
  variableModifiers self
  let _ ← separated "|" qualifiedName
  let _ ← identifier
  accept ")"
  self .block

/-- Catch clauses and a finally block; the answer tells whether there is one of them. -/
def handlers : Parser Bool := do
  let clauses ← untilNext (fun s => textAt s 0 != "catch") (catchClause self)
  if ← tryAccept "finally" then
    self .block
    return true
  else return !clauses.isEmpty

def resource : Parser Unit := do
  variableModifiers self
  referenceType self
  dimensions
  let _ ← identifier
  dimensions
  accept "="
  let _ ← self .expression

def resourceItems : Nat → Parser Unit
  | 0 => exhausted
  | n + 1 => do
    resource self
    if !(← nextIs ")") then accept ";"
    if ← tryAccept ")" then return ()
    resourceItems n

def tryStatement : Parser Unit := do
  if ← nextIs openBrace then
    self .block
    -- a block without resources needs a handler
    if !(← handlers self) then mismatch
  else
    accept "("
    bounded (resourceItems self)
    self .block
    let _ ← handlers self

def isLabel (s : List Token) : Bool := textAt s 0 == "case" || textAt s 0 == "default"

def switchLabels : Nat → Parser Unit
  | 0 => exhausted
  | n + 1 => do
    let t ← advance
    if t.text == "case" then
      if ← nextName ":" then let _ ← identifier
      else let _ ← self .expression
    accept ":"
    if isLabel (← get) then switchLabels n

def switchGroup : Parser Unit := do
  bounded (switchLabels self)
  let _ ← untilNext (fun s => isLabel s || textAt s 0 == closeBrace) (self .blockStatement)

def expressions : Parser Unit := do
  let _ ← separated "," (self .expression)

/-- The condition and the update of a loop, after its first part. -/
def forRest : Parser Unit := do
  accept ";"
  if !(← nextIs ";") then let _ ← self .expression
  accept ";"
  if !(← nextIs ")") then expressions self

def forVariable : Parser Unit := do
  variableModifiers self
  typeName self
  let _ ← identifier
  dimensions
  if ← tryAccept ":" then let _ ← self .expression
  else
    if !(← nextIs ";") then
      optionalInitializer self
      moreDeclarators self
    forRest self

def forExpressions : Parser Unit := do
  if !(← nextIs ";") then expressions self
  forRest self

def forControl : Parser Unit := orElse (forVariable self) (forExpressions self)

def optionalLabel : Parser Unit := do
  if ← nextKind .identifier then let _ ← identifier
  accept ";"

def statement : Parser Unit := do
  if ← nextIs openBrace then self .block
  else if ← tryAccept ";" then return ()
  else if ← nextName ":" then
    let _ ← identifier
    accept ":"
    self .statement
  else if ← tryAccept "if" then
    condition self
    self .statement
    if ← tryAccept "else" then self .statement
  else if ← tryAccept "assert" then
    let _ ← self .expression
    if ← tryAccept ":" then let _ ← self .expression
    accept ";"
  else if ← tryAccept "switch" then
    condition self
    accept openBrace
    let _ ← untilNext (fun s => !isLabel s) (switchGroup self)
    accept closeBrace
  else if ← tryAccept "while" then
    condition self
    self .statement
  else if ← tryAccept "do" then
    self .statement
    accept "while"
    condition self
    accept ";"
  else if ← tryAccept "for" then
    accept "("
    forControl self
    accept ")"
    self .statement
  else if ← tryAccept "break" then optionalLabel
  else if ← tryAccept "continue" then optionalLabel
  else if ← tryAccept "return" then
    if !(← nextIs ";") then let _ ← self .expression
    accept ";"
  else if ← tryAccept "throw" then
    let _ ← self .expression
    accept ";"
  else if ← tryAccept "synchronized" then
    condition self
    self .block
  else if ← tryAccept "try" then tryStatement self
  else
    let _ ← self .expression
    accept ";"

/-! ## Declarations -/

def optionalThrows : Parser Unit := do
  if ← tryAccept "throws" then
    let _ ← separated "," qualifiedName

def bodyOrSemicolon : Parser Unit := do
  if ← nextIs openBrace then self .block else accept ";"

/-- The parameters, exceptions and body of a method. Dimensions may follow the parameters of a
method that returns a value. -/
def methodRest (returnsValue : Bool) : Parser Unit := do
  parameters self
  if returnsValue then dimensions
  optionalThrows
  bodyOrSemicolon self

def constructorRest : Parser Unit := do
  let _ ← identifier
  parameters self
  optionalThrows
  self .block

def classDeclaration (line : Nat) (marks : List Mark) : Parser (Option Node) := do
  accept "class"
  let name ← identifier
  optionalTypeParameters self
  if ← tryAccept "extends" then typeName self
  if ← tryAccept "implements" then typeList self
  return some (.type .classType name line marks (← self .classBody))

def interfaceDeclaration (line : Nat) (marks : List Mark) : Parser (Option Node) := do
  accept "interface"
  let name ← identifier
  optionalTypeParameters self
  if ← tryAccept "extends" then typeList self
  return some (.type .interfaceType name line marks (← self .interfaceBody))

def enumDeclaration : Parser (Option Node) := do
  accept "enum"
  let _ ← identifier
  if ← tryAccept "implements" then typeList self
  self .enumBody
  return none

def annotationTypeDeclaration : Parser (Option Node) := do
  acceptAll ["@", "interface"]
  let _ ← identifier
  self .annotationBody
  return none

/-- Whether a type is declared here, its modifiers already read. -/
def startsType (s : List Token) : Bool :=
  ["class", "enum", "interface"].contains (textAt s 0) || startsMarkType s

/-- A type after its modifiers. Enumerations and annotation types are read and not kept. -/
def typeAfterModifiers (marks : List Mark) : Parser (Option Node) := do
  let line ← nextLine
  if ← nextIs "class" then classDeclaration self line marks
  else if ← nextIs "enum" then enumDeclaration self
  else if ← nextIs "interface" then interfaceDeclaration self line marks
  else if startsMarkType (← get) then annotationTypeDeclaration self
  else mismatch

def typeDeclaration : Parser (Option Node) := do
  typeAfterModifiers self (← modifierList self)

def fieldRest : Parser Unit := do
  variableRest self
  moreDeclarators self
  accept ";"

def member : Parser (Option Node) := do
  let marks ← modifierList self
  let line ← nextLine
  if ← tryAccept "void" then
    let name ← identifier
    methodRest self false
    return some (.method name line marks)
  else if ← nextIs "<" then
    typeParameters self
    if ← nextName "(" then
      constructorRest self
      return none
    else if ← tryAccept "void" then
      let name ← identifier
      methodRest self false
      return some (.method name line marks)
    else
      typeName self
      let name ← identifier
      methodRest self true
      return some (.method name line marks)
  else if startsType (← get) then typeAfterModifiers self marks
  -- a name without a type before it is that of a constructor
  else if ← nextName "(" then
    constructorRest self
    return none
  else
    typeName self
    let name ← identifier
    if ← nextIs "(" then
      methodRest self true
      return some (.method name line marks)
    else
      fieldRest self
      return none

def classItem : Parser (Option Node) := do
  if ← tryAccept ";" then return none
  else if ← next ["static", openBrace] then
    accept "static"
    self .block
    return none
  else if ← nextIs openBrace then
    self .block
    return none
  else member self

def classBody : Parser (List Node) := do
  return (← enclosed openBrace closeBrace (classItem self)).filterMap id

def interfaceMember : Parser (Option Node) := do
  let marks ← modifierList self
  let line ← nextLine
  if startsType (← get) then typeAfterModifiers self marks
  else if ← nextIs "<" then
    typeParameters self
    if !(← tryAccept "void") then typeName self
    let name ← identifier
    methodRest self true
    return some (.method name line marks)
  else if ← tryAccept "void" then
    let name ← identifier
    methodRest self false
    return some (.method name line marks)
  else
    typeName self
    let name ← identifier
    if ← nextIs "(" then
      methodRest self true
      return some (.method name line marks)
    else
      constantRests self
      accept ";"
      return none

def interfaceItem : Parser (Option Node) := do
  if ← tryAccept ";" then return none else interfaceMember self

def interfaceBody : Parser (List Node) := do
  return (← enclosed openBrace closeBrace (interfaceItem self)).filterMap id

def enumConstant : Parser Unit := do
  let _ ← untilNext (fun s => kindAt s 0 != some .atSign) (self .mark)
  let _ ← identifier
  if ← nextIs "(" then arguments self
  optionalClassBody self

def enumConstants : Nat → Parser Unit
  | 0 => exhausted
  | n + 1 => do
    if (← nextIs ";") || (← nextIs closeBrace) then return ()
    enumConstant self
    if ← tryAccept "," then enumConstants n

def enumBody : Parser Unit := do
  accept openBrace
  -- a comma alone stands for no constants
  if !(← tryAccept ",") then bounded (enumConstants self)
  if ← tryAccept ";" then
    let _ ← untilNext (startsWithText closeBrace) (classItem self)
  accept closeBrace

def annotationElement : Parser Unit := do
  let marks ← modifierList self
  if startsType (← get) then
    let _ ← typeAfterModifiers self marks
  else
    typeName self
    let _ ← identifier
    if ← tryAccept "(" then
      accept ")"
      dimensions
      if ← tryAccept "default" then let _ ← self .elementValue
    else constantRests self
    accept ";"

def annotationBody : Parser Unit := do
  let _ ← enclosed openBrace closeBrace (annotationElement self)

/-! ## The whole grammar -/

/-- How to read every rule, given how to read the rules inside it. -/
def grammar : Grammar
  | .expression => expression self
  | .ternary => ternary self
  | .unary => unary self
  | .variableInitializer => variableInitializer self
  | .block => block self
  | .blockStatement => blockStatement self
  | .statement => statement self
  | .mark => mark self
  | .elementValue => elementValue self
  | .typeArguments => typeArguments self
  | .typeDeclaration => typeDeclaration self
  | .classBody => classBody self
  | .interfaceBody => interfaceBody self
  | .enumBody => enumBody self
  | .annotationBody => annotationBody self

/-- Reads rules that nest less than `n` deep. -/
def parseRule : Nat → Grammar
  | 0, _ => exhausted
  | n + 1, r => grammar (parseRule n) r

def importDeclaration : Parser Unit := do
  accept "import"
  let _ ← tryAccept "static"
  let _ ← identifier
  bounded importRest
where
  importRest : Nat → Parser Unit
    | 0 => exhausted
    | n + 1 => do
      if ← tryAccept "." then
        if ← tryAccept "*" then accept ";"
        else
          let _ ← identifier
          importRest n
      else accept ";"

/-- The package declaration, if there is one. Annotations that no `package` follows belong to the
first type. -/
def packageDeclaration : Parser Unit := do
  let s ← get
  let _ ← untilNext (fun s => !startsMark s) (self .mark)
  if ← tryAccept "package" then
    let _ ← qualifiedName
    accept ";"
  else set s

def topLevelItem : Parser (Option Node) := do
  if ← tryAccept ";" then return none else self .typeDeclaration

def compilationUnit : Parser (List Node) := do
  packageDeclaration self
  let _ ← untilNext (fun s => textAt s 0 != "import") importDeclaration
  return (← untilNext List.isEmpty (topLevelItem self)).filterMap id

/-- More rules than a token can start without reading it. -/
def rulesPerToken : Nat := 16

/-- The types of a source text; none if it is no Java. -/
def parse? (text : List Char) : Option (List Node) :=
  match tokens? text with
  | none => none
  | some ts =>
    match compilationUnit (parseRule (rulesPerToken * (ts.length + 1))) ts with
    | .ok (nodes, _) => some nodes
    | .error _ => none

end EndpointIndex.Java
