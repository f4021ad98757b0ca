import EndpointIndex.Java.Grammar
import EndpointIndex.Proofs.Java.Parser
import Mathlib.Data.List.Infix

/-!
# The grammar moves on

Whatever a rule of the grammar reads, it reads off the head of the tokens: what is left is an end of what
was there. `Stays` says so of a parser, for the ends of a given list, and is inferred for each function of
the grammar from those that it calls. So it holds of every rule to any depth (`stays_parseRule`).
-/

namespace EndpointIndex.Java

open EndpointIndex.Java.Parser

-- the answers for long functions are large terms
set_option synthInstance.maxSize 1000000

variable {α β : Type} {all : List Token}

/-- A parser that leaves an end of a list of tokens when it begins at one. -/
class Stays (all : List Token) (p : Parser α) : Prop where
  suffix : ∀ s a s', s <:+ all → p s = .ok (a, s') → s' <:+ all

/-! ## Steps -/

theorem Parser.bind_eq_ok {p : Parser α} {f : α → Parser β} {s s' : List Token} {b : β}
    (h : (p >>= f) s = .ok (b, s')) : ∃ a u, p s = .ok (a, u) ∧ f a u = .ok (b, s') := by
  rw [bind_run] at h
  cases hp : p s with
  | error e =>
    rw [hp] at h
    cases h
  | ok r =>
    rw [hp] at h
    exact ⟨r.1, r.2, rfl, h⟩

instance (a : α) : Stays all (pure a : Parser α) where
  suffix s b s' hs h := by
    cases h
    exact hs

instance {p : Parser α} {f : α → Parser β} [hp : Stays all p] [hf : ∀ a, Stays all (f a)] :
    Stays all (p >>= f) where
  suffix s b s' hs h := by
    obtain ⟨a, u, hu, hb⟩ := bind_eq_ok h
    exact (hf a).suffix u b s' (hp.suffix s a u hs hu) hb

instance {p : Parser α} (f : α → β) [Stays all p] : Stays all (f <$> p) := by
  rw [← bind_pure_comp]
  infer_instance

instance {c : Prop} [Decidable c] {p q : Parser α} [Stays all p] [Stays all q] :
    Stays all (if c then p else q) := by
  split <;> infer_instance

instance (e : Failure) : Stays all (throw e : Parser α) where
  suffix _ _ _ _ h := by cases h

instance : Stays all (get : Parser (List Token)) where
  suffix s b s' hs h := by
    cases h
    exact hs

theorem Stays.get_bind {f : List Token → Parser α} (h : ∀ s, s <:+ all → Stays all (f s)) :
    Stays all (get >>= f) where
  suffix s a s' hs hrun := (h s hs).suffix s a s' hs hrun

theorem Stays.set {r : List Token} (hr : r <:+ all) : Stays all (set r : Parser PUnit) where
  suffix s a s' hs h := by
    cases h
    exact hr

theorem Stays.modify {f : List Token → List Token} (h : ∀ s, f s <:+ s) :
    Stays all (modify f : Parser PUnit) where
  suffix s a s' hs hrun := by
    cases hrun
    exact (h s).trans hs

instance {p q : Parser α} [hp : Stays all p] [hq : Stays all q] : Stays all (orElse p q) where
  suffix s a s' hs h := by
    unfold orElse at h
    split at h
    · exact hq.suffix s a s' hs h
    · exact hp.suffix s a s' hs h

instance {loop : Nat → Parser α} [h : ∀ n, Stays all (loop n)] : Stays all (bounded loop) where
  suffix s := (h (s.length + 1)).suffix s

instance : Stays all (mismatch : Parser α) := inferInstanceAs (Stays all (throw _))

instance : Stays all (exhausted : Parser α) := inferInstanceAs (Stays all (throw _))

instance : Stays all advance where
  suffix s a s' hs h := by
    cases s with
    | nil => cases h
    | cons t r =>
      cases h
      exact (List.suffix_cons _ _).trans hs

instance (texts : List String) : Stays all (nextIn texts) := by
  unfold nextIn
  refine .get_bind fun s _ => ?_
  cases s <;> infer_instance

instance (texts : List String) : Stays all (tryAll texts) where
  suffix s a s' hs h := by
    rw [tryAll_run] at h
    cases h
    split
    · exact (List.drop_suffix _ _).trans hs
    · exact hs

instance (text : String) : Stays all (nextIs text) := by
  unfold nextIs
  infer_instance

instance (texts : List String) : Stays all (next texts) := by
  unfold next
  infer_instance

instance (kind : TokenKind) : Stays all (nextKind kind) := by
  unfold nextKind
  infer_instance

instance (after : String) : Stays all (nextName after) := by
  unfold nextName
  infer_instance

instance : Stays all nextLine := by
  unfold nextLine
  infer_instance

instance (text : String) : Stays all (accept text) := by
  unfold accept
  infer_instance

instance (kind : TokenKind) : Stays all (acceptKind kind) := by
  unfold acceptKind
  infer_instance

instance : Stays all identifier := by
  unfold identifier
  infer_instance

instance (text : String) : Stays all (tryAccept text) := by
  unfold tryAccept
  infer_instance

instance (texts : List String) : Stays all (acceptAll texts) := by
  induction texts with
  | nil => exact inferInstanceAs (Stays all (pure ()))
  | cons text texts ih =>
    exact inferInstanceAs (Stays all (accept text >>= fun _ => acceptAll texts))

instance (stop : List Token → Bool) {item : Parser α} [Stays all item] :
    Stays all (untilNext stop item) := by
  have hloop : ∀ n, Stays all (untilNext.loop stop item n) := by
    intro n
    induction n with
    | zero =>
      unfold untilNext.loop
      infer_instance
    | succ n ih =>
      unfold untilNext.loop
      infer_instance
  unfold untilNext
  infer_instance

instance (separator : String) {item : Parser α} [Stays all item] : Stays all (separated separator item) := by
  have hloop : ∀ n, Stays all (separated.loop separator item n) := by
    intro n
    induction n with
    | zero =>
      unfold separated.loop
      infer_instance
    | succ n ih =>
      unfold separated.loop
      infer_instance
  unfold separated
  infer_instance

instance (opening closing : String) {item : Parser α} [Stays all item] :
    Stays all (enclosed opening closing item) := by
  unfold enclosed
  infer_instance

/-! ## Names and types -/

theorem skipDimensions_suffix (s : List Token) : skipDimensions s <:+ s := by
  fun_induction skipDimensions s with
  | case1 a b r h ih => exact ih.trans ((List.suffix_cons b r).trans (List.suffix_cons a _))
  | case2 => exact List.suffix_rfl
  | case3 => exact List.suffix_rfl

theorem dottedRun_suffix (s : List Token) : (dottedRun s).2 <:+ s := by
  fun_induction dottedRun s with
  | case1 dot t r h names rest hrun ih =>
    rw [hrun] at ih
    exact ih.trans ((List.suffix_cons t r).trans (List.suffix_cons dot _))
  | case2 => exact List.suffix_rfl
  | case3 => exact List.suffix_rfl

instance : Stays all qualifiedName := by
  unfold qualifiedName
  infer_instance

instance : Stays all dimensions := .modify skipDimensions_suffix

instance (operators : List String) : Stays all (skipOperators operators) :=
  .modify fun _ => List.dropWhile_suffix _

section

variable {self : Grammar} [∀ r, Stays all (self r)]

instance : Stays all (referenceType self) := by
  dsimp only [referenceType]
  infer_instance

instance : Stays all (typeName self) := by
  dsimp only [typeName]
  infer_instance

instance : Stays all (listedType self) := by
  dsimp only [listedType]
  infer_instance

instance : Stays all (typeArgument self) := by
  dsimp only [typeArgument]
  infer_instance

instance : Stays all (typeArguments self) := by
  dsimp only [typeArguments]
  infer_instance

instance : Stays all (typeList self) := by
  dsimp only [typeList]
  infer_instance

instance : Stays all (plainTypeArguments self) := by
  dsimp only [plainTypeArguments]
  infer_instance

instance : Stays all (typeParameter self) := by
  dsimp only [typeParameter]
  infer_instance

instance : Stays all (typeParameters self) := by
  dsimp only [typeParameters]
  infer_instance

instance : Stays all (optionalTypeParameters self) := by
  dsimp only [optionalTypeParameters]
  infer_instance

/-! ## Annotations and modifiers -/

instance : Stays all (elementPair self) := by
  dsimp only [elementPair]
  infer_instance

instance : Stays all (annotationArguments self) := by
  dsimp only [annotationArguments]
  infer_instance

instance : Stays all (mark self) := by
  dsimp only [mark]
  infer_instance

instance (n : Nat) : Stays all (elementItems self n) := by
  induction n with
  | zero =>
    unfold elementItems
    infer_instance
  | succ n ih =>
    dsimp only [elementItems]
    infer_instance

instance : Stays all (elementArray self) := by
  dsimp only [elementArray]
  infer_instance

instance : Stays all (elementValue self) := by
  dsimp only [elementValue]
  infer_instance

instance : Stays all (modifierList self) := by
  dsimp only [modifierList]
  infer_instance

instance : Stays all (variableModifiers self) := by
  dsimp only [variableModifiers]
  infer_instance

/-! ## Variables and parameters -/

instance (n : Nat) : Stays all (arrayItems self n) := by
  induction n with
  | zero =>
    unfold arrayItems
    infer_instance
  | succ n ih =>
    dsimp only [arrayItems]
    infer_instance

instance : Stays all (arrayInitializer self) := by
  dsimp only [arrayInitializer]
  infer_instance

instance : Stays all (variableInitializer self) := by
  dsimp only [variableInitializer]
  infer_instance

instance : Stays all (optionalInitializer self) := by
  dsimp only [optionalInitializer]
  infer_instance

instance : Stays all (variableRest self) := by
  dsimp only [variableRest]
  infer_instance

instance : Stays all (variableDeclarator self) := by
  dsimp only [variableDeclarator]
  infer_instance

instance : Stays all (moreDeclarators self) := by
  dsimp only [moreDeclarators]
  infer_instance

instance : Stays all (constantRest self) := by
  dsimp only [constantRest]
  infer_instance

instance : Stays all (constantRests self) := by
  dsimp only [constantRests]
  infer_instance

instance : Stays all (parameter self) := by
  dsimp only [parameter]
  infer_instance

instance (n : Nat) : Stays all (parameterItems self n) := by
  induction n with
  | zero =>
    unfold parameterItems
    infer_instance
  | succ n ih =>
    dsimp only [parameterItems]
    infer_instance

instance : Stays all (parameters self) := by
  dsimp only [parameters]
  infer_instance

/-! ## Expressions -/

instance : Stays all (expression self) := by
  dsimp only [expression]
  infer_instance

instance : Stays all (arguments self) := by
  dsimp only [arguments]
  infer_instance

instance : Stays all (parenthesized self) := by
  dsimp only [parenthesized]
  infer_instance

instance : Stays all (lambdaBody self) := by
  dsimp only [lambdaBody]
  infer_instance

instance : Stays all (methodReference self) := by
  dsimp only [methodReference]
  infer_instance

instance : Stays all infixOperator := by
  dsimp only [infixOperator]
  infer_instance

instance : Stays all (operand self) := by
  dsimp only [operand]
  infer_instance

instance : Stays all (infixChain self) := by
  unfold infixChain
  have hend : ∀ (e : Element) (turns : List Unit),
      Stays all (match turns with | [] => pure e | _ => pure (.other .binary) : Parser Element) := by
    intro e turns
    cases turns <;> infer_instance
  infer_instance

instance : Stays all (ternary self) := by
  dsimp only [ternary]
  infer_instance

instance : Stays all inferredParameters := by
  dsimp only [inferredParameters]
  infer_instance

instance : Stays all (lambda self) := by
  dsimp only [lambda]
  infer_instance

instance : Stays all (cast self) := by
  dsimp only [cast]
  infer_instance

instance : Stays all (superSuffix self) := by
  dsimp only [superSuffix]
  infer_instance

instance : Stays all (genericInvocationSuffix self) := by
  dsimp only [genericInvocationSuffix]
  infer_instance

instance : Stays all (genericInvocation self) := by
  dsimp only [genericInvocation]
  infer_instance

instance : Stays all (optionalClassBody self) := by
  dsimp only [optionalClassBody]
  infer_instance

instance : Stays all (innerCreator self) := by
  dsimp only [innerCreator]
  infer_instance

instance : Stays all (arrayCreatorRest self) := by
  dsimp only [arrayCreatorRest]
  infer_instance

instance : Stays all (createdName self) := by
  dsimp only [createdName]
  infer_instance

instance : Stays all (creator self) := by
  dsimp only [creator]
  infer_instance

instance (qualifier : List String) (member : String) : Stays all (nameSuffix self qualifier member) := by
  dsimp only [nameSuffix]
  infer_instance

/-- The tokens after a dotted name are an end of those before it. -/
instance {f : List Token → PUnit → Parser β} [∀ s u, Stays all (f s u)] :
    Stays all (get >>= fun s => set (dottedRun s).2 >>= f s) :=
  .get_bind fun s hs =>
    have := Stays.set ((dottedRun_suffix s).trans hs)
    inferInstance

instance : Stays all (primary self) := by
  dsimp only [primary]
  infer_instance

instance : Stays all (selector self) := by
  dsimp only [selector]
  infer_instance

instance (n : Nat) : Stays all (selectors self n) := by
  induction n with
  | zero =>
    unfold selectors
    infer_instance
  | succ n ih =>
    unfold selectors
    refine .get_bind fun s _ => ?_
    cases s <;> dsimp only <;> infer_instance

instance : Stays all (selection self) := by
  dsimp only [selection]
  infer_instance

instance : Stays all (unary self) := by
  dsimp only [unary]
  infer_instance

/-! ## Statements -/

instance : Stays all (condition self) := by
  dsimp only [condition]
  infer_instance

instance : Stays all (localVariables self) := by
  dsimp only [localVariables]
  infer_instance

instance : Stays all (blockStatement self) := by
  dsimp only [blockStatement]
  have hahead : ∀ ahead : Ahead, Stays all (match ahead with
      | .typeModifier => do let _ ← self .typeDeclaration
      | .cutOff => exhausted
      | .found annotated ahead =>
        if ["class", "enum", "interface", "@"].contains (textAt ahead 0) then do
          let _ ← self .typeDeclaration
        else if annotated || kindAt ahead 0 == some .basicType then localVariables self
        else if kindAt ahead 0 == some .identifier then
          orElse (localVariables self) (self .statement)
        else self .statement : Parser Unit) := by
    intro ahead
    cases ahead <;> infer_instance
  infer_instance

instance : Stays all (block self) := by
  dsimp only [block]
  infer_instance

instance : Stays all (catchClause self) := by
  dsimp only [catchClause]
  infer_instance

instance : Stays all (handlers self) := by
  dsimp only [handlers]
  infer_instance

instance : Stays all (resource self) := by
  dsimp only [resource]
  infer_instance

instance (n : Nat) : Stays all (resourceItems self n) := by
  induction n with
  | zero =>
    unfold resourceItems
    infer_instance
  | succ n ih =>
    dsimp only [resourceItems]
    infer_instance

instance : Stays all (tryStatement self) := by
  dsimp only [tryStatement]
  infer_instance

instance (n : Nat) : Stays all (switchLabels self n) := by
  induction n with
  | zero =>
    unfold switchLabels
    infer_instance
  | succ n ih =>
    dsimp only [switchLabels]
    infer_instance

instance : Stays all (switchGroup self) := by
  dsimp only [switchGroup]
  infer_instance

instance : Stays all (expressions self) := by
  dsimp only [expressions]
  infer_instance

instance : Stays all (forRest self) := by
  dsimp only [forRest]
  infer_instance

instance : Stays all (forVariable self) := by
  dsimp only [forVariable]
  infer_instance

instance : Stays all (forExpressions self) := by
  dsimp only [forExpressions]
  infer_instance

instance : Stays all (forControl self) := by
  dsimp only [forControl]
  infer_instance

instance : Stays all optionalLabel := by
  dsimp only [optionalLabel]
  infer_instance

instance : Stays all (statement self) := by
  dsimp only [statement]
  infer_instance

/-! ## Declarations -/

instance : Stays all optionalThrows := by
  dsimp only [optionalThrows]
  infer_instance

instance : Stays all (bodyOrSemicolon self) := by
  dsimp only [bodyOrSemicolon]
  infer_instance

instance (returnsValue : Bool) : Stays all (methodRest self returnsValue) := by
  dsimp only [methodRest]
  infer_instance

instance : Stays all (constructorRest self) := by
  dsimp only [constructorRest]
  infer_instance

instance (line : Nat) (marks : List Mark) : Stays all (classDeclaration self line marks) := by
  dsimp only [classDeclaration]
  infer_instance

instance (line : Nat) (marks : List Mark) : Stays all (interfaceDeclaration self line marks) := by
  dsimp only [interfaceDeclaration]
  infer_instance

instance : Stays all (enumDeclaration self) := by
  dsimp only [enumDeclaration]
  infer_instance

instance : Stays all (annotationTypeDeclaration self) := by
  dsimp only [annotationTypeDeclaration]
  infer_instance

instance (marks : List Mark) : Stays all (typeAfterModifiers self marks) := by
  dsimp only [typeAfterModifiers]
  infer_instance

instance : Stays all (typeDeclaration self) := by
  dsimp only [typeDeclaration]
  infer_instance

instance : Stays all (fieldRest self) := by
  dsimp only [fieldRest]
  infer_instance

instance : Stays all (member self) := by
  dsimp only [member]
  infer_instance

instance : Stays all (classItem self) := by
  dsimp only [classItem]
  infer_instance

instance : Stays all (classBody self) := by
  dsimp only [classBody]
  infer_instance

instance : Stays all (interfaceMember self) := by
  dsimp only [interfaceMember]
  infer_instance

instance : Stays all (interfaceItem self) := by
  dsimp only [interfaceItem]
  infer_instance

instance : Stays all (interfaceBody self) := by
  dsimp only [interfaceBody]
  infer_instance

instance : Stays all (enumConstant self) := by
  dsimp only [enumConstant]
  infer_instance

instance (n : Nat) : Stays all (enumConstants self n) := by
  induction n with
  | zero =>
    unfold enumConstants
    infer_instance
  | succ n ih =>
    dsimp only [enumConstants]
    infer_instance

instance : Stays all (enumBody self) := by
  dsimp only [enumBody]
  infer_instance

instance : Stays all (annotationElement self) := by
  dsimp only [annotationElement]
  infer_instance

instance : Stays all (annotationBody self) := by
  dsimp only [annotationBody]
  infer_instance

/-! ## The whole grammar -/

instance (r : Rule) : Stays all (grammar self r) := by
  cases r <;> dsimp only [grammar] <;> infer_instance

instance (n : Nat) : Stays all (importDeclaration.importRest n) := by
  induction n with
  | zero =>
    unfold importDeclaration.importRest
    infer_instance
  | succ n ih =>
    unfold importDeclaration.importRest
    infer_instance

instance : Stays all importDeclaration := by
  unfold importDeclaration
  infer_instance

instance : Stays all (packageDeclaration self) := by
  unfold packageDeclaration
  refine .get_bind fun s hs => ?_
  have := Stays.set hs
  infer_instance

instance : Stays all (topLevelItem self) := by
  dsimp only [topLevelItem]
  infer_instance

end

/-- Every rule moves on, to whatever depth it is read. -/
instance stays_parseRule (n : Nat) (r : Rule) : Stays all (parseRule n r) := by
  induction n generalizing r with
  | zero => exact inferInstanceAs (Stays all exhausted)
  | succ n ih => exact inferInstanceAs (Stays all (grammar (parseRule n) r))

end EndpointIndex.Java
