/-!
# The vocabulary of source files

The tokens that a source file is made of, the categories of phrases that its grammar names, and
the roles that phrases play in larger ones.
-/

namespace GoAddress.Grammar

/-- A kind of token. -/
inductive Token where
  | comment | packageWord | identifier | importWord | dot | rawString | blankWord | leftParen
  | lineBreak | rightParen | semicolon | nul | constWord | assign | varWord | funcWord
  | leftBracket | comma | rightBracket | ellipsis | typeWord | star | structWord | tilde
  | leftBrace | rightBrace | interfaceWord | mapWord | chanWord | arrow | define | increment
  | decrement | starAssign | slashAssign | percentAssign | leftShiftAssign | rightShiftAssign
  | ampAssign | ampCaretAssign | plusAssign | minusAssign | barAssign | caretAssign | colon
  | fallthroughWord | breakWord | continueWord | gotoWord | returnWord | goWord | deferWord
  | ifWord | elseWord | forWord | rangeWord | switchWord | caseWord | defaultWord | selectWord
  | newWord | makeWord | integer | decimal | imaginary | rune | nilWord | trueWord | falseWord
  | iotaWord | plus | minus | bang | caret | amp | slash | percent | leftShift | rightShift
  | ampCaret | bar | equal | notEqual | less | lessEqual | greater | greaterEqual | bothSigns
  | eitherSign | openingQuote | closingQuote | stringContent | stringEscape | endOfText
deriving DecidableEq, Repr

/-- The number that stands for a token in sets of tokens. -/
def Token.index (t : Token) : Nat :=
  t.ctorIdx

/-- The number of kinds of tokens. -/
def tokenCount : Nat :=
  Token.endOfText.index + 1

/-- A word with a meaning of its own. -/
structure Word where
  /-- How it is written. -/
  spelling : String
  /-- The token it is. -/
  token : Token
  /-- Whether it is never an identifier. -/
  reserved : Bool := true

/-- The words with a meaning of their own. -/
def words : List Word :=
  [⟨"break", .breakWord, true⟩, ⟨"default", .defaultWord, true⟩, ⟨"func", .funcWord, true⟩,
    ⟨"interface", .interfaceWord, true⟩, ⟨"select", .selectWord, true⟩, ⟨"case", .caseWord, true⟩,
    ⟨"defer", .deferWord, true⟩, ⟨"go", .goWord, true⟩, ⟨"map", .mapWord, true⟩,
    ⟨"struct", .structWord, true⟩, ⟨"chan", .chanWord, true⟩, ⟨"else", .elseWord, true⟩,
    ⟨"goto", .gotoWord, true⟩, ⟨"package", .packageWord, true⟩, ⟨"switch", .switchWord, true⟩,
    ⟨"const", .constWord, true⟩, ⟨"fallthrough", .fallthroughWord, true⟩, ⟨"if", .ifWord, true⟩,
    ⟨"range", .rangeWord, true⟩, ⟨"type", .typeWord, true⟩, ⟨"continue", .continueWord, true⟩,
    ⟨"for", .forWord, true⟩, ⟨"import", .importWord, true⟩, ⟨"return", .returnWord, true⟩,
    ⟨"var", .varWord, true⟩, ⟨"nil", .nilWord, false⟩, ⟨"true", .trueWord, false⟩,
    ⟨"false", .falseWord, false⟩, ⟨"iota", .iotaWord, false⟩, ⟨"new", .newWord, false⟩,
    ⟨"make", .makeWord, false⟩, ⟨"_", .blankWord, false⟩]

/-- The operators and delimiters, longer ones first. -/
def marks : List (List Char × Token) :=
  [(['<', '<', '='], .leftShiftAssign), (['>', '>', '='], .rightShiftAssign),
    (['&', '^', '='], .ampCaretAssign), (['.', '.', '.'], .ellipsis), (['<', '-'], .arrow),
    ([':', '='], .define), (['+', '+'], .increment), (['-', '-'], .decrement),
    (['*', '='], .starAssign), (['/', '='], .slashAssign), (['%', '='], .percentAssign),
    (['&', '='], .ampAssign), (['+', '='], .plusAssign), (['-', '='], .minusAssign),
    (['|', '='], .barAssign), (['^', '='], .caretAssign), (['<', '<'], .leftShift),
    (['>', '>'], .rightShift), (['&', '^'], .ampCaret), (['=', '='], .equal),
    (['!', '='], .notEqual), (['<', '='], .lessEqual), (['>', '='], .greaterEqual),
    (['&', '&'], .bothSigns), (['|', '|'], .eitherSign), (['.'], .dot), (['('], .leftParen),
    ([')'], .rightParen), ([';'], .semicolon), (['='], .assign), (['['], .leftBracket),
    ([','], .comma), ([']'], .rightBracket), (['*'], .star), (['~'], .tilde),
    (['\x7b'], .leftBrace), (['\x7d'], .rightBrace), ([':'], .colon), (['+'], .plus),
    (['-'], .minus), (['!'], .bang), (['^'], .caret), (['&'], .amp), (['/'], .slash),
    (['%'], .percent), (['|'], .bar), (['<'], .less), (['>'], .greater), (['"'], .openingQuote)]

/-- Whether a token is a phrase in its own right. The others are words and marks that only hold
phrases together. -/
def Token.isNamed : Token → Bool
  | comment | identifier | blankWord | rawString | integer | decimal | imaginary | rune | nilWord
  | trueWord | falseWord | iotaWord | stringContent | stringEscape => true
  | _ => false

/-- A category of phrases. The ones behind `interpretedString` have no rule of their own: they name
phrases by the place where they stand, `broken` those that follow no rule, and the last three are names
of interface elements in other versions of the grammar. -/
inductive Category where
  | sourceFile | packageClause | importDeclaration | importSpec | importSpecList | declaration
  | constDeclaration | constSpec | varDeclaration | varSpec | varSpecList | functionDeclaration
  | methodDeclaration | typeParameterList | typeParameterDeclaration | parameterList
  | parameterDeclaration | variadicParameterDeclaration | typeAlias | typeDeclaration | typeSpec
  | expressionList | parenthesizedType | simpleType | genericType | typeArguments | pointerType
  | arrayType | implicitLengthArrayType | sliceType | structType | negatedType
  | fieldDeclarationList | fieldDeclaration | interfaceType | methodElement | typeElement | mapType
  | channelType | functionType | block | statementList | statement | emptyStatement
  | simpleStatement | expressionStatement | sendStatement | receiveStatement | incrementStatement
  | decrementStatement | assignmentStatement | shortVarDeclaration | labeledStatement
  | emptyLabeledStatement | fallthroughStatement | breakStatement | continueStatement
  | gotoStatement | returnStatement | goStatement | deferStatement | ifStatement | forStatement
  | forClause | rangeClause | switchStatement | expressionCase | defaultCase
  | typeSwitchStatement | typeSwitchHeader | typeCase | selectStatement | communicationCase
  | expression | parenthesizedExpression | callExpression | variadicArgument
  | specialArgumentList | argumentList | selectorExpression | indexExpression | sliceExpression
  | typeAssertion | typeConversion | typeInstantiation | compositeLiteral | literalValue
  | literalElement | keyedElement | functionLiteral | unaryExpression | binaryExpression
  | qualifiedType | interpretedString
  | typeIdentifier | fieldIdentifier | packageIdentifier | labelName | dotName | blankName
  | typeConstraint | broken | methodSpec | constraintElement | interfaceTypeName
deriving DecidableEq, Repr

/-- The number of categories with a rule. -/
def Category.ruleCount : Nat :=
  Category.typeIdentifier.ctorIdx

/-- Whether phrases of the category only group what stands in them. -/
def Category.isTransparent : Category → Bool
  | declaration | simpleType | statement | simpleStatement | typeSwitchHeader | expression => true
  | _ => false

/-- Whether phrases of the category are lists of phrases of one kind. -/
def Category.isList : Category → Bool
  | importSpecList | varSpecList | typeParameterList | parameterList | expressionList
  | fieldDeclarationList | statementList | specialArgumentList | argumentList => true
  | _ => false

/-- The part that a phrase plays in the phrase around it. -/
inductive Role where
  | alternative | alias | arguments | body | capacity | channel | communication | condition
  | consequence | element | field | finish | function | index | initializer | key | label | left
  | length | name | operand | operator | package | parameters | path | receiver | result | right
  | start | tag | type | typeArguments | typeParameters | update | value
deriving DecidableEq, Repr

/-- What a rule is made of: tokens, phrases of a category, and repetitions, which are numbered. -/
inductive Symbol where
  | token (t : Token)
  | category (c : Category)
  | repetition (n : Nat)
deriving DecidableEq, Repr

/-- The position of a symbol in the order of symbols: tokens, categories, repetitions. -/
def Symbol.rank : Symbol → Nat
  | token t => t.index
  | category c => tokenCount + c.ctorIdx
  | repetition n => tokenCount + Category.ruleCount + n

end GoAddress.Grammar
