import GoAddress.Grammar.Rule

/-!
# The rules of source files

One rule for each category of phrases, in the order of the categories. A statement or declaration
ends in a terminator; line breaks are terminators only where a rule asks for one, everywhere else
they separate tokens like blanks.
-/

namespace GoAddress.Grammar

open Token Category Rule

/-- What ends a statement or declaration. -/
def terminator : Rule :=
  choice [lineBreak, semicolon, nul]

/-- Entries with terminators between them; behind the last one it may be left out. -/
def terminatedList (entry : Rule) : Rule :=
  optional (seq [entry, any (seq [terminator, entry]), optional terminator])

/-- An identifier that goes by another name. -/
def identifierAs (c : Category) : Rule :=
  .named (.category c) identifier

/-- The name of a type. -/
def typeName : Rule :=
  identifierAs typeIdentifier

/-- The name of a field or method. -/
def fieldName : Rule :=
  identifierAs fieldIdentifier

/-- The name of a package. -/
def packageName : Rule :=
  identifierAs packageIdentifier

/-- The name of a label. -/
def label : Rule :=
  identifierAs labelName

/-- A type. -/
def type : Rule :=
  choice [simpleType, parenthesizedType]

/-- A quoted text. -/
def stringLiteral : Rule :=
  choice [rawString, interpretedString]

/-- The result of a function, which may be left out. -/
def result : Rule :=
  optional (.role .result (choice [parameterList, simpleType]))

/-- The functions that take a type as their first argument. -/
def typeFunction : Rule :=
  .named (.token identifier) (choice [newWord, makeWord])

/-- A label at the end of a list of statements. -/
def lastLabel : Rule :=
  .named (.category labeledStatement) emptyLabeledStatement

/-- Operators that bind like multiplication. -/
def multiplicative : List Rule :=
  [star, slash, percent, leftShift, rightShift, amp, ampCaret]

/-- Operators that bind like addition. -/
def additive : List Rule :=
  [plus, minus, bar, caret]

/-- Operators that compare. -/
def comparing : List Rule :=
  [equal, notEqual, less, lessEqual, greater, greaterEqual]

/-- Operators that assign. -/
def assigning : List Rule :=
  [starAssign, slashAssign, percentAssign, leftShiftAssign, rightShiftAssign, ampAssign,
    ampCaretAssign, plusAssign, minusAssign, barAssign, caretAssign, assign]

/-- Operators in front of their operand. -/
def unary : List Rule :=
  [plus, minus, bang, caret, star, amp, arrow]

/-- An operand on either side of one of the operators. -/
def binary (n : Int) (operators : List Rule) : Rule :=
  .level n (some .left) (seq [.role .left expression, .role .operator (choice operators),
    .role .right expression])

/-- A list of clauses that each end in statements. -/
def clauses (clause : Category) : Rule :=
  seq [leftBrace, any (choice [clause, defaultCase]), rightBrace]

/-- The word and head of a clause, and its statements. -/
def clause (word head : Rule) : Rule :=
  seq [word, head, colon, optional statementList]

/-- A statement in front of what the head of a statement is about. -/
def initializer : Rule :=
  optional (seq [.role .initializer simpleStatement, semicolon])

/-- Names on the left of what they are set to. -/
def targets : Rule :=
  optional (seq [.role .left expressionList, choice [assign, define]])

/-- The end of a bracketed list: a comma may stand behind the last entry. -/
def lastComma : Rule :=
  optional comma

/-- The rule of a category; those without one go by other names. -/
def rule : Category → Rule
  | sourceFile => seq [
      any (choice [seq [statement, terminator],
        seq [choice [packageClause, functionDeclaration, methodDeclaration, importDeclaration],
          terminator]]),
      optional (choice [packageClause, functionDeclaration, methodDeclaration,
        importDeclaration])]
  | packageClause => seq [packageWord, packageName]
  | importDeclaration => seq [importWord, choice [importSpec, importSpecList]]
  | importSpec => seq [
      optional (.role .name (choice [.named (.category dotName) dot,
        .named (.category blankName) blankWord, packageName])),
      .role .path stringLiteral]
  | importSpecList => seq [leftParen, terminatedList importSpec, rightParen]
  | declaration => choice [constDeclaration, typeDeclaration, varDeclaration]
  | constDeclaration => seq [constWord,
      choice [constSpec, seq [leftParen, any (seq [constSpec, terminator]), rightParen]]]
  | constSpec => .level 0 (some .left) (seq [
      .role .name (commaList identifier),
      optional (seq [optional (.role .type type), assign, .role .value expressionList])])
  | varDeclaration => seq [varWord, choice [varSpec, varSpecList]]
  | varSpec => seq [
      commaList (.role .name identifier),
      choice [
        seq [.role .type type, optional (seq [assign, .role .value expressionList])],
        seq [assign, .role .value expressionList]]]
  | varSpecList => seq [leftParen, any (seq [varSpec, terminator]), rightParen]
  | functionDeclaration => .level 1 (some .right) (seq [
      funcWord, .role .name identifier, optional (.role .typeParameters typeParameterList),
      .role .parameters parameterList, result, optional (.role .body block)])
  | methodDeclaration => .level 1 (some .right) (seq [
      funcWord, .role .receiver parameterList, .role .name fieldName,
      .role .parameters parameterList, result, optional (.role .body block)])
  | typeParameterList => seq [leftBracket, commaList typeParameterDeclaration, lastComma,
      rightBracket]
  | typeParameterDeclaration => seq [
      commaList (.role .name identifier),
      .role .type (.named (.category typeConstraint) typeElement)]
  | parameterList => seq [leftParen,
      optional (seq [
        optional (commaList (choice [parameterDeclaration, variadicParameterDeclaration])),
        lastComma]),
      rightParen]
  | parameterDeclaration => seq [
      optional (commaList (.role .name identifier)), .role .type type]
  | variadicParameterDeclaration => seq [
      optional (.role .name identifier), ellipsis, .role .type type]
  | typeAlias => seq [
      .role .name typeName, optional (.role .typeParameters typeParameterList), assign,
      .role .type type]
  | typeDeclaration => seq [typeWord,
      choice [typeSpec, typeAlias,
        seq [leftParen, terminatedList (choice [typeSpec, typeAlias]), rightParen]]]
  | typeSpec => seq [
      .role .name typeName, optional (.role .typeParameters typeParameterList), .role .type type]
  | expressionList => commaList expression
  | parenthesizedType => seq [leftParen, type, rightParen]
  | simpleType => choice [
      .weight (-1) typeName, genericType, qualifiedType, pointerType, structType, interfaceType,
      arrayType, sliceType, mapType, channelType, functionType, negatedType]
  | genericType => .weight 1 (seq [
      .role .type (choice [typeName, qualifiedType, negatedType]),
      .role .typeArguments typeArguments])
  | typeArguments => .weight 2 (seq [
      leftBracket, commaList typeElement, lastComma, rightBracket])
  | pointerType => .level 6 none (seq [star, type])
  | arrayType => .level 0 (some .right) (seq [
      leftBracket, .role .length expression, rightBracket, .role .element type])
  | implicitLengthArrayType => seq [leftBracket, ellipsis, rightBracket, .role .element type]
  | sliceType => .level 0 (some .right) (seq [leftBracket, rightBracket, .role .element type])
  | structType => seq [structWord, fieldDeclarationList]
  | negatedType => .level 0 (some .left) (seq [tilde, type])
  | fieldDeclarationList => seq [leftBrace, terminatedList fieldDeclaration, rightBrace]
  | fieldDeclaration => seq [
      choice [
        seq [commaList (.role .name fieldName), .role .type type],
        seq [optional star, .role .type (choice [typeName, qualifiedType, genericType])]],
      optional (.role .tag stringLiteral)]
  | interfaceType => seq [interfaceWord, leftBrace,
      terminatedList (choice [methodElement, typeElement]), rightBrace]
  | methodElement => seq [.role .name fieldName, .role .parameters parameterList, result]
  | typeElement => separated bar type
  | mapType => .level 0 (some .right) (seq [
      mapWord, leftBracket, .role .key type, rightBracket, .role .value type])
  | channelType => .level 0 (some .left) (choice [
      seq [chanWord, .role .value type],
      seq [chanWord, arrow, .role .value type],
      .level 6 none (seq [arrow, chanWord, .role .value type])])
  | functionType => .level 0 (some .right) (seq [
      funcWord, .role .parameters parameterList, result])
  | block => seq [leftBrace, optional statementList, rightBrace]
  | statementList => choice [
      seq [statement, any (seq [terminator, statement]),
        optional (seq [terminator, optional lastLabel])],
      lastLabel]
  | statement => choice [
      declaration, simpleStatement, returnStatement, goStatement, deferStatement, ifStatement,
      forStatement, switchStatement, typeSwitchStatement, selectStatement, labeledStatement,
      fallthroughStatement, breakStatement, continueStatement, gotoStatement, block,
      emptyStatement]
  | emptyStatement => semicolon
  | simpleStatement => choice [
      expressionStatement, sendStatement, incrementStatement, decrementStatement,
      assignmentStatement, shortVarDeclaration]
  | expressionStatement => expression
  | sendStatement => seq [.role .channel expression, arrow, .role .value expression]
  | receiveStatement => seq [targets, .role .right expression]
  | incrementStatement => seq [expression, increment]
  | decrementStatement => seq [expression, decrement]
  | assignmentStatement => seq [
      .role .left expressionList, .role .operator (choice assigning),
      .role .right expressionList]
  | shortVarDeclaration => seq [
      .role .left expressionList, define, .role .right expressionList]
  | labeledStatement => seq [.role .label label, colon, statement]
  | emptyLabeledStatement => seq [.role .label label, colon]
  | fallthroughStatement => .level 0 (some .left) fallthroughWord
  | breakStatement => seq [breakWord, optional label]
  | continueStatement => seq [continueWord, optional label]
  | gotoStatement => seq [gotoWord, label]
  | returnStatement => seq [returnWord, optional expressionList]
  | goStatement => seq [goWord, expression]
  | deferStatement => seq [deferWord, expression]
  | ifStatement => seq [ifWord, initializer, .role .condition expression,
      .role .consequence block,
      optional (seq [elseWord, .role .alternative (choice [block, ifStatement])])]
  | forStatement => seq [forWord, optional (choice [expression, forClause, rangeClause]),
      .role .body block]
  | forClause => seq [
      optional (.role .initializer simpleStatement), semicolon,
      optional (.role .condition expression), semicolon,
      optional (.role .update simpleStatement)]
  | rangeClause => seq [targets, rangeWord, .role .right expression]
  | switchStatement => seq [switchWord, initializer, optional (.role .value expression),
      clauses expressionCase]
  | expressionCase => clause caseWord (.role .value expressionList)
  | defaultCase => clause defaultWord .empty
  | typeSwitchStatement => seq [switchWord, typeSwitchHeader, clauses typeCase]
  | typeSwitchHeader => seq [initializer,
      optional (seq [.role .alias expressionList, define]), .role .value expression, dot,
      leftParen, typeWord, rightParen]
  | typeCase => clause caseWord (commaList (.role .type type))
  | selectStatement => seq [selectWord, clauses communicationCase]
  | communicationCase => clause caseWord
      (.role .communication (choice [sendStatement, receiveStatement]))
  | expression => choice [
      unaryExpression, binaryExpression, selectorExpression, indexExpression, sliceExpression,
      callExpression, typeAssertion, typeConversion, typeInstantiation, identifier, typeFunction,
      compositeLiteral, functionLiteral, stringLiteral, integer, decimal, imaginary, rune, nilWord,
      trueWord, falseWord, iotaWord, parenthesizedExpression]
  | parenthesizedExpression => seq [leftParen, expression, rightParen]
  | callExpression => .level 7 none (choice [
      seq [.role .function typeFunction,
        .role .arguments (.named (.category argumentList) specialArgumentList)],
      seq [.role .function expression, optional (.role .typeArguments typeArguments),
        .role .arguments argumentList]])
  | variadicArgument => .level 0 (some .right) (seq [expression, ellipsis])
  | specialArgumentList => seq [leftParen,
      optional (seq [type, any (seq [comma, expression]), lastComma]), rightParen]
  | argumentList => seq [leftParen,
      optional (seq [commaList (choice [expression, variadicArgument]), lastComma]), rightParen]
  | selectorExpression => .level 7 none (seq [
      .role .operand expression, dot, .role .field fieldName])
  | indexExpression => .level 7 none (seq [
      .role .operand expression, leftBracket, .role .index expression, rightBracket])
  | sliceExpression => .level 7 none (seq [.role .operand expression, leftBracket,
      choice [
        seq [optional (.role .start expression), colon, optional (.role .finish expression)],
        seq [optional (.role .start expression), colon, .role .finish expression, colon,
          .role .capacity expression]],
      rightBracket])
  | typeAssertion => .level 7 none (seq [
      .role .operand expression, dot, leftParen, .role .type type, rightParen])
  | typeConversion => .weight (-1) (seq [
      .role .type type, leftParen, .role .operand expression, lastComma, rightParen])
  | typeInstantiation => .level 7 none (seq [
      .role .type type, leftBracket, commaList type, lastComma, rightBracket])
  | compositeLiteral => .level (-1) none (seq [
      .role .type (choice [mapType, sliceType, arrayType, implicitLengthArrayType, structType,
        typeName, genericType, qualifiedType]),
      .role .body literalValue])
  | literalValue => seq [leftBrace,
      optional (seq [optional (commaList (choice [literalElement, keyedElement])), lastComma]),
      rightBrace]
  | literalElement => choice [expression, literalValue]
  | keyedElement => seq [literalElement, colon, literalElement]
  | functionLiteral => seq [
      funcWord, .role .parameters parameterList, result, .role .body block]
  | unaryExpression => .level 6 none (seq [
      .role .operator (choice unary), .role .operand expression])
  | binaryExpression => choice [binary 5 multiplicative, binary 4 additive, binary 3 comparing,
      binary 2 [bothSigns], binary 1 [eitherSign]]
  | qualifiedType => seq [.role .package packageName, dot, .role .name typeName]
  | interpretedString => seq [
      openingQuote, any (choice [stringContent, stringEscape]), closingQuote]
  | typeIdentifier | fieldIdentifier | packageIdentifier | labelName | dotName | blankName
  | typeConstraint | broken | methodSpec | constraintElement | interfaceTypeName => .empty

/-- The categories that have a rule, in order. -/
def categories : List Category :=
  [sourceFile, packageClause, importDeclaration, importSpec, importSpecList, declaration,
    constDeclaration, constSpec, varDeclaration, varSpec, varSpecList, functionDeclaration,
    methodDeclaration, typeParameterList, typeParameterDeclaration, parameterList,
    parameterDeclaration, variadicParameterDeclaration, typeAlias, typeDeclaration, typeSpec,
    expressionList, parenthesizedType, simpleType, genericType, typeArguments, pointerType,
    arrayType, implicitLengthArrayType, sliceType, structType, negatedType, fieldDeclarationList,
    fieldDeclaration, interfaceType, methodElement, typeElement, mapType, channelType,
    functionType, block, statementList, statement, emptyStatement, simpleStatement,
    expressionStatement, sendStatement, receiveStatement, incrementStatement, decrementStatement,
    assignmentStatement, shortVarDeclaration, labeledStatement, emptyLabeledStatement,
    fallthroughStatement, breakStatement, continueStatement, gotoStatement, returnStatement,
    goStatement, deferStatement, ifStatement, forStatement, forClause, rangeClause,
    switchStatement, expressionCase, defaultCase, typeSwitchStatement, typeSwitchHeader, typeCase,
    selectStatement, communicationCase, expression, parenthesizedExpression, callExpression,
    variadicArgument, specialArgumentList, argumentList, selectorExpression, indexExpression,
    sliceExpression, typeAssertion, typeConversion, typeInstantiation, compositeLiteral,
    literalValue, literalElement, keyedElement, functionLiteral, unaryExpression,
    binaryExpression, qualifiedType, interpretedString]

end GoAddress.Grammar
