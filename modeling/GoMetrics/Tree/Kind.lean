/-!
The kinds of node that a Go parse tree is made of, and the slots in which a node can stand.

Kinds fall into the classes that decide how a node is read: an expression or type, a statement, a
declaration of names, a function declaration, or a part that only has a meaning inside its parent.
Everything else, punctuation included, keeps its own spelling.
-/

namespace GoMetrics

/-- Kinds read as an expression or a type. -/
inductive ExprKind
  | identifier | typeIdentifier | packageIdentifier | fieldIdentifier | labelName
  | blankIdentifier | nilName | trueName | falseName | iotaName
  | intLiteral | floatLiteral | imaginaryLiteral | runeLiteral
  | interpretedStringLiteral | rawStringLiteral
  | parenthesizedExpression | parenthesizedType | selectorExpression | indexExpression
  | sliceExpression | typeAssertionExpression | typeConversionExpression
  | typeInstantiationExpression | callExpression | unaryExpression | binaryExpression
  | compositeLiteral | literalValue | funcLiteral
  | pointerType | arrayType | implicitLengthArrayType | sliceType | mapType | channelType
  | functionType | structType | interfaceType | qualifiedType | genericType | negatedType
  | typeElem | typeConstraint
  deriving DecidableEq, Repr

/-- Kinds read as a statement, declarations of names apart. -/
inductive StmtKind
  | expressionStatement | sendStatement | receiveStatement | incStatement | decStatement
  | assignmentStatement | shortVarDeclaration | goStatement | deferStatement | returnStatement
  | breakStatement | continueStatement | gotoStatement | fallthroughStatement
  | labeledStatement | emptyLabeledStatement | ifStatement | forStatement
  | expressionSwitchStatement | typeSwitchStatement | selectStatement | block | emptyStatement
  deriving DecidableEq, Repr

/-- Declarations that hold specs; they stand at file level and among statements. -/
inductive DeclKind
  | varDeclaration | constDeclaration | typeDeclaration
  deriving DecidableEq, Repr

/-- Kinds that only their parent gives a meaning to. -/
inductive PartKind
  | packageClause | importDeclaration | importSpec
  | typeSpec | typeAlias | varSpec | constSpec
  | parameterList | variadicParameterDeclaration | fieldDeclarationList
  | methodElem | methodSpec
  | expressionList | statementList | variadicArgument | literalElement | keyedElement
  | rangeClause | forClause
  | expressionCase | typeCase | defaultCase | communicationCase
  deriving DecidableEq, Repr

inductive Kind
  | expr (kind : ExprKind)
  | stmt (kind : StmtKind)
  | decl (kind : DeclKind)
  | functionDeclaration
  | methodDeclaration
  | part (kind : PartKind)
  | comment
  | error
  | other (name : String)
  deriving DecidableEq, Repr

def ExprKind.name : ExprKind → String
  | .identifier => "identifier"
  | .typeIdentifier => "type_identifier"
  | .packageIdentifier => "package_identifier"
  | .fieldIdentifier => "field_identifier"
  | .labelName => "label_name"
  | .blankIdentifier => "blank_identifier"
  | .nilName => "nil"
  | .trueName => "true"
  | .falseName => "false"
  | .iotaName => "iota"
  | .intLiteral => "int_literal"
  | .floatLiteral => "float_literal"
  | .imaginaryLiteral => "imaginary_literal"
  | .runeLiteral => "rune_literal"
  | .interpretedStringLiteral => "interpreted_string_literal"
  | .rawStringLiteral => "raw_string_literal"
  | .parenthesizedExpression => "parenthesized_expression"
  | .parenthesizedType => "parenthesized_type"
  | .selectorExpression => "selector_expression"
  | .indexExpression => "index_expression"
  | .sliceExpression => "slice_expression"
  | .typeAssertionExpression => "type_assertion_expression"
  | .typeConversionExpression => "type_conversion_expression"
  | .typeInstantiationExpression => "type_instantiation_expression"
  | .callExpression => "call_expression"
  | .unaryExpression => "unary_expression"
  | .binaryExpression => "binary_expression"
  | .compositeLiteral => "composite_literal"
  | .literalValue => "literal_value"
  | .funcLiteral => "func_literal"
  | .pointerType => "pointer_type"
  | .arrayType => "array_type"
  | .implicitLengthArrayType => "implicit_length_array_type"
  | .sliceType => "slice_type"
  | .mapType => "map_type"
  | .channelType => "channel_type"
  | .functionType => "function_type"
  | .structType => "struct_type"
  | .interfaceType => "interface_type"
  | .qualifiedType => "qualified_type"
  | .genericType => "generic_type"
  | .negatedType => "negated_type"
  | .typeElem => "type_elem"
  | .typeConstraint => "type_constraint"

def StmtKind.name : StmtKind → String
  | .expressionStatement => "expression_statement"
  | .sendStatement => "send_statement"
  | .receiveStatement => "receive_statement"
  | .incStatement => "inc_statement"
  | .decStatement => "dec_statement"
  | .assignmentStatement => "assignment_statement"
  | .shortVarDeclaration => "short_var_declaration"
  | .goStatement => "go_statement"
  | .deferStatement => "defer_statement"
  | .returnStatement => "return_statement"
  | .breakStatement => "break_statement"
  | .continueStatement => "continue_statement"
  | .gotoStatement => "goto_statement"
  | .fallthroughStatement => "fallthrough_statement"
  | .labeledStatement => "labeled_statement"
  | .emptyLabeledStatement => "empty_labeled_statement"
  | .ifStatement => "if_statement"
  | .forStatement => "for_statement"
  | .expressionSwitchStatement => "expression_switch_statement"
  | .typeSwitchStatement => "type_switch_statement"
  | .selectStatement => "select_statement"
  | .block => "block"
  | .emptyStatement => "empty_statement"

def DeclKind.name : DeclKind → String
  | .varDeclaration => "var_declaration"
  | .constDeclaration => "const_declaration"
  | .typeDeclaration => "type_declaration"

/-- The keyword that opens the declaration. -/
def DeclKind.keyword : DeclKind → String
  | .varDeclaration => "var"
  | .constDeclaration => "const"
  | .typeDeclaration => "type"

def PartKind.name : PartKind → String
  | .packageClause => "package_clause"
  | .importDeclaration => "import_declaration"
  | .importSpec => "import_spec"
  | .typeSpec => "type_spec"
  | .typeAlias => "type_alias"
  | .varSpec => "var_spec"
  | .constSpec => "const_spec"
  | .parameterList => "parameter_list"
  | .variadicParameterDeclaration => "variadic_parameter_declaration"
  | .fieldDeclarationList => "field_declaration_list"
  | .methodElem => "method_elem"
  | .methodSpec => "method_spec"
  | .expressionList => "expression_list"
  | .statementList => "statement_list"
  | .variadicArgument => "variadic_argument"
  | .literalElement => "literal_element"
  | .keyedElement => "keyed_element"
  | .rangeClause => "range_clause"
  | .forClause => "for_clause"
  | .expressionCase => "expression_case"
  | .typeCase => "type_case"
  | .defaultCase => "default_case"
  | .communicationCase => "communication_case"

namespace Kind

/-- The spelling of a kind in the grammar. -/
def name : Kind → String
  | .expr k => k.name
  | .stmt k => k.name
  | .decl k => k.name
  | .functionDeclaration => "function_declaration"
  | .methodDeclaration => "method_declaration"
  | .part k => k.name
  | .comment => "comment"
  | .error => "ERROR"
  | .other n => n

/-- The kind that a spelling stands for. -/
def ofName : String → Kind
  | "identifier" => .expr .identifier
  | "type_identifier" => .expr .typeIdentifier
  | "package_identifier" => .expr .packageIdentifier
  | "field_identifier" => .expr .fieldIdentifier
  | "label_name" => .expr .labelName
  | "blank_identifier" => .expr .blankIdentifier
  | "nil" => .expr .nilName
  | "true" => .expr .trueName
  | "false" => .expr .falseName
  | "iota" => .expr .iotaName
  | "int_literal" => .expr .intLiteral
  | "float_literal" => .expr .floatLiteral
  | "imaginary_literal" => .expr .imaginaryLiteral
  | "rune_literal" => .expr .runeLiteral
  | "interpreted_string_literal" => .expr .interpretedStringLiteral
  | "raw_string_literal" => .expr .rawStringLiteral
  | "parenthesized_expression" => .expr .parenthesizedExpression
  | "parenthesized_type" => .expr .parenthesizedType
  | "selector_expression" => .expr .selectorExpression
  | "index_expression" => .expr .indexExpression
  | "slice_expression" => .expr .sliceExpression
  | "type_assertion_expression" => .expr .typeAssertionExpression
  | "type_conversion_expression" => .expr .typeConversionExpression
  | "type_instantiation_expression" => .expr .typeInstantiationExpression
  | "call_expression" => .expr .callExpression
  | "unary_expression" => .expr .unaryExpression
  | "binary_expression" => .expr .binaryExpression
  | "composite_literal" => .expr .compositeLiteral
  | "literal_value" => .expr .literalValue
  | "func_literal" => .expr .funcLiteral
  | "pointer_type" => .expr .pointerType
  | "array_type" => .expr .arrayType
  | "implicit_length_array_type" => .expr .implicitLengthArrayType
  | "slice_type" => .expr .sliceType
  | "map_type" => .expr .mapType
  | "channel_type" => .expr .channelType
  | "function_type" => .expr .functionType
  | "struct_type" => .expr .structType
  | "interface_type" => .expr .interfaceType
  | "qualified_type" => .expr .qualifiedType
  | "generic_type" => .expr .genericType
  | "negated_type" => .expr .negatedType
  | "type_elem" => .expr .typeElem
  | "type_constraint" => .expr .typeConstraint
  | "expression_statement" => .stmt .expressionStatement
  | "send_statement" => .stmt .sendStatement
  | "receive_statement" => .stmt .receiveStatement
  | "inc_statement" => .stmt .incStatement
  | "dec_statement" => .stmt .decStatement
  | "assignment_statement" => .stmt .assignmentStatement
  | "short_var_declaration" => .stmt .shortVarDeclaration
  | "go_statement" => .stmt .goStatement
  | "defer_statement" => .stmt .deferStatement
  | "return_statement" => .stmt .returnStatement
  | "break_statement" => .stmt .breakStatement
  | "continue_statement" => .stmt .continueStatement
  | "goto_statement" => .stmt .gotoStatement
  | "fallthrough_statement" => .stmt .fallthroughStatement
  | "labeled_statement" => .stmt .labeledStatement
  | "empty_labeled_statement" => .stmt .emptyLabeledStatement
  | "if_statement" => .stmt .ifStatement
  | "for_statement" => .stmt .forStatement
  | "expression_switch_statement" => .stmt .expressionSwitchStatement
  | "type_switch_statement" => .stmt .typeSwitchStatement
  | "select_statement" => .stmt .selectStatement
  | "block" => .stmt .block
  | "empty_statement" => .stmt .emptyStatement
  | "var_declaration" => .decl .varDeclaration
  | "const_declaration" => .decl .constDeclaration
  | "type_declaration" => .decl .typeDeclaration
  | "function_declaration" => .functionDeclaration
  | "method_declaration" => .methodDeclaration
  | "package_clause" => .part .packageClause
  | "import_declaration" => .part .importDeclaration
  | "import_spec" => .part .importSpec
  | "type_spec" => .part .typeSpec
  | "type_alias" => .part .typeAlias
  | "var_spec" => .part .varSpec
  | "const_spec" => .part .constSpec
  | "parameter_list" => .part .parameterList
  | "variadic_parameter_declaration" => .part .variadicParameterDeclaration
  | "field_declaration_list" => .part .fieldDeclarationList
  | "method_elem" => .part .methodElem
  | "method_spec" => .part .methodSpec
  | "expression_list" => .part .expressionList
  | "statement_list" => .part .statementList
  | "variadic_argument" => .part .variadicArgument
  | "literal_element" => .part .literalElement
  | "keyed_element" => .part .keyedElement
  | "range_clause" => .part .rangeClause
  | "for_clause" => .part .forClause
  | "expression_case" => .part .expressionCase
  | "type_case" => .part .typeCase
  | "default_case" => .part .defaultCase
  | "communication_case" => .part .communicationCase
  | "comment" => .comment
  | "ERROR" => .error
  | n => .other n

/-- Lists that group the specs of one declaration are recognised by the end of their spelling. -/
def isSpecList (k : Kind) : Bool :=
  k.name.endsWith "_spec_list"

/-- Statements that declare a label. -/
def isLabeled : Kind → Bool
  | .stmt .labeledStatement | .stmt .emptyLabeledStatement => true
  | _ => false

end Kind

/-- The role that a node has in its parent. -/
inductive Slot
  | name | receiver | typeParameters | parameters | result | body | type | value
  | channel | left | right | operator | label | initializer | condition | consequence
  | alternative | update | alias | communication | operand | field | index
  | start | stop | capacity | function | typeArguments | arguments | key | length
  | element | package | path
  | other (name : String)
  deriving DecidableEq, Repr

/-- The slot of a label in the grammar; the empty label is no slot. -/
def Slot.ofName? : String → Option Slot
  | "" => none
  | "name" => some .name
  | "receiver" => some .receiver
  | "type_parameters" => some .typeParameters
  | "parameters" => some .parameters
  | "result" => some .result
  | "body" => some .body
  | "type" => some .type
  | "value" => some .value
  | "channel" => some .channel
  | "left" => some .left
  | "right" => some .right
  | "operator" => some .operator
  | "label" => some .label
  | "initializer" => some .initializer
  | "condition" => some .condition
  | "consequence" => some .consequence
  | "alternative" => some .alternative
  | "update" => some .update
  | "alias" => some .alias
  | "communication" => some .communication
  | "operand" => some .operand
  | "field" => some .field
  | "index" => some .index
  | "start" => some .start
  | "end" => some .stop
  | "capacity" => some .capacity
  | "function" => some .function
  | "type_arguments" => some .typeArguments
  | "arguments" => some .arguments
  | "key" => some .key
  | "length" => some .length
  | "element" => some .element
  | "package" => some .package
  | "path" => some .path
  | n => some (.other n)

end GoMetrics
