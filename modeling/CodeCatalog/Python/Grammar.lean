import CodeCatalog.Grammar.Rule

/-!
# The grammar of Python source files

The rules, tokens, precedences and layout tokens of Python, both the current language and the
statements that only its second major version had. Names with a leading underscore have no
node of their own in the tree.

## Main definitions

* `CodeCatalog.Python.grammar` — the grammar.
-/

namespace CodeCatalog.Python

open Grammar Grammar.Rule

/-! ## Precedences -/

namespace Level

/-- A lambda takes no annotated parameters, so its colon binds less than theirs. -/
def lambda : Int := -2
/-- An annotated parameter, up to its colon. -/
def typedParameter : Int := -1
/-- A choice between two values, `a if c else b`. -/
def conditional : Int := -1
/-- What stands in parentheses is taken as an expression before anything else is made of it. -/
def parenthesized : Int := 1
/-- The operator `or` binds least of all operators. -/
def or : Int := 10
/-- The operator `and`. -/
def and : Int := 11
/-- The operator `not`. -/
def not : Int := 12
/-- Comparisons, with `in`, `is` and their negations. -/
def compare : Int := 13
/-- The operator `|`. -/
def bitwiseOr : Int := 14
/-- The operator `&`, which in this grammar binds less than `^`. -/
def bitwiseAnd : Int := 15
/-- The operator `^`. -/
def xor : Int := 16
/-- The operators `<<` and `>>`. -/
def shift : Int := 17
/-- The operators `+` and `-` between two values. -/
def plus : Int := 18
/-- The operators `*`, `/`, `//`, `%` and `@`. -/
def times : Int := 19
/-- The operators `+`, `-` and `~` before a value. -/
def unary : Int := 20
/-- The operator `**`. -/
def power : Int := 21
/-- Calls, subscripts and attributes bind most. -/
def call : Int := 22

end Level

/-! ## Tokens -/

/-- A hexadecimal digit. -/
def hexDigit : Pattern :=
  .one (.union (.range 'a' 'f') (.union (.range 'A' 'F') (.range '0' '9')))

/-- A decimal digit. -/
def digit : Pattern := .one (.range '0' '9')

/-- Digits with single underscores after groups of them. -/
def digits : Pattern := .plus (.seq (.plus digit) (.opt (.text "_")))

/-- Digits of a base, with single underscores before groups of them. -/
def basedDigits (d : CharClass) : Pattern := .plus (.seq (.opt (.text "_")) (.plus (.one d)))

/-- The mark of a long integer. -/
def longSuffix : Pattern := .opt (.one (.anyOf "Ll"))

/-- The mark of an imaginary number. -/
def imaginarySuffix : Pattern := .opt (.one (.anyOf "jJ"))

/-- Integer literals. -/
def integerToken : TokenPattern where
  pattern := .oneOf [
    .concat [.alt (.text "0x") (.text "0X"),
      basedDigits (.union (.range 'A' 'F') (.union (.range 'a' 'f') (.range '0' '9'))), longSuffix],
    .concat [.alt (.text "0o") (.text "0O"), basedDigits (.range '0' '7'), longSuffix],
    .concat [.alt (.text "0b") (.text "0B"), basedDigits (.range '0' '1'), longSuffix],
    .concat [digits, .alt longSuffix imaginarySuffix]]

/-- The exponent of a floating-point literal. -/
def exponent : Pattern := .concat [.one (.anyOf "eE"), .opt (.one (.anyOf "+-")), digits]

/-- Floating-point literals. -/
def floatToken : TokenPattern where
  pattern := .seq
    (.oneOf [
      .concat [digits, .text ".", .opt digits, .opt exponent],
      .concat [.opt digits, .text ".", digits, .opt exponent],
      .concat [digits, exponent]])
    imaginarySuffix

/-- Names. -/
def identifierToken : TokenPattern where
  pattern := .seq (.one (.union (.only '_') .nameStart)) (.star (.one (.union (.only '_') .nameContinue)))

/-- A comment runs to the end of its line. -/
def commentToken : TokenPattern where
  pattern := .seq (.text "#") (.star (.one (.compl (.only '\n'))))

/-- A backslash at the end of a line joins it with the next. -/
def lineContinuationToken : TokenPattern where
  pattern := .seq (.text "\\")
    (.alt (.seq (.opt (.text "\r")) (.text "\n")) (.literal [Char.ofNat 0]))

/-- Escape sequences inside string literals. -/
def escapeSequenceToken : TokenPattern where
  pattern := .seq (.text "\\") (.oneOf [
    .seq (.text "u") (.times hexDigit 4),
    .seq (.text "U") (.times hexDigit 8),
    .seq (.text "x") (.times hexDigit 2),
    .concat [digit, .opt digit, .opt digit],
    .seq (.opt (.text "\r")) (.text "\n"),
    .one (.anyOf "'\"abfrntv\\"),
    .concat [.text "N\x7b", .plus (.one (.compl (.only '}'))), .text "\x7d"]])
  immediate := true
  precedence := 1

/-- A backslash inside a string literal that begins no escape sequence. -/
def loneBackslashToken : TokenPattern where
  pattern := .text "\\"
  immediate := true
  isText := true

/-- The text of a format specification. -/
def formatTextToken : TokenPattern where
  pattern := .plus (.one (.compl (.anyOf "\x7b\x7d\n")))
  precedence := 1

/-- The conversion marks of an interpolation, such as `!r`. -/
def typeConversionToken : TokenPattern where
  pattern := .seq (.text "!") (.one (.range 'a' 'z'))

/-! ## Rule shapes -/

/-- A binary operator that groups to the left. -/
def leftOperator (operator : String) (level : Int) : Rule :=
  .prec level (some .left) (.seq [.field "left" (.ref "primary_expression"),
    .field "operator" (.text operator), .field "right" (.ref "primary_expression")])

/-- A binary operator that groups to the right. -/
def rightOperator (operator : String) (level : Int) : Rule :=
  .prec level (some .right) (.seq [.field "left" (.ref "primary_expression"),
    .field "operator" (.text operator), .field "right" (.ref "primary_expression")])

/-- The logical operators. -/
def logicalOperator (operator : String) (level : Int) : Rule :=
  .prec level (some .left) (.seq [.field "left" (.ref "expression"),
    .field "operator" (.text operator), .field "right" (.ref "expression")])

/-- Texts as alternatives. -/
def anyText (texts : List String) : Rule := .choice (texts.map .text)

/-- Rules as alternatives. -/
def anyRef (names : List String) : Rule := .choice (names.map .ref)

/-! ## Statements -/

/-- Modules and simple statements. -/
def simpleStatementRules : List (String × Rule) := [
  ("module", many (.ref "_statement")),
  ("_statement", anyRef ["_simple_statements", "_compound_statement"]),
  ("_simple_statements", .seq [
    sepBy1 (.ref "_simple_statement") (.text ";"), optional (.text ";"), .ref "_newline"]),
  ("_simple_statement", anyRef [
    "future_import_statement", "import_statement", "import_from_statement", "print_statement",
    "assert_statement", "expression_statement", "return_statement", "delete_statement",
    "raise_statement", "pass_statement", "break_statement", "continue_statement",
    "global_statement", "nonlocal_statement", "exec_statement", "type_alias_statement"]),
  ("import_statement", .seq [.text "import", .ref "_import_list"]),
  ("import_prefix", .repeat1 (.text ".")),
  ("relative_import", .seq [.ref "import_prefix", optional (.ref "dotted_name")]),
  ("future_import_statement", .seq [.text "from", .text "__future__", .text "import",
    .choice [.ref "_import_list", .seq [.text "(", .ref "_import_list", .text ")"]]]),
  ("import_from_statement", .seq [.text "from",
    .field "module_name" (anyRef ["relative_import", "dotted_name"]), .text "import",
    .choice [.ref "wildcard_import", .ref "_import_list",
      .seq [.text "(", .ref "_import_list", .text ")"]]]),
  ("_import_list", .seq [
    commaSep1 (.field "name" (anyRef ["dotted_name", "aliased_import"])), optional (.text ",")]),
  ("aliased_import", .seq [.field "name" (.ref "dotted_name"), .text "as",
    .field "alias" (.ref "identifier")]),
  ("wildcard_import", .text "*"),
  ("print_statement", .choice [
    .prec 1 none (.seq [.text "print", .ref "chevron",
      many (.seq [.text ",", .field "argument" (.ref "expression")]), optional (.text ",")]),
    .prec (-3) none (.dynamic (-1) (.seq [.text "print",
      commaSep1 (.field "argument" (.ref "expression")), optional (.text ",")]))]),
  ("chevron", .seq [.text ">>", .ref "expression"]),
  ("assert_statement", .seq [.text "assert", commaSep1 (.ref "expression")]),
  ("expression_statement", .choice [.ref "expression",
    .seq [commaSep1 (.ref "expression"), optional (.text ",")],
    .ref "assignment", .ref "augmented_assignment", .ref "yield"]),
  ("named_expression", .seq [.field "name" (.ref "_named_expression_lhs"), .text ":=",
    .field "value" (.ref "expression")]),
  ("_named_expression_lhs", anyRef ["identifier", "keyword_identifier"]),
  ("return_statement", .seq [.text "return", optional (.ref "_expressions")]),
  ("delete_statement", .seq [.text "del", .ref "_expressions"]),
  ("_expressions", anyRef ["expression", "expression_list"]),
  ("raise_statement", .seq [.text "raise", optional (.ref "_expressions"),
    optional (.seq [.text "from", .field "cause" (.ref "expression")])]),
  ("pass_statement", .prec 0 (some .left) (.text "pass")),
  ("break_statement", .prec 0 (some .left) (.text "break")),
  ("continue_statement", .prec 0 (some .left) (.text "continue"))]

/-- Compound statements and the definitions. -/
def compoundStatementRules : List (String × Rule) := [
  ("_compound_statement", anyRef ["if_statement", "for_statement", "while_statement",
    "try_statement", "with_statement", "function_definition", "class_definition",
    "decorated_definition", "match_statement"]),
  ("if_statement", .seq [.text "if", .field "condition" (.ref "expression"), .text ":",
    .field "consequence" (.ref "_suite"), many (.field "alternative" (.ref "elif_clause")),
    optional (.field "alternative" (.ref "else_clause"))]),
  ("elif_clause", .seq [.text "elif", .field "condition" (.ref "expression"), .text ":",
    .field "consequence" (.ref "_suite")]),
  ("else_clause", .seq [.text "else", .text ":", .field "body" (.ref "_suite")]),
  ("match_statement", .seq [.text "match", commaSep1 (.field "subject" (.ref "expression")),
    optional (.text ","), .text ":", .field "body" (shownAs (.ref "_match_block") "block")]),
  ("_match_block", .choice [
    .seq [.ref "_indent", many (.field "alternative" (.ref "case_clause")), .ref "_dedent"],
    .ref "_newline"]),
  ("case_clause", .seq [.text "case", commaSep1 (.ref "case_pattern"), optional (.text ","),
    optional (.field "guard" (.ref "if_clause")), .text ":",
    .field "consequence" (.ref "_suite")]),
  ("for_statement", .seq [optional (.text "async"), .text "for",
    .field "left" (.ref "_left_hand_side"), .text "in", .field "right" (.ref "_expressions"),
    .text ":", .field "body" (.ref "_suite"),
    .field "alternative" (optional (.ref "else_clause"))]),
  ("while_statement", .seq [.text "while", .field "condition" (.ref "expression"), .text ":",
    .field "body" (.ref "_suite"), optional (.field "alternative" (.ref "else_clause"))]),
  ("try_statement", .seq [.text "try", .text ":", .field "body" (.ref "_suite"), .choice [
    .seq [.repeat1 (.ref "except_clause"), optional (.ref "else_clause"),
      optional (.ref "finally_clause")],
    .seq [.repeat1 (.ref "except_group_clause"), optional (.ref "else_clause"),
      optional (.ref "finally_clause")],
    .ref "finally_clause"]]),
  ("except_clause", .seq [.text "except",
    optional (.seq [.field "value" (.ref "expression"),
      optional (.seq [anyText ["as", ","], .field "alias" (.ref "expression")])]),
    .text ":", .ref "_suite"]),
  ("except_group_clause", .seq [.text "except*",
    .seq [.ref "expression", optional (.seq [.text "as", .ref "expression"])],
    .text ":", .ref "_suite"]),
  ("finally_clause", .seq [.text "finally", .text ":", .ref "_suite"]),
  ("with_statement", .seq [optional (.text "async"), .text "with", .ref "with_clause", .text ":",
    .field "body" (.ref "_suite")]),
  ("with_clause", .choice [
    .seq [commaSep1 (.ref "with_item"), optional (.text ",")],
    .seq [.text "(", commaSep1 (.ref "with_item"), optional (.text ","), .text ")"]]),
  ("with_item", .dynamic 1 (.seq [.field "value" (.ref "expression")])),
  ("function_definition", .seq [optional (.text "async"), .text "def",
    .field "name" (.ref "identifier"),
    .field "type_parameters" (optional (.ref "type_parameter")),
    .field "parameters" (.ref "parameters"),
    optional (.seq [.text "->", .field "return_type" (.ref "type")]), .text ":",
    .field "body" (.ref "_suite")]),
  ("parameters", .seq [.text "(", optional (.ref "_parameters"), .text ")"]),
  ("lambda_parameters", .ref "_parameters"),
  ("list_splat", .seq [.text "*", .ref "expression"]),
  ("dictionary_splat", .seq [.text "**", .ref "expression"]),
  ("global_statement", .seq [.text "global", commaSep1 (.ref "identifier")]),
  ("nonlocal_statement", .seq [.text "nonlocal", commaSep1 (.ref "identifier")]),
  ("exec_statement", .seq [.text "exec", .field "code" (anyRef ["string", "identifier"]),
    optional (.seq [.text "in", commaSep1 (.ref "expression")])]),
  ("type_alias_statement", .dynamic 1 (.seq [.text "type", .field "left" (.ref "type"),
    .text "=", .field "right" (.ref "type")])),
  ("class_definition", .seq [.text "class", .field "name" (.ref "identifier"),
    .field "type_parameters" (optional (.ref "type_parameter")),
    .field "superclasses" (optional (.ref "argument_list")), .text ":",
    .field "body" (.ref "_suite")]),
  ("type_parameter", .seq [.text "[", commaSep1 (.ref "type"), optional (.text ","), .text "]"]),
  ("parenthesized_list_splat", .prec Level.parenthesized none (.seq [.text "(",
    .choice [shownAs (.ref "parenthesized_list_splat") "parenthesized_expression",
      .ref "list_splat"],
    .text ")"])),
  ("argument_list", .seq [.text "(", optional (commaSep1 (.choice [.ref "expression",
      .ref "list_splat", .ref "dictionary_splat",
      shownAs (.ref "parenthesized_list_splat") "parenthesized_expression",
      .ref "keyword_argument"])),
    optional (.text ","), .text ")"]),
  ("decorated_definition", .seq [.repeat1 (.ref "decorator"),
    .field "definition" (anyRef ["class_definition", "function_definition"])]),
  ("decorator", .seq [.text "@", .ref "expression", .ref "_newline"]),
  ("_suite", .choice [shownAs (.ref "_simple_statements") "block",
    .seq [.ref "_indent", .ref "block"], shownAs (.ref "_newline") "block"]),
  ("block", .seq [many (.ref "_statement"), .ref "_dedent"]),
  ("expression_list", .prec 0 (some .right) (.seq [.ref "expression", .choice [.text ",",
    .seq [.repeat1 (.seq [.text ",", .ref "expression"]), optional (.text ",")]]])),
  ("dotted_name", .prec 1 none (sepBy1 (.ref "identifier") (.text ".")))]

/-! ## Patterns -/

/-- The patterns of `case` clauses. -/
def casePatternRules : List (String × Rule) := [
  ("case_pattern", .prec 1 none (.choice [shownAs (.ref "_as_pattern") "as_pattern",
    .ref "keyword_pattern", .ref "_simple_pattern"])),
  ("_simple_pattern", .prec 1 none (.choice [.ref "class_pattern", .ref "splat_pattern",
    .ref "union_pattern", shownAs (.ref "_list_pattern") "list_pattern",
    shownAs (.ref "_tuple_pattern") "tuple_pattern", .ref "dict_pattern", .ref "string",
    .ref "concatenated_string", .ref "true", .ref "false", .ref "none",
    .seq [optional (.text "-"), anyRef ["integer", "float"]], .ref "complex_pattern",
    .ref "dotted_name", .text "_"])),
  ("_as_pattern", .seq [.ref "case_pattern", .text "as", .ref "identifier"]),
  ("union_pattern", .prec 0 (some .right) (.seq [.ref "_simple_pattern",
    .repeat1 (.prec 0 (some .left) (.seq [.text "|", .ref "_simple_pattern"]))])),
  ("_list_pattern", .seq [.text "[",
    optional (.seq [commaSep1 (.ref "case_pattern"), optional (.text ",")]), .text "]"]),
  ("_tuple_pattern", .seq [.text "(",
    optional (.seq [commaSep1 (.ref "case_pattern"), optional (.text ",")]), .text ")"]),
  ("dict_pattern", .seq [.text "\x7b",
    optional (.seq [commaSep1 (anyRef ["_key_value_pattern", "splat_pattern"]),
      optional (.text ",")]), .text "\x7d"]),
  ("_key_value_pattern", .seq [.field "key" (.ref "_simple_pattern"), .text ":",
    .field "value" (.ref "case_pattern")]),
  ("keyword_pattern", .seq [.ref "identifier", .text "=", .ref "_simple_pattern"]),
  ("splat_pattern", .prec 1 none (.seq [anyText ["*", "**"],
    .choice [.ref "identifier", .text "_"]])),
  ("class_pattern", .seq [.ref "dotted_name", .text "(",
    optional (.seq [commaSep1 (.ref "case_pattern"), optional (.text ",")]), .text ")"]),
  ("complex_pattern", .prec 1 none (.seq [optional (.text "-"), anyRef ["integer", "float"],
    anyText ["+", "-"], anyRef ["integer", "float"]]))]

/-- Parameters and assignment targets. -/
def targetRules : List (String × Rule) := [
  ("_parameters", .seq [commaSep1 (.ref "parameter"), optional (.text ",")]),
  ("_patterns", .seq [commaSep1 (.ref "pattern"), optional (.text ",")]),
  ("parameter", anyRef ["identifier", "typed_parameter", "default_parameter",
    "typed_default_parameter", "list_splat_pattern", "tuple_pattern", "keyword_separator",
    "positional_separator", "dictionary_splat_pattern"]),
  ("pattern", anyRef ["identifier", "keyword_identifier", "subscript", "attribute",
    "list_splat_pattern", "tuple_pattern", "list_pattern"]),
  ("tuple_pattern", .seq [.text "(", optional (.ref "_patterns"), .text ")"]),
  ("list_pattern", .seq [.text "[", optional (.ref "_patterns"), .text "]"]),
  ("default_parameter", .seq [.field "name" (anyRef ["identifier", "tuple_pattern"]), .text "=",
    .field "value" (.ref "expression")]),
  ("typed_default_parameter", .prec Level.typedParameter none (.seq [
    .field "name" (.ref "identifier"), .text ":", .field "type" (.ref "type"), .text "=",
    .field "value" (.ref "expression")])),
  ("list_splat_pattern", .seq [.text "*",
    anyRef ["identifier", "keyword_identifier", "subscript", "attribute"]]),
  ("dictionary_splat_pattern", .seq [.text "**",
    anyRef ["identifier", "keyword_identifier", "subscript", "attribute"]]),
  ("as_pattern", .prec 0 (some .left) (.seq [.ref "expression", .text "as",
    .field "alias" (shownAs (.ref "expression") "as_pattern_target")]))]

/-! ## Expressions -/

/-- Expressions and assignments. -/
def expressionRules : List (String × Rule) := [
  ("_expression_within_for_in_clause", .choice [.ref "expression",
    shownAs (.ref "lambda_within_for_in_clause") "lambda"]),
  ("expression", anyRef ["comparison_operator", "not_operator", "boolean_operator", "lambda",
    "primary_expression", "conditional_expression", "named_expression", "as_pattern"]),
  ("primary_expression", .choice [.ref "await", .ref "binary_operator", .ref "identifier",
    .ref "keyword_identifier", .ref "string", .ref "concatenated_string", .ref "integer",
    .ref "float", .ref "true", .ref "false", .ref "none", .ref "unary_operator",
    .ref "attribute", .ref "subscript", .ref "call", .ref "list", .ref "list_comprehension",
    .ref "dictionary", .ref "dictionary_comprehension", .ref "set", .ref "set_comprehension",
    .ref "tuple", .ref "parenthesized_expression", .ref "generator_expression",
    .ref "ellipsis", shownAs (.ref "list_splat_pattern") "list_splat"]),
  ("not_operator", .prec Level.not none (.seq [.text "not",
    .field "argument" (.ref "expression")])),
  ("boolean_operator", .choice [logicalOperator "and" Level.and, logicalOperator "or" Level.or]),
  ("binary_operator", .choice [
    leftOperator "+" Level.plus, leftOperator "-" Level.plus, leftOperator "*" Level.times,
    leftOperator "@" Level.times, leftOperator "/" Level.times, leftOperator "%" Level.times,
    leftOperator "//" Level.times, rightOperator "**" Level.power,
    leftOperator "|" Level.bitwiseOr, leftOperator "&" Level.bitwiseAnd,
    leftOperator "^" Level.xor, leftOperator "<<" Level.shift, leftOperator ">>" Level.shift]),
  ("unary_operator", .prec Level.unary none (.seq [.field "operator" (anyText ["+", "-", "~"]),
    .field "argument" (.ref "primary_expression")])),
  ("_not_in", .seq [.text "not", .text "in"]),
  ("_is_not", .seq [.text "is", .text "not"]),
  ("comparison_operator", .prec Level.compare (some .left) (.seq [.ref "primary_expression",
    .repeat1 (.seq [.field "operators" (.choice [.text "<", .text "<=", .text "==", .text "!=",
      .text ">=", .text ">", .text "<>", .text "in", .rename ⟨"not in", false⟩ (.ref "_not_in"),
      .text "is", .rename ⟨"is not", false⟩ (.ref "_is_not")]),
      .ref "primary_expression"])])),
  ("lambda", .prec Level.lambda none (.seq [.text "lambda",
    .field "parameters" (optional (.ref "lambda_parameters")), .text ":",
    .field "body" (.ref "expression")])),
  ("lambda_within_for_in_clause", .seq [.text "lambda",
    .field "parameters" (optional (.ref "lambda_parameters")), .text ":",
    .field "body" (.ref "_expression_within_for_in_clause")]),
  ("assignment", .seq [.field "left" (.ref "_left_hand_side"), .choice [
    .seq [.text "=", .field "right" (.ref "_right_hand_side")],
    .seq [.text ":", .field "type" (.ref "type")],
    .seq [.text ":", .field "type" (.ref "type"), .text "=",
      .field "right" (.ref "_right_hand_side")]]]),
  ("augmented_assignment", .seq [.field "left" (.ref "_left_hand_side"),
    .field "operator" (anyText ["+=", "-=", "*=", "/=", "@=", "//=", "%=", "**=", ">>=", "<<=",
      "&=", "^=", "|="]),
    .field "right" (.ref "_right_hand_side")]),
  ("_left_hand_side", anyRef ["pattern", "pattern_list"]),
  ("pattern_list", .seq [.ref "pattern", .choice [.text ",",
    .seq [.repeat1 (.seq [.text ",", .ref "pattern"]), optional (.text ",")]]]),
  ("_right_hand_side", anyRef ["expression", "expression_list", "assignment",
    "augmented_assignment", "pattern_list", "yield"]),
  ("yield", .prec 0 (some .right) (.seq [.text "yield", .choice [
    .seq [.text "from", .ref "expression"], optional (.ref "_expressions")]])),
  ("attribute", .prec Level.call none (.seq [.field "object" (.ref "primary_expression"),
    .text ".", .field "attribute" (.ref "identifier")])),
  ("subscript", .prec Level.call none (.seq [.field "value" (.ref "primary_expression"),
    .text "[", commaSep1 (.field "subscript" (anyRef ["expression", "slice"])),
    optional (.text ","), .text "]"])),
  ("slice", .seq [optional (.ref "expression"), .text ":", optional (.ref "expression"),
    optional (.seq [.text ":", optional (.ref "expression")])]),
  ("ellipsis", .text "..."),
  ("call", .prec Level.call none (.seq [.field "function" (.ref "primary_expression"),
    .field "arguments" (anyRef ["generator_expression", "argument_list"])])),
  ("typed_parameter", .prec Level.typedParameter none (.seq [
    anyRef ["identifier", "list_splat_pattern", "dictionary_splat_pattern"], .text ":",
    .field "type" (.ref "type")])),
  ("type", .choice [.prec 1 none (.ref "expression"), .ref "splat_type", .ref "generic_type",
    .ref "union_type", .ref "constrained_type", .ref "member_type"]),
  ("splat_type", .prec 1 none (.seq [anyText ["*", "**"], .ref "identifier"])),
  ("generic_type", .prec 1 none (.seq [
    .choice [.ref "identifier", shownAs (.text "type") "identifier"], .ref "type_parameter"])),
  ("union_type", .prec 0 (some .left) (.seq [.ref "type", .text "|", .ref "type"])),
  ("constrained_type", .prec 0 (some .right) (.seq [.ref "type", .text ":", .ref "type"])),
  ("member_type", .seq [.ref "type", .text ".", .ref "identifier"]),
  ("keyword_argument", .seq [.field "name" (anyRef ["identifier", "keyword_identifier"]),
    .text "=", .field "value" (.ref "expression")])]

/-! ## Literals -/

/-- Displays, comprehensions, strings, numbers and names. -/
def literalRules : List (String × Rule) := [
  ("list", .seq [.text "[", optional (.ref "_collection_elements"), .text "]"]),
  ("set", .seq [.text "\x7b", .ref "_collection_elements", .text "\x7d"]),
  ("tuple", .seq [.text "(", optional (.ref "_collection_elements"), .text ")"]),
  ("dictionary", .seq [.text "\x7b",
    optional (commaSep1 (anyRef ["pair", "dictionary_splat"])), optional (.text ","),
    .text "\x7d"]),
  ("pair", .seq [.field "key" (.ref "expression"), .text ":",
    .field "value" (.ref "expression")]),
  ("list_comprehension", .seq [.text "[", .field "body" (.ref "expression"),
    .ref "_comprehension_clauses", .text "]"]),
  ("dictionary_comprehension", .seq [.text "\x7b", .field "body" (.ref "pair"),
    .ref "_comprehension_clauses", .text "\x7d"]),
  ("set_comprehension", .seq [.text "\x7b", .field "body" (.ref "expression"),
    .ref "_comprehension_clauses", .text "\x7d"]),
  ("generator_expression", .seq [.text "(", .field "body" (.ref "expression"),
    .ref "_comprehension_clauses", .text ")"]),
  ("_comprehension_clauses", .seq [.ref "for_in_clause",
    many (anyRef ["for_in_clause", "if_clause"])]),
  ("parenthesized_expression", .prec Level.parenthesized none (.seq [.text "(",
    anyRef ["expression", "yield"], .text ")"])),
  ("_collection_elements", .seq [
    commaSep1 (anyRef ["expression", "yield", "list_splat", "parenthesized_list_splat"]),
    optional (.text ",")]),
  ("for_in_clause", .prec 0 (some .left) (.seq [optional (.text "async"), .text "for",
    .field "left" (.ref "_left_hand_side"), .text "in",
    .field "right" (commaSep1 (.ref "_expression_within_for_in_clause")),
    optional (.text ",")])),
  ("if_clause", .seq [.text "if", .ref "expression"]),
  ("conditional_expression", .prec Level.conditional (some .right) (.seq [.ref "expression",
    .text "if", .ref "expression", .text "else", .ref "expression"])),
  ("concatenated_string", .seq [.ref "string", .repeat1 (.ref "string")]),
  ("string", .seq [.ref "string_start", many (anyRef ["interpolation", "string_content"]),
    .ref "string_end"]),
  ("string_content", .prec 0 (some .right) (.repeat1 (anyRef ["escape_interpolation",
    "escape_sequence", "_not_escape_sequence", "_string_content"]))),
  ("interpolation", .seq [.text "\x7b", .field "expression" (.ref "_f_expression"),
    optional (.text "="),
    optional (.field "type_conversion" (.ref "type_conversion")),
    optional (.field "format_specifier" (.ref "format_specifier")), .text "\x7d"]),
  ("_f_expression", anyRef ["expression", "expression_list", "pattern_list", "yield"]),
  ("escape_sequence", .token escapeSequenceToken),
  ("_not_escape_sequence", .token loneBackslashToken),
  ("format_specifier", .seq [.text ":", many (.choice [.token formatTextToken,
    shownAs (.ref "interpolation") "format_expression"])]),
  ("type_conversion", .token typeConversionToken),
  ("integer", .token integerToken),
  ("float", .token floatToken),
  ("identifier", .token identifierToken),
  ("keyword_identifier", .choice [
    .prec (-3) none (shownAs (anyText ["print", "exec", "async", "await"]) "identifier"),
    shownAs (anyText ["type", "match"]) "identifier"]),
  ("true", .text "True"),
  ("false", .text "False"),
  ("none", .text "None"),
  ("await", .prec Level.unary none (.seq [.text "await", .ref "primary_expression"])),
  ("comment", .token commentToken),
  ("line_continuation", .token lineContinuationToken),
  ("positional_separator", .text "/"),
  ("keyword_separator", .text "*")]

/-! ## The grammar -/

/-- The characters skipped between tokens: blanks of ASCII, the byte order mark and two
invisible spaces. -/
def blanks : CharClass :=
  .union (.range '\t' '\r') (.anyOf " \ufeff\u2060\u200b")

/-- The grammar of Python source files. -/
def grammar : Source where
  rules := simpleStatementRules ++ compoundStatementRules ++ casePatternRules ++ targetRules ++
    expressionRules ++ literalRules
  extras := ["comment", "line_continuation"]
  blanks := blanks
  external := [.ref "_newline", .ref "_indent", .ref "_dedent", .ref "string_start",
    .ref "_string_content", .ref "escape_interpolation", .ref "string_end", .ref "comment",
    .text "]", .text ")", .text "\x7d", .text "except"]
  supertypes := ["_simple_statement", "_compound_statement", "expression", "primary_expression",
    "pattern", "parameter"]
  inlined := ["_simple_statement", "_compound_statement", "_suite", "_expressions",
    "_left_hand_side", "keyword_identifier"]
  word := "identifier"

end CodeCatalog.Python
