import BundleGraph.Script.Character

/-!
# Tokens of a script

A token is a word (a name or a keyword, told apart only where it matters), a mark, a
literal or a piece of a template or of markup text.  The vocabulary of reserved and
contextual words is here too.
-/

namespace BundleGraph.Script

/-- The marks: brackets, separators and operators. -/
inductive Mark where
  | openBrace | closeBrace | openParen | closeParen | openBracket | closeBracket
  | dot | ellipsis | semicolon | comma | colon | at | arrow
  | less | greater | lessEqual | greaterEqual
  | equal | notEqual | same | notSame
  | plus | minus | star | power | slash | percent | increment | decrement
  | shiftLeft | shiftRight | shiftRightFill
  | ampersand | pipe | caret | bang | tilde
  | bothAnd | eitherOr | question | optional | orElse
  | assign | plusAssign | minusAssign | starAssign | powerAssign | slashAssign | percentAssign
  | shiftLeftAssign | shiftRightAssign | shiftRightFillAssign
  | ampersandAssign | pipeAssign | caretAssign | bothAndAssign | eitherOrAssign | orElseAssign
  deriving DecidableEq, Repr

/-- What a token is. -/
inductive TokenKind where
  /-- The end of the text. -/
  | done
  /-- A name or keyword. -/
  | word
  /-- A name that starts with a number sign. -/
  | privateName
  | mark (m : Mark)
  | number
  | bigNumber
  | string
  | pattern
  /-- A stretch of a template; `last` when the template ends with it. -/
  | template (last : Bool)
  /-- A stretch of text inside markup. -/
  | markupText
  /-- Text that forms no token. -/
  | unknown
  deriving DecidableEq, Repr

/-- A token, with what the grammar asks of it. -/
structure Token where
  kind : TokenKind
  /-- The name, or the value of a string. -/
  text : String := ""
  /-- Whether a line ends between the token before and this one. -/
  afterNewline : Bool := false
  /-- Whether a name is written with an escape; for a template, whether an escape has no value. -/
  escaped : Bool := false
  deriving Repr

/-- Words that are never names. -/
def reservedWords : List String :=
  ["break", "case", "catch", "class", "const", "continue", "debugger", "default", "delete", "do",
    "else", "enum", "export", "extends", "false", "finally", "for", "function", "if", "import",
    "in", "instanceof", "new", "null", "return", "super", "switch", "this", "throw", "true", "try",
    "typeof", "var", "void", "while", "with"]

/-- Words kept from names in strict code, which is where they may not be exported either. -/
def strictWords : List String :=
  ["implements", "interface", "let", "package", "private", "protected", "public", "static", "yield"]

/-- Words with a meaning in some places and names elsewhere. -/
def contextualWords : List String :=
  ["as", "async", "await", "from", "get", "meta", "of", "set", "target", "accessor", "abstract",
    "any", "asserts", "assert", "bigint", "boolean", "constructor", "declare", "defer", "infer",
    "intrinsic", "is", "keyof", "module", "namespace", "never", "number", "object", "out",
    "override", "readonly", "require", "satisfies", "source", "string", "symbol", "type",
    "undefined", "unique", "unknown", "using", "global"]

/-- Whether a word is never a name. -/
def isReserved (w : String) : Bool :=
  reservedWords.contains w

/-- Whether a word has a meaning of its own somewhere in the grammar. -/
def isKeyword (w : String) : Bool :=
  isReserved w || strictWords.contains w || contextualWords.contains w

namespace Token

def isWord (t : Token) (w : String) : Bool :=
  t.kind == .word && t.text == w

def isOneOf (t : Token) (ws : List String) : Bool :=
  t.kind == .word && ws.contains t.text

def isMark (t : Token) (m : Mark) : Bool :=
  t.kind == .mark m

/-- Whether the token may name a variable: any word that is not reserved. -/
def isName (t : Token) : Bool :=
  t.kind == .word && !isReserved t.text

def isAnyWord (t : Token) : Bool :=
  t.kind == .word

/-- Whether a template starts or goes on at the token. -/
def isTemplate (t : Token) : Bool :=
  match t.kind with
  | .template _ => true
  | _ => false

def isNumber (t : Token) : Bool :=
  t.kind == .number || t.kind == .bigNumber

def isLiteral (t : Token) : Bool :=
  t.isNumber || t.kind == .string || t.kind == .pattern || t.kind == .template true ||
    t.isOneOf ["true", "false", "null"]

end Token

end BundleGraph.Script
