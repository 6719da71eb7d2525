import BundleGraph.Script.Lexer.Number
import BundleGraph.Script.Lexer.Quoted

/-!
# Reading tokens

`nextToken` skips blanks and comments and reads one token; the grammar calls the other
readers where a text must be read in another way: a pattern after a slash, the rest of a
template after a substitution, text between markup tags, the value of an attribute.
Every reader says what is left of the text and whether what it read is malformed.
-/

namespace BundleGraph.Script

/-- A token that was read. -/
structure Lexeme where
  token : Token
  rest : List Char
  fault : Bool := false

/-- Where a skip stands: between tokens, or in one of the two kinds of comment. -/
inductive Skipping where
  | between | line | block

/-- What a skip found. -/
structure Skipped where
  rest : List Char
  newline : Bool
  /-- Whether a comment is not ended. -/
  fault : Bool := false

/-- Skips blanks, line ends and comments. -/
def skip : Skipping → Bool → List Char → Skipped
  | .between, nl, '/' :: '/' :: r => skip .line nl r
  | .between, nl, '/' :: '*' :: r => skip .block nl r
  | .between, nl, c :: r =>
    if isLineEnd c then skip .between true r
    else if isBlank c then skip .between nl r
    else { rest := c :: r, newline := nl }
  | .line, nl, c :: r => if isLineEnd c then skip .between true r else skip .line nl r
  | .block, nl, '*' :: '/' :: r => skip .between nl r
  | .block, nl, c :: r => skip .block (nl || isLineEnd c) r
  | .block, nl, [] => { rest := [], newline := nl, fault := true }
  | _, nl, [] => { rest := [], newline := nl }

/-- The rest of a name in which escapes occur, latest character first. -/
def escapedName : Nat → List Char → List Char → Lexeme
  | 0, _, r => { token := { kind := .unknown }, rest := r, fault := true }
  | fuel + 1, acc, '\\' :: 'u' :: r =>
    match unicodeEscape r with
    | some (n, r') =>
      let c := Char.ofNat n
      let ok := if acc.isEmpty then isNameStart c else isNamePart c
      if ok ∧ ¬ isSurrogate n then escapedName fuel (c :: acc) r'
      else { token := { kind := .unknown }, rest := r', fault := true }
    | none => { token := { kind := .unknown }, rest := r, fault := true }
  | _ + 1, _, '\\' :: r => { token := { kind := .unknown }, rest := r, fault := true }
  | fuel + 1, acc, c :: r =>
    if isNamePart c then escapedName fuel (c :: acc) r
    else
      { token := { kind := .word, text := String.ofList acc.reverse, escaped := true }
        rest := c :: r }
  | _ + 1, acc, [] =>
    { token := { kind := .word, text := String.ofList acc.reverse, escaped := true }, rest := [] }

def readName (cs : List Char) : Lexeme :=
  let name := cs.takeWhile isNamePart
  let rest := cs.dropWhile isNamePart
  match rest with
  | '\\' :: _ => escapedName (rest.length + 1) name.reverse rest
  | _ => { token := { kind := .word, text := String.ofList name }, rest }

/-- Reads a string after its first quote. -/
def readString (q : Char) (cs : List Char) : Lexeme :=
  match cutString q [] cs with
  | none => { token := { kind := .unknown }, rest := [], fault := true }
  | some (body, rest) =>
    match decode false body with
    | some codes => { token := { kind := .string, text := ofCodes codes }, rest }
    | none => { token := { kind := .string }, rest, fault := true }

/-- Reads a stretch of a template, after the quote or brace that starts it. -/
def readTemplate (cs : List Char) : Lexeme :=
  match cutTemplate [] cs with
  | none => { token := { kind := .unknown }, rest := [], fault := true }
  | some cut =>
    { token := { kind := .template cut.last, escaped := (decode true cut.body).isNone }
      rest := cut.rest }

/-- The end of a pattern between slashes; a slash inside a class does not end it. -/
def patternEnd : Bool → List Char → Option (List Char)
  | _, [] => none
  | inClass, '\\' :: c :: r => if isLineEnd c then none else patternEnd inClass r
  | inClass, c :: r =>
    if isLineEnd c then none
    else if c = '/' ∧ ¬ inClass then some r
    else patternEnd (if c = '[' then true else if c = ']' then false else inClass) r

/-- Whether a pattern's flags are known and differ from each other. -/
def flagsValid : List Char → Bool
  | [] => true
  | c :: r => "dgimsuvy".contains c && !r.contains c && flagsValid r

/-- Reads a pattern with its flags, after its first slash; none if it has no end. -/
def readPattern (cs : List Char) : Option Lexeme :=
  (patternEnd false cs).map fun rest =>
    let isFlag := fun c : Char => isAsciiLetter c || c.isDigit || c == '$' || c == '_'
    { token := { kind := .pattern }
      rest := rest.dropWhile isFlag
      fault := !flagsValid (rest.takeWhile isFlag) }

/-- Reads a mark; the greater sign is always read alone. -/
def readMark : List Char → Option (Mark × List Char)
  | '{' :: r => some (.openBrace, r)
  | '}' :: r => some (.closeBrace, r)
  | '(' :: r => some (.openParen, r)
  | ')' :: r => some (.closeParen, r)
  | '[' :: r => some (.openBracket, r)
  | ']' :: r => some (.closeBracket, r)
  | ';' :: r => some (.semicolon, r)
  | ',' :: r => some (.comma, r)
  | ':' :: r => some (.colon, r)
  | '@' :: r => some (.at, r)
  | '~' :: r => some (.tilde, r)
  | '.' :: '.' :: '.' :: r => some (.ellipsis, r)
  | '.' :: r => some (.dot, r)
  | '<' :: '<' :: '=' :: r => some (.shiftLeftAssign, r)
  | '<' :: '<' :: r => some (.shiftLeft, r)
  | '<' :: '=' :: r => some (.lessEqual, r)
  | '<' :: r => some (.less, r)
  | '>' :: r => some (.greater, r)
  | '=' :: '=' :: '=' :: r => some (.same, r)
  | '=' :: '=' :: r => some (.equal, r)
  | '=' :: '>' :: r => some (.arrow, r)
  | '=' :: r => some (.assign, r)
  | '!' :: '=' :: '=' :: r => some (.notSame, r)
  | '!' :: '=' :: r => some (.notEqual, r)
  | '!' :: r => some (.bang, r)
  | '+' :: '+' :: r => some (.increment, r)
  | '+' :: '=' :: r => some (.plusAssign, r)
  | '+' :: r => some (.plus, r)
  | '-' :: '-' :: r => some (.decrement, r)
  | '-' :: '=' :: r => some (.minusAssign, r)
  | '-' :: r => some (.minus, r)
  | '*' :: '*' :: '=' :: r => some (.powerAssign, r)
  | '*' :: '*' :: r => some (.power, r)
  | '*' :: '=' :: r => some (.starAssign, r)
  | '*' :: r => some (.star, r)
  | '/' :: '=' :: r => some (.slashAssign, r)
  | '/' :: r => some (.slash, r)
  | '%' :: '=' :: r => some (.percentAssign, r)
  | '%' :: r => some (.percent, r)
  | '&' :: '&' :: '=' :: r => some (.bothAndAssign, r)
  | '&' :: '&' :: r => some (.bothAnd, r)
  | '&' :: '=' :: r => some (.ampersandAssign, r)
  | '&' :: r => some (.ampersand, r)
  | '|' :: '|' :: '=' :: r => some (.eitherOrAssign, r)
  | '|' :: '|' :: r => some (.eitherOr, r)
  | '|' :: '=' :: r => some (.pipeAssign, r)
  | '|' :: r => some (.pipe, r)
  | '^' :: '=' :: r => some (.caretAssign, r)
  | '^' :: r => some (.caret, r)
  | '?' :: '?' :: '=' :: r => some (.orElseAssign, r)
  | '?' :: '?' :: r => some (.orElse, r)
  | '?' :: '.' :: c :: r =>
    if c.isDigit then some (.question, '.' :: c :: r) else some (.optional, c :: r)
  | '?' :: '.' :: [] => some (.optional, [])
  | '?' :: r => some (.question, r)
  | _ => none

/-- The longest mark that starts with the greater sign, after that sign. -/
def longGreater : List Char → Mark × List Char
  | '>' :: '>' :: '=' :: r => (.shiftRightFillAssign, r)
  | '>' :: '>' :: r => (.shiftRightFill, r)
  | '>' :: '=' :: r => (.shiftRightAssign, r)
  | '>' :: r => (.shiftRight, r)
  | '=' :: r => (.greaterEqual, r)
  | r => (.greater, r)

/-- Reads a number after its first digit. -/
def readNumber (cut : NumberCut) : Lexeme :=
  { token := { kind := if cut.big then .bigNumber else .number }
    rest := cut.rest
    fault := cut.fault }

/-- Reads the token at the start of a text that starts with no blank. -/
def readToken (cs : List Char) : Lexeme :=
  match cs with
  | [] => { token := { kind := .done }, rest := [] }
  | '"' :: r => readString '"' r
  | '\'' :: r => readString '\'' r
  | '`' :: r => readTemplate r
  | '#' :: r =>
    let starts := match r with
      | c :: _ => isNameStart c || c == '\\'
      | [] => false
    if starts then
      let name := readName r
      if name.token.kind == .word then
        { name with token := { name.token with kind := .privateName } }
      else name
    else { token := { kind := .unknown }, rest := r, fault := true }
  | '\\' :: _ => readName cs
  | '.' :: c :: r =>
    if c.isDigit then readNumber (fractionFirst (c :: r)) else marked
  | c :: r =>
    if isNameStart c then readName cs
    else if c.isDigit then readNumber (cutNumber c r)
    else marked
where
  /-- The mark at the start, or a character that starts no token. -/
  marked : Lexeme :=
    match readMark cs with
    | some (m, r) => { token := { kind := .mark m }, rest := r }
    | none => { token := { kind := .unknown }, rest := cs.drop 1, fault := true }

/-- Notes on a lexeme what was skipped before it. -/
def Lexeme.afterSkip (l : Lexeme) (s : Skipped) : Lexeme :=
  { l with token := { l.token with afterNewline := s.newline }, fault := s.fault || l.fault }

def nextToken (cs : List Char) : List Char × Lexeme :=
  let s := skip .between false cs
  (s.rest, (readToken s.rest).afterSkip s)

/-- Reads what may stand between two markup tags: text, a tag or a braced expression.
The closing signs may not stand in text. -/
def markupChild (cs : List Char) : Lexeme :=
  match cs with
  | [] => { token := { kind := .done }, rest := [] }
  | '<' :: r => { token := { kind := .mark .less }, rest := r }
  | '{' :: r => { token := { kind := .mark .openBrace }, rest := r }
  | _ =>
    let isText := fun c : Char => c != '<' && c != '{' && c != '>' && c != '}'
    let rest := cs.dropWhile isText
    match rest with
    | '>' :: r => { token := { kind := .markupText }, rest := r, fault := true }
    | '}' :: r => { token := { kind := .markupText }, rest := r, fault := true }
    | _ => { token := { kind := .markupText }, rest }

/-- Reads the value of an attribute: a quoted text without escapes, or any token. -/
def attributeValue (cs : List Char) : List Char × Lexeme :=
  let s := skip .between false cs
  let quoted := fun (q : Char) (r : List Char) =>
    match r.dropWhile (· != q) with
    | _ :: rest => { token := { kind := .string }, rest : Lexeme }
    | [] => { token := { kind := .unknown }, rest := [], fault := true }
  let lexeme :=
    match s.rest with
    | '"' :: r => quoted '"' r
    | '\'' :: r => quoted '\'' r
    | r => readToken r
  (s.rest, lexeme.afterSkip s)

/-- The rest of a markup name, in which hyphens may occur. -/
def markupNameEnd (cs : List Char) : List Char :=
  cs.dropWhile fun c => isNamePart c || c == '-'

end BundleGraph.Script
