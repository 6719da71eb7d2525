import BundleGraph.Pattern.Reader

/-!
# Reading classes in brackets

A class in brackets holds characters, ranges, named classes and further brackets, and
these can be combined by the operations on sets, which are read from the left.

## Main definitions

* `asciiClass?` — a named class of ASCII such as `[:alpha:]`.
* `readBrackets` — a class in brackets.
-/

namespace BundleGraph.Pattern

/-- A class, and how deep brackets and operations nest in it. -/
structure ClassItem where
  members : CharClass
  depth : Nat

/-! ## Named classes of ASCII -/

def asciiClassNamed? (name : String) : Option CharClass :=
  match name with
  | "alnum" => some (.ofRanges [('0', '9'), ('A', 'Z'), ('a', 'z')])
  | "alpha" => some (.ofRanges [('A', 'Z'), ('a', 'z')])
  | "ascii" => some .ascii
  | "blank" => some (.ofRanges [('\t', '\t'), (' ', ' ')])
  | "cntrl" => some (.ofRanges [('\x00', '\x1f'), ('\x7f', '\x7f')])
  | "digit" => some (.ofRanges [('0', '9')])
  | "graph" => some (.ofRanges [('!', '~')])
  | "lower" => some (.ofRanges [('a', 'z')])
  | "print" => some (.ofRanges [(' ', '~')])
  | "punct" => some (.ofRanges [('!', '/'), (':', '@'), ('[', '\x60'), ('{', '~')])
  | "space" => some asciiSpace
  | "upper" => some (.ofRanges [('A', 'Z')])
  | "word" => some asciiWord
  | "xdigit" => some (.ofRanges [('0', '9'), ('A', 'F'), ('a', 'f')])
  | _ => none

/-- The named class that a text starts with, whether it is negated, and what follows. -/
def asciiClass? (cs : List Char) : Option (CharClass × Bool × List Char) :=
  match cs with
  | '[' :: ':' :: r =>
    let negated := r.head? == some '^'
    let r := if negated then r.drop 1 else r
    match r.dropWhile (· != ':') with
    | ':' :: ']' :: after =>
      (asciiClassNamed? (String.ofList (r.takeWhile (· != ':')))).map (·, negated, after)
    | _ => none
  | _ => none

/-! ## Members -/

/-- Reads a character or an escape. -/
def readMember : Reader Primitive := do
  let c ← peek
  skipOne
  if c = '\\' then readEscape else return .literal c false

/-- The code point of an end of a range. -/
def endOf : Primitive → Reader Nat
  | .literal c _ => do
    require ((← flags).unicode || decide (c.toNat < 0x80))
    return c.toNat
  | _ => failure

/-- The class of a member that is no range. -/
def classOf : Primitive → Reader CharClass
  | .literal c byte => do
    let n ← endOf (.literal c byte)
    return .range n n
  | .charClass c => return c
  | .edge _ => failure

/-- Reads a member or a range. -/
def readRange : Reader CharClass := do
  let first ← readMember
  skipSpace
  let c ← peek
  let verbose := (← flags).verbose
  let after := (← rest).drop 1
  let next := (if verbose then dropComments false after else after).head?
  if c != '-' || next == some ']' || next == some '-' then classOf first
  else
    skip
    let lo ← endOf first
    let hi ← endOf (← readMember)
    require (decide (lo ≤ hi))
    return .range lo hi

/-! ## Sets -/

/-- The class of the members read, the latest of which comes first. -/
def ClassItem.ofMembers (items : List ClassItem) : ClassItem :=
  match items with
  | [] => ⟨.empty, 0⟩
  | [i] => i
  | is => ⟨.unionOf (is.map ClassItem.members), (is.map ClassItem.depth).foldl max 0 + 1⟩

/-- A set operation that waits for its second operand. -/
structure PendingSet where
  combine : CharClass → CharClass → CharClass
  left : ClassItem

/-- The class with case ignored, if the flags say so. -/
def fold (c : CharClass) : Reader CharClass :=
  foldAndNegate false c

/-- Applies the operation that waits, if there is one. -/
def completeSet (pending : Option PendingSet) (right : ClassItem) : Reader ClassItem := do
  match pending with
  | none => return right
  | some p =>
    let left ← fold p.left.members
    let r ← fold right.members
    return ⟨p.combine left r, max p.left.depth right.depth + 1⟩

def setOperation? : List Char → Option (CharClass → CharClass → CharClass)
  | '&' :: '&' :: _ => some .both
  | '-' :: '-' :: _ => some .less
  | '~' :: '~' :: _ => some .differing
  | _ => none

/-- Reads the dashes that stand for themselves at the start of a class. -/
def readDashes : Nat → List ClassItem → Reader (List ClassItem)
  | 0, items => return items
  | fuel + 1, items => do
    if (← peek) = '-' then
      skip
      readDashes fuel (⟨.single '-', 0⟩ :: items)
    else return items

/-- What is read next of a class in brackets. -/
inductive ClassPart where
  /-- A class from its opening bracket. -/
  | opening
  /-- The members after those read, up to the closing bracket. -/
  | members (pending : Option PendingSet) (items : List ClassItem)

/-- Reads a part of a class in brackets; `fuel` bounds the number of parts. -/
def readClassPart : Nat → ClassPart → Reader ClassItem
  | 0, _ => failure
  | fuel + 1, .opening => do
    skip
    let negated := (← peek) = '^'
    if negated then skip
    let dashes ← readDashes (← rest).length []
    let closing := dashes.isEmpty && (← peek) = ']'
    if closing then skip
    let start : List ClassItem := if closing then [⟨.single ']', 0⟩] else dashes
    let inner ← readClassPart fuel (.members none start)
    let members ← foldAndNegate negated inner.members
    return ⟨members, inner.depth + 1⟩
  | fuel + 1, .members pending items => do
    skipSpace
    let cs ← rest
    match setOperation? cs with
    | some combine =>
      setRest (cs.drop 2)
      let left ← completeSet pending (.ofMembers items)
      readClassPart fuel (.members (some ⟨combine, left⟩) [])
    | none =>
      let c ← peek
      if c = ']' then
        skipOne
        completeSet pending (.ofMembers items)
      else if c = '[' then
        match asciiClass? cs with
        | some (k, negated, after) =>
          setRest after
          let members ← foldAndNegate negated k
          readClassPart fuel (.members pending (⟨members, 0⟩ :: items))
        | none =>
          let nested ← readClassPart fuel .opening
          readClassPart fuel (.members pending (nested :: items))
      else
        let members ← readRange
        readClassPart fuel (.members pending (⟨members, 0⟩ :: items))

/-- Reads a class in brackets. -/
def readBrackets : Reader ClassItem := do
  readClassPart (2 * (← rest).length + 2) .opening

end BundleGraph.Pattern
