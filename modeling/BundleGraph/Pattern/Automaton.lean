import BundleGraph.Pattern.Tree

/-!
# Matching

An expression becomes a list of instructions, and a text is read once while the set of
instructions reached is kept.  The time is the product of the length of the text and the
number of instructions, whatever the expression.

## Main definitions

* `emit` — the instructions of an expression.
* `Code.reach` — the instructions that lead on from a place between characters.
* `Code.foundIn` — whether some part of a text matches.
-/

namespace BundleGraph.Pattern

/-- An instruction; the numbers are indexes of others. -/
inductive Instruction where
  /-- Reads a character of a class. -/
  | take (c : CharClass) (next : Nat)
  /-- Goes on where a condition holds. -/
  | check (b : Boundary) (next : Nat)
  | fork (a b : Nat)
  | accept

/-- Instructions by index. -/
abbrev Code := Array Instruction

/-- Adds code that goes on at an index; the answer has the index where it starts. -/
abbrev Emit := Nat → Code → Nat × Code

/-- Adds code several times, one after the other. -/
def emitTimes (f : Emit) : Nat → Emit
  | 0 => fun next code => (next, code)
  | n + 1 => fun next code =>
    let (start, code) := emitTimes f n next code
    f start code

/-- Adds code that may be left out several times, one inside the other. -/
def emitOptional (f : Emit) : Nat → Emit
  | 0 => fun next code => (next, code)
  | n + 1 => fun next code =>
    let (inner, code) := emitOptional f n next code
    let (start, code) := f inner code
    (code.size, code.push (.fork start next))

/-- Adds code that runs any number of times. -/
def emitLoop (f : Emit) : Emit := fun next code =>
  let loop := code.size
  let (start, code) := f loop (code.push (.fork next next))
  (loop, code.setIfInBounds loop (.fork start next))

/-- Adds the code of an expression. -/
def emit : Expr → Emit
  | .nothing => fun next code => (next, code)
  | .one c => fun next code => (code.size, code.push (.take c next))
  | .edge b => fun next code => (code.size, code.push (.check b next))
  | .seq p q => fun next code =>
    let (start, code) := emit q next code
    emit p start code
  | .alt p q => fun next code =>
    let (first, code) := emit p next code
    let (second, code) := emit q next code
    (code.size, code.push (.fork first second))
  | .repeated p least none => fun next code =>
    let (start, code) := emitLoop (emit p) next code
    emitTimes (emit p) least start code
  | .repeated p least (some most) => fun next code =>
    let (start, code) := emitOptional (emit p) (most - least) next code
    emitTimes (emit p) least start code

/-- The code of a whole expression, and where it starts. -/
def compile (e : Expr) : Nat × Code :=
  emit e 0 #[.accept]

/-- What can be done at a place: the characters that can be read, and whether the match is
complete. -/
structure Reach where
  seen : Array Bool
  takes : List (CharClass × Nat) := []
  accepted : Bool := false

namespace Code

/-- Follows instructions that read nothing; every instruction is followed once, so as many
rounds as there are forks to follow are enough. -/
def follow (code : Code) (before after : Option Char) : Nat → List Nat → Reach → Reach
  | 0, _, r => r
  | _, [], r => r
  | n + 1, i :: is, r =>
    if r.seen.getD i true then follow code before after n is r
    else
      let r := { r with seen := r.seen.setIfInBounds i true }
      match code[i]? with
      | some (.take c next) => follow code before after n is { r with takes := (c, next) :: r.takes }
      | some (.check b next) =>
        if b.holds before after then follow code before after n (next :: is) r
        else follow code before after n is r
      | some (.fork a b) => follow code before after n (a :: b :: is) r
      | some .accept => follow code before after n is { r with accepted := true }
      | none => follow code before after n is r

/-- What can be done at a place from given instructions. -/
def reach (code : Code) (before after : Option Char) (starts : List Nat) : Reach :=
  follow code before after (2 * code.size + starts.length + 1) starts
    { seen := Array.replicate code.size false }

/-- Whether a match ends in a text, if one may also start anywhere in it; `starts` are the
instructions reached so far. -/
def foundFrom (code : Code) (entry : Nat) (before : Option Char) (starts : List Nat) :
    List Char → Bool
  | [] => (code.reach before none (starts ++ [entry])).accepted
  | c :: cs =>
    let r := code.reach before (some c) (starts ++ [entry])
    r.accepted ||
      foundFrom code entry (some c)
        ((r.takes.filter fun t => t.1.contains c).map (·.2)) cs

end Code

end BundleGraph.Pattern
