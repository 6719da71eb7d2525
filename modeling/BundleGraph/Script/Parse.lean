import BundleGraph.Script.Grammar.Arrow
import BundleGraph.Script.Grammar.Statement

/-!
# Reading a script

The rules of the grammar ask for the parts of a construct by goals; here each goal gets
its rule.  Constructs nest no deeper than the text is long, so a number of levels
computed from the length is enough for every text.

## Main definitions

* `parse?` — the statements of a script, if it is one.
-/

namespace BundleGraph.Script

open BundleGraph.Script.Parser

/-- The rule for each goal, given the rules for the parts. -/
def rule (r : Rules) : Rules
  | .statement place => statement r place
  | .expression => expression r
  | .assignment arrowType => assignment r (typeParameters r) (returnType r) arrowType
  | .binary floor => binary r floor
  | .unary => unary r
  | .leftSide => leftSide r
  | .construct => construct r
  | .pattern => bindingPattern r
  | .element => bindingElement r
  | .function role async generator =>
    functionTail r (typeParameters r) (returnType r) role async generator
  | .classRest ms ds => classTail r (typeParameters r) ms ds
  | .decorator => decorator r
  | .block => blockStatement r
  | .body => functionBody r
  | .type => fullType r
  | .operandType => operandType r
  | .markup asChild => markup r asChild
  | .moduleBody =>
    within (fun s => { s with yields := false, returns := false }) (blockStatement r)

/-- The rules for constructs that nest at most `n` levels deep. -/
def rules : Nat → Rules
  | 0 => fun _ => failure
  | n + 1 => fun g => rule (rules n) g

/-- All statements of a text. -/
def program (r : Rules) : Parser (List Node) := do
  let ss ← statements r
  if (← token).kind == .done then return ss else failure

/-- A line that tells the system how to run the script, at its very start. -/
def dropRunLine : List Char → List Char
  | '#' :: '!' :: r => r.dropWhile (!isLineEnd ·)
  | cs => cs

/-- Whether a list of names has no repeats. -/
def distinct : List String → Bool
  | [] => true
  | n :: ns => !ns.contains n && distinct ns

/-- The checks on a whole script: every default in an object has become part of a pattern,
and, unless types are on, no name is exported twice. -/
def acceptable (d : Dialect) (ss : List Node) : Bool :=
  !Node.anyLooseDefault ss && (d.types || distinct (Node.allExportedNames ss))

/-- The statements of a script, or none if the text is no script of the dialect. -/
def parse? (d : Dialect) (text : String) : Option (List Node) :=
  let cs := dropRunLine text.toList
  let size := cs.length + 2
  match program (rules (16 * size)) { dialect := d, rounds := size } (startOf cs) with
  | some (ss, c) => if !c.faulty && acceptable d ss then some ss else none
  | none => none

end BundleGraph.Script
