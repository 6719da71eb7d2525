import BundleGraph.ContentKind
import BundleGraph.Path

/-!
# Settings of a build

What files and variables can say about a build.
-/

namespace BundleGraph

/-- The format of the modules written. -/
inductive OutputFormat where
  | esm
  | cjs
  | iife
  deriving DecidableEq, Repr

namespace OutputFormat

def all : List OutputFormat := [.esm, .cjs, .iife]

def name : OutputFormat → String
  | .esm => "esm"
  | .cjs => "cjs"
  | .iife => "iife"

def ofName? (s : String) : Option OutputFormat :=
  all.find? fun f => f.name == s

end OutputFormat

/-- Where the result is to run. -/
inductive Platform where
  | browser
  | node
  | neutral
  deriving DecidableEq, Repr

namespace Platform

def all : List Platform := [.browser, .node, .neutral]

def name : Platform → String
  | .browser => "browser"
  | .node => "node"
  | .neutral => "neutral"

def ofName? (s : String) : Option Platform :=
  all.find? fun p => p.name == s

end Platform

/-- The number of modules a build may have unless told otherwise. -/
def defaultMaxModules : Nat := 100000

/-- The settings of a build, each with its default. -/
structure Settings where
  entries : List String := []
  /-- Whether imports are followed. -/
  bundle : Bool := true
  outfile : Option Path := none
  outdir : Option Path := none
  format : OutputFormat := .esm
  platform : Platform := .browser
  /-- Specifiers that stay outside the build. -/
  external : List String := []
  /-- Names of content kinds by extension, in the order of the extensions as written. -/
  loaders : List (String × String) := []
  cwd : Option Path := none
  maxModules : Nat := defaultMaxModules
  logLevel : Option String := none
  deriving DecidableEq, Repr

end BundleGraph
