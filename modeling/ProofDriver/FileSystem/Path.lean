/-!
# Paths

A path is where it starts and the names that lead on from there. Empty names and single dots say
nothing and are left out; double dots stay, for where they lead depends on the directories.
-/

namespace ProofDriver

/-- Two slashes at the beginning, and no third, are a root of their own. -/
inductive PathRoot where
  | relative
  | root
  | doubleRoot
  deriving Repr, DecidableEq

structure Path where
  root : PathRoot
  parts : List String
  deriving Repr, DecidableEq

namespace Path

def splitSlashes : List Char → List (List Char)
  | [] => [[]]
  | c :: rest =>
    if c = '/' then [] :: splitSlashes rest
    else
      match splitSlashes rest with
      | [] => [[c]]
      | part :: parts => (c :: part) :: parts

def rootOf : List Char → PathRoot
  | '/' :: '/' :: '/' :: _ => .root
  | '/' :: '/' :: _ => .doubleRoot
  | '/' :: _ => .root
  | _ => .relative

def ofString (s : String) : Path :=
  let cs := s.toList
  { root := rootOf cs
    parts := ((splitSlashes cs).filter fun p => p ≠ [] ∧ p ≠ ['.']).map String.ofList }

def PathRoot.text : PathRoot → String
  | .relative => ""
  | .root => "/"
  | .doubleRoot => "//"

def render (p : Path) : String :=
  if p.root = .relative ∧ p.parts = [] then "."
  else PathRoot.text p.root ++ "/".intercalate p.parts

def parent (p : Path) : Path :=
  { p with parts := p.parts.dropLast }

def name (p : Path) : String :=
  p.parts.getLast?.getD ""

def child (p : Path) (name : String) : Path :=
  { p with parts := p.parts ++ [name] }

end Path

end ProofDriver
