/-!
# Options

The grammar of a command line. A long option has its value after an equals sign or in the next
argument, a short one right behind it or in the next argument; short options without values can
share one dash. Two dashes end the options, which may stand among the other arguments. That is how
`click` documents its parser; what it prints about usage is left out.
-/

namespace ProofDriver.Cli

inductive Topic where
  | n
  | mode
  | output
  | prover
  | proverPath
  | elf
  | dev
  | noDev
  | verbose
  | quiet
  | help
  deriving Repr, DecidableEq

structure Spec where
  topic : Topic
  long : String
  short : Option Char := none
  takesValue : Bool := true
  deriving Repr

/-- An option as it was given; one that takes no value has the empty text. -/
structure Given where
  topic : Topic
  value : String := ""
  deriving Repr, DecidableEq

def splitEquals (cs : List Char) : List Char × Option (List Char) :=
  match cs.dropWhile (· != '=') with
  | [] => (cs, none)
  | _ :: value => (cs.takeWhile (· != '='), some value)

def findLong (specs : List Spec) (name : List Char) : Option Spec :=
  specs.find? fun s => s.long.toList == name

def findShort (specs : List Spec) (c : Char) : Option Spec :=
  specs.find? fun s => s.short == some c

def cluster (specs : List Spec) : List Char → Option (List Given × Option Topic)
  | [] => some ([], none)
  | c :: rest =>
    match findShort specs c with
    | none => none
    | some s =>
      if s.takesValue then
        if rest.isEmpty then some ([], some s.topic)
        else some ([⟨s.topic, String.ofList rest⟩], none)
      else
        match cluster specs rest with
        | none => none
        | some (given, pending) => some (⟨s.topic, ""⟩ :: given, pending)

def readOption (specs : List Spec) (arg : List Char) : Option (List Given × Option Topic) :=
  let (name, value) := splitEquals arg
  match findLong specs name, value with
  | some s, some v => if s.takesValue then some ([⟨s.topic, String.ofList v⟩], none) else none
  | some s, none => if s.takesValue then some ([], some s.topic) else some ([⟨s.topic, ""⟩], none)
  | none, _ =>
    match arg with
    | '-' :: '-' :: _ => none
    | _ => cluster specs arg.tail

def isOption (arg : String) : Bool :=
  match arg.toList with
  | '-' :: _ :: _ => true
  | _ => false

/-- The options in their order and the other arguments. There is no reading for an unknown option, a
missing value, or a value that is not wanted. -/
def readArguments (specs : List Spec) (given : List Given) (others : List String) :
    List String → Option (List Given × List String)
  | [] => some (given.reverse, others.reverse)
  | arg :: rest =>
    if arg = "--" then some (given.reverse, others.reverse ++ rest)
    else if isOption arg then
      match readOption specs arg.toList with
      | none => none
      | some (more, none) => readArguments specs (more.reverse ++ given) others rest
      | some (more, some topic) =>
        match rest with
        | [] => none
        | value :: rest =>
          readArguments specs (⟨topic, value⟩ :: (more.reverse ++ given)) others rest
    else readArguments specs given (arg :: others) rest

def last? (given : List Given) (topic : Topic) : Option String :=
  (given.reverse.find? (·.topic == topic)).map (·.value)

end ProofDriver.Cli
