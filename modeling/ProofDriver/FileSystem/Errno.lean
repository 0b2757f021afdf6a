import ProofDriver.Text.Quoted
/-!
# Refusals of the system

Why the system refuses an operation on files or the start of a process, with the path or the two
paths it was asked about.
-/

namespace ProofDriver

inductive Errno where
  | notPermitted
  | noEntry
  | tooManyArguments
  | notExecutable
  | outOfMemory
  | denied
  | busy
  | alreadyExists
  | notDirectory
  | isDirectory
  | nameTooLong
  deriving Repr, DecidableEq

def Errno.code : Errno → Nat
  | notPermitted => 1
  | noEntry => 2
  | tooManyArguments => 7
  | notExecutable => 8
  | outOfMemory => 12
  | denied => 13
  | busy => 16
  | alreadyExists => 17
  | notDirectory => 20
  | isDirectory => 21
  | nameTooLong => 36

def Errno.text : Errno → String
  | notPermitted => "Operation not permitted"
  | noEntry => "No such file or directory"
  | tooManyArguments => "Argument list too long"
  | notExecutable => "Exec format error"
  | outOfMemory => "Cannot allocate memory"
  | denied => "Permission denied"
  | busy => "Device or resource busy"
  | alreadyExists => "File exists"
  | notDirectory => "Not a directory"
  | isDirectory => "Is a directory"
  | nameTooLong => "File name too long"

structure OsError where
  errno : Errno
  path : String
  target : Option String := none
  deriving Repr, DecidableEq

def OsError.message (e : OsError) : String :=
  let shown :=
    "[Errno " ++ toString e.errno.code ++ "] " ++ e.errno.text ++ ": " ++ Text.quote e.path
  match e.target with
  | none => shown
  | some target => shown ++ " -> " ++ Text.quote target

end ProofDriver
