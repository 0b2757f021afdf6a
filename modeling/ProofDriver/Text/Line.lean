/-!
# Lines

A text is cut after each line break. A carriage return followed by a line feed is one break, and a
text that ends in a break has no empty line after it.
-/

namespace ProofDriver.Text

def isLineBreak (c : Char) : Bool :=
  let n := c.toNat
  (0x0a ≤ n && n ≤ 0x0d) || (0x1c ≤ n && n ≤ 0x1e) || n == 0x85 || n == 0x2028 || n == 0x2029

def splitLines : List Char → List (List Char)
  | [] => []
  | '\r' :: '\n' :: rest => [] :: splitLines rest
  | c :: rest =>
    if isLineBreak c then [] :: splitLines rest
    else
      match splitLines rest with
      | [] => [[c]]
      | line :: lines => (c :: line) :: lines

@[simp] theorem splitLines_nil : splitLines [] = [] := rfl

/-- The one line break that is left when a text file is read: `\r\n` and `\r` become `\n`. -/
def unifyLineBreaks : List Char → List Char :=
  go []
where
  go (done : List Char) : List Char → List Char
    | [] => done.reverse
    | '\r' :: '\n' :: rest => go ('\n' :: done) rest
    | c :: rest => go ((if c = '\r' then '\n' else c) :: done) rest

end ProofDriver.Text
