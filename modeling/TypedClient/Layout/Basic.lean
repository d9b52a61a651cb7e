namespace TypedClient.Layout

structure Break where
  blanks : Nat := 0
  /-- The indentation of the next line, relative to the box. -/
  offset : Int := 0
  before : String := ""
  after : String := ""
  closed : String := ""
  /-- No line ever breaks here; only measuring ends. -/
  never : Bool := false
deriving DecidableEq, Repr

inductive Token
  | word (s : String) (width : Nat)
  | break (b : Break)
  | open (flowing : Bool) (offset : Int)
  | close
deriving DecidableEq, Repr

abbrev Doc := List Token

def endless : Nat := 0xFFFF

def word (s : String) : Doc := [.word s s.utf8ByteSize]

def brk (b : Break) : Doc := [.break b]

/-- A break that is nothing without a line break. -/
def zero : Doc := brk {}

def space : Doc := brk { blanks := 1 }

def hard : Doc := brk { blanks := endless }

/-- The end of a measurement. -/
def never : Doc := brk { never := true }

/-- A box that opens all its breaks or none. A box with a single break and nothing else goes
away. -/
def box (offset : Int) (d : Doc) : Doc :=
  match d with
  | [.break _] => []
  | _ => .open false offset :: d ++ [.close]

def flow (offset : Int) (d : Doc) : Doc := .open true offset :: d ++ [.close]

def width : Doc → Nat
  | [] => 0
  | .word _ w :: d => w + width d
  | .break b :: d => b.blanks + width d
  | _ :: d => width d

def boxWithin (limit : Nat) (offset : Int) (d : Doc) : Doc :=
  box offset (if limit < width d then d ++ [.word "" endless] else d)

/-- The elements with commas between them. On lines of their own the last one has a comma too; the
break after it is given. -/
def commaSeparated (last : Break) : List Doc → Doc
  | [] => []
  | [d] => d ++ brk { last with before := "," }
  | d :: ds => d ++ word "," ++ space ++ commaSeparated last ds

def list (offset : Int) (ds : List Doc) : Doc :=
  if ds.isEmpty then [] else box offset (zero ++ commaSeparated { offset := -4 } ds)

def lines : List Doc → Doc
  | [] => []
  | [d] => d ++ brk { blanks := endless, offset := -4 }
  | d :: ds => d ++ hard ++ lines ds

def braces (head : Doc) (body : List Doc) : Doc :=
  box 4 (head ++ word "\x7b" ++ (if body.isEmpty then [] else hard ++ lines body)) ++ word "\x7d"

end TypedClient.Layout
