import TypedClient.Layout.Basic

namespace TypedClient.Layout

def margin : Int := 89

/-- The least space that a line gives, however far it is indented. -/
def leastSpace : Int := 60

/-- How far the text reaches before the next break at this level or outside of it, where `depth`
boxes are still to be closed before this level. -/
def reach : Nat → Doc → Nat
  | _, [] => 0
  | depth, .word _ w :: d => w + reach depth d
  | depth, .open .. :: d => reach (depth + 1) d
  | depth, .close :: d => reach (depth - 1) d
  | 0, .break _ :: _ => 0
  | depth + 1, .break b :: d => b.blanks + reach (depth + 1) d

inductive Frame
  | fits
  /-- All breaks open, or those that need it; and the indentation to return to. -/
  | broken (flowing : Bool) (indent : Int)
deriving DecidableEq, Repr

structure State where
  space : Int := margin
  indent : Int := 0
  pending : Nat := 0
  frames : List Frame := []
deriving Repr

def blanks (n : Nat) : String := "".pushn ' ' n

def staysClosed (s : State) (b : Break) (size : Nat) : Bool :=
  b.never || match s.frames with
    | .fits :: _ => true
    | .broken false _ :: _ => false
    | .broken true _ :: _ | [] => size ≤ s.space

def spaced (pending : Nat) (s : String) : List String :=
  if s.isEmpty then [] else [blanks pending, s]

def pieces (s : State) : Doc → List String
  | [] => []
  | .word t w :: d =>
    blanks s.pending :: t :: pieces { s with space := s.space - w, pending := 0 } d
  | .open flowing offset :: d =>
    if s.space < reach 1 d then
      pieces { s with
        frames := .broken flowing s.indent :: s.frames
        indent := s.indent + offset } d
    else pieces { s with frames := .fits :: s.frames } d
  | .close :: d =>
    match s.frames with
    | .broken _ indent :: frames => pieces { s with frames, indent } d
    | _ => pieces { s with frames := s.frames.tail } d
  | .break b :: d =>
    if staysClosed s b (b.blanks + reach 0 d) then
      b.closed :: pieces { s with
        space := s.space - b.blanks - b.closed.utf8ByteSize, pending := s.pending + b.blanks } d
    else
      let indent := (s.indent + b.offset).toNat
      spaced s.pending b.before ++ "\n" :: spaced indent b.after ++ pieces { s with
        space := max (margin - indent) leastSpace - b.after.utf8ByteSize
        pending := if b.after.isEmpty then indent else 0 } d

def render (d : Doc) : String := String.join (pieces {} d) ++ "\n"

end TypedClient.Layout
