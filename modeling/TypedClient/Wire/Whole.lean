namespace TypedClient.Wire

structure Whole (bits : Nat) where
  value : Int
deriving DecidableEq, Repr

def Whole.fits (bits : Nat) (i : Int) : Bool :=
  let half : Int := Nat.pow 2 (bits - 1)
  i < half && -half ≤ i

end TypedClient.Wire
