namespace TypedClient.Wire

structure PointInTime where
  isBeforeEpoch : Bool
  seconds : Nat
  nanoseconds : Nat
deriving DecidableEq, Repr

def ofEpochMillis (millis : Int) : PointInTime :=
  ⟨millis < 0, millis.natAbs / 1000, millis.natAbs % 1000 * 1000000⟩

end TypedClient.Wire
