namespace TypedClient.Text

def inRuns (runs : List (Nat × Nat)) (n : Nat) : Bool :=
  runs.any fun run => run.1 ≤ n && n ≤ run.2

/-- Whether a code point is every second member of one of the runs, counted from its first. -/
def inAlternating (runs : List (Nat × Nat)) (n : Nat) : Bool :=
  runs.any fun run => run.1 ≤ n && n ≤ run.2 && (n - run.1) % 2 == 0

end TypedClient.Text
