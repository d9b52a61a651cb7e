import TypedClient.Text.Cased
import TypedClient.Text.LetterCase
import TypedClient.Text.Lowercase

namespace TypedClient.Text

/-- The Unicode property White_Space. -/
def isBlank (c : Char) : Bool :=
  inRuns [(0x9, 0xD), (0x20, 0x20), (0x85, 0x85), (0xA0, 0xA0), (0x1680, 0x1680), (0x2000, 0x200A),
    (0x2028, 0x2029), (0x202F, 0x202F), (0x205F, 0x205F), (0x3000, 0x3000)] c.toNat

def trimStart (cs : List Char) : List Char := cs.dropWhile isBlank

def trimEnd (cs : List Char) : List Char := (cs.reverse.dropWhile isBlank).reverse

def trim (cs : List Char) : List Char := trimEnd (trimStart cs)

theorem length_trim_le (cs : List Char) : (trim cs).length ≤ cs.length := by
  have h := (List.dropWhile_sublist isBlank (l := (trimStart cs).reverse)).length_le
  have h' := (List.dropWhile_sublist isBlank (l := cs)).length_le
  simp only [trim, trimEnd, List.length_reverse] at *
  exact Nat.le_trans h h'

theorem isBlank_of_mem_takeWhile {cs : List Char} {c : Char} (h : c ∈ cs.takeWhile isBlank) :
    isBlank c := List.all_eq_true.1 List.all_takeWhile c h

theorem exists_eq_append_trim (cs : List Char) :
    ∃ before after, (∀ c ∈ before ++ after, isBlank c) ∧ cs = before ++ trim cs ++ after := by
  have hs : cs = cs.takeWhile isBlank ++ trimStart cs := List.takeWhile_append_dropWhile.symm
  have he : trimStart cs = trim cs ++ ((trimStart cs).reverse.takeWhile isBlank).reverse := by
    rw [trim, trimEnd, ← List.reverse_append, List.takeWhile_append_dropWhile, List.reverse_reverse]
  refine ⟨cs.takeWhile isBlank, ((trimStart cs).reverse.takeWhile isBlank).reverse, ?_, ?_⟩
  · intro c hc
    rw [List.mem_append, List.mem_reverse] at hc
    rcases hc with h | h <;> exact isBlank_of_mem_takeWhile h
  · rw [List.append_assoc, ← he]
    exact hs

def dropEnd (c : Char) (cs : List Char) : List Char := (cs.reverse.dropWhile (· == c)).reverse

/-- The pieces between the separators: always one more than there are separators. -/
def splitAt (sep : Char) : List Char → List (List Char)
  | [] => [[]]
  | c :: cs =>
    if c = sep then [] :: splitAt sep cs
    else match splitAt sep cs with
      | [] => [[c]]
      | piece :: pieces => (c :: piece) :: pieces

def splitAtLast (sep : Char) (cs : List Char) : Option (List Char × List Char) :=
  match cs.reverse.span (· != sep) with
  | (_, []) => none
  | (after, _ :: before) => some (before.reverse, after.reverse)

def dropStart? : List Char → List Char → Option (List Char)
  | [], cs => some cs
  | s :: start, c :: cs => if s = c then dropStart? start cs else none
  | _ :: _, [] => none

theorem dropStart?_eq_some_iff {start cs rest : List Char} :
    dropStart? start cs = some rest ↔ cs = start ++ rest := by
  induction start generalizing cs with
  | nil => simp [dropStart?]
  | cons s start ih =>
    cases cs with
    | nil => simp [dropStart?]
    | cons c cs => by_cases h : s = c <;> simp [dropStart?, h, ih, eq_comm (a := c)]

def dropStop? (stop cs : List Char) : Option (List Char) :=
  (dropStart? stop.reverse cs.reverse).map List.reverse

theorem dropStop?_eq_some_iff {stop cs rest : List Char} :
    dropStop? stop cs = some rest ↔ cs = rest ++ stop := by
  unfold dropStop?
  rw [Option.map_eq_some_iff]
  constructor
  · rintro ⟨r, hr, rfl⟩
    simpa using congrArg List.reverse (dropStart?_eq_some_iff.1 hr)
  · rintro rfl
    exact ⟨rest.reverse, dropStart?_eq_some_iff.2 (by simp), by simp⟩

def after? (pattern : List Char) : List Char → Option (List Char)
  | [] => dropStart? pattern []
  | c :: cs => (dropStart? pattern (c :: cs)).orElse fun _ => after? pattern cs

def uppercase (cs : List Char) : List Char := cs.flatMap toUpper

def leadsToCased (cs : List Char) : Bool :=
  match cs.dropWhile isCaseIgnorable with
  | [] => false
  | c :: _ => isCased c

/-- The lowercase of what follows the reversed text `before`; a capital sigma that ends a word
becomes a final sigma. -/
def lowercaseAfter (before : List Char) : List Char → List Char
  | [] => []
  | c :: cs =>
    (if c = 'Σ' then [if leadsToCased before && !leadsToCased cs then 'ς' else 'σ'] else toLower c)
      ++ lowercaseAfter (c :: before) cs

def lowercase (cs : List Char) : List Char := lowercaseAfter [] cs

def hexDigit? (c : Char) : Option Nat :=
  if c.isDigit then some (c.toNat - '0'.toNat)
  else if 'a' ≤ c ∧ c ≤ 'f' then some (c.toNat - 'a'.toNat + 10)
  else if 'A' ≤ c ∧ c ≤ 'F' then some (c.toNat - 'A'.toNat + 10)
  else none

def equalIgnoringCase (a b : List Char) : Bool := a.map Char.toLower == b.map Char.toLower

def joinWith (sep : String) (parts : List String) : String := String.intercalate sep parts

def onChars (f : List Char → List Char) (s : String) : String := String.ofList (f s.toList)

theorem ofList_eq_iff {cs : List Char} {s : String} : String.ofList cs = s ↔ cs = s.toList := by
  constructor
  · rintro rfl
    rw [String.toList_ofList]
  · rintro rfl
    rw [String.ofList_toList]

def isBlankText (s : String) : Bool := s.toList.all isBlank

end TypedClient.Text
