import Mathlib.Tactic.SplitIfs
import TypedClient.Text.Utf8

namespace TypedClient.Text.Utf8

theorem scan_cons {b low high : UInt8} {n code : Nat} {bs rest : List UInt8}
    (hshape : shape b = some (n, low, high))
    (hfollow : follow n low high (leadBits n b) bs = (some code, rest)) :
    scan (b :: bs) = some (Char.ofNat code) :: scan rest := by
  rw [scan, hshape]
  simp only [hfollow, Option.map_some]

theorem toNat_ofNat {n : Nat} (h : n < 256) : (UInt8.ofNat n).toNat = n := UInt8.toNat_ofNat_of_lt' h

theorem follow_ofNat {n code x : Nat} {low high : UInt8} {bs : List UInt8} (hx : x < 64)
    (hlow : low.toNat ≤ x + 128) (hhigh : x + 128 ≤ high.toNat) :
    follow (n + 1) low high code (UInt8.ofNat (x + 128) :: bs) =
      follow n 0x80 0xBF (code * 0x40 + x) bs := by
  have hvalue : (UInt8.ofNat (x + 128)).toNat = x + 128 := toNat_ofNat (by omega)
  have hrange : (low ≤ UInt8.ofNat (x + 128) && UInt8.ofNat (x + 128) ≤ high) = true := by
    rw [Bool.and_eq_true, decide_eq_true_iff, decide_eq_true_iff, UInt8.le_iff_toNat_le,
      UInt8.le_iff_toNat_le, hvalue]
    exact ⟨hlow, hhigh⟩
  rw [follow, if_pos hrange, hvalue]
  congr 2
  omega

theorem shape_ofNat {n : Nat} (h : n < 256) : shape (UInt8.ofNat n) =
    if n < 0x80 then some (0, 0x80, 0xBF)
    else if n < 0xC2 then none
    else if n < 0xE0 then some (1, 0x80, 0xBF)
    else if n = 0xE0 then some (2, 0xA0, 0xBF)
    else if n = 0xED then some (2, 0x80, 0x9F)
    else if n < 0xF0 then some (2, 0x80, 0xBF)
    else if n = 0xF0 then some (3, 0x90, 0xBF)
    else if n < 0xF4 then some (3, 0x80, 0xBF)
    else if n = 0xF4 then some (3, 0x80, 0x8F)
    else none := by
  have hvalue : (UInt8.ofNat n).toNat = n := toNat_ofNat h
  simp only [shape, UInt8.lt_iff_toNat_lt, ← UInt8.toNat_inj, hvalue]
  rfl

/-- The range of the second byte leaves out what fewer bytes can encode, and surrogates. -/
theorem shape_three {v : Nat} (hlow : 0x7FF < v) (hhigh : v ≤ 0xFFFF) (hvalid : v < 0xD800 ∨ 0xDFFF < v) :
    ∃ low high, shape (UInt8.ofNat (v / 4096 % 16 + 224)) = some (2, low, high) ∧
      low.toNat ≤ v / 64 % 64 + 128 ∧ v / 64 % 64 + 128 ≤ high.toNat := by
  rw [shape_ofNat (by omega), if_neg (by omega), if_neg (by omega), if_neg (by omega)]
  split_ifs with hfirst hsurrogate hlast
  · refine ⟨0xA0, 0xBF, rfl, ?_, ?_⟩
    · change 0xA0 ≤ _
      omega
    · change _ ≤ 0xBF
      omega
  · refine ⟨0x80, 0x9F, rfl, Nat.le_add_left _ _, ?_⟩
    change _ ≤ 0x9F
    omega
  · refine ⟨0x80, 0xBF, rfl, Nat.le_add_left _ _, ?_⟩
    change _ ≤ 0xBF
    omega
  all_goals omega

theorem shape_four {v : Nat} (hlow : 0xFFFF < v) (hhigh : v < 0x110000) :
    ∃ low high, shape (UInt8.ofNat (v / 262144 % 8 + 240)) = some (3, low, high) ∧
      low.toNat ≤ v / 4096 % 64 + 128 ∧ v / 4096 % 64 + 128 ≤ high.toNat := by
  rw [shape_ofNat (by omega), if_neg (by omega), if_neg (by omega), if_neg (by omega),
    if_neg (by omega), if_neg (by omega), if_neg (by omega)]
  split_ifs with hfirst hmiddle hlast
  · refine ⟨0x90, 0xBF, rfl, ?_, ?_⟩
    · change 0x90 ≤ _
      omega
    · change _ ≤ 0xBF
      omega
  · refine ⟨0x80, 0xBF, rfl, Nat.le_add_left _ _, ?_⟩
    change _ ≤ 0xBF
    omega
  · refine ⟨0x80, 0x8F, rfl, Nat.le_add_left _ _, ?_⟩
    change _ ≤ 0x8F
    omega
  · omega

theorem scan_utf8EncodeChar (c : Char) (bs : List UInt8) :
    scan (String.utf8EncodeChar c ++ bs) = some c :: scan bs := by
  have hvalid : c.val.toNat < 0xD800 ∨ 0xDFFF < c.val.toNat ∧ c.val.toNat < 0x110000 := c.valid
  have hc : Char.ofNat c.val.toNat = c := Char.ofNat_toNat c
  unfold String.utf8EncodeChar
  rw [← congrArg some hc]
  generalize c.val.toNat = v at hvalid
  dsimp only
  have hlow : (0x80 : UInt8).toNat ≤ v % 64 + 128 := Nat.le_add_left _ _
  have hhigh : v % 64 + 128 ≤ (0xBF : UInt8).toNat := by
    change v % 64 + 128 ≤ 0xBF
    omega
  split_ifs with hone htwo hthree
  · refine scan_cons (shape_ofNat (by omega) |>.trans (if_pos (by omega))) ?_
    rw [follow, leadBits, toNat_ofNat (by omega)]
    rfl
  · have hshape : shape (UInt8.ofNat (v / 64 % 32 + 192)) = some (1, 0x80, 0xBF) := by
      rw [shape_ofNat (by omega), if_neg (by omega), if_neg (by omega), if_pos (by omega)]
    rw [List.cons_append, List.singleton_append]
    refine scan_cons hshape ?_
    rw [follow_ofNat (by omega) hlow hhigh, follow, leadBits, toNat_ofNat (by omega)]
    congr 2
    omega
  · obtain ⟨low, high, hshape, hlower, hupper⟩ := shape_three (by omega) hthree (by omega)
    rw [List.cons_append, List.cons_append, List.singleton_append]
    refine scan_cons hshape ?_
    rw [follow_ofNat (by omega) hlower hupper,
      follow_ofNat (by omega) hlow hhigh, follow, leadBits, toNat_ofNat (by omega)]
    congr 2
    omega
  · obtain ⟨low, high, hshape, hlower, hupper⟩ := shape_four (by omega) (by omega : v < 0x110000)
    rw [List.cons_append, List.cons_append, List.cons_append, List.singleton_append]
    refine scan_cons hshape ?_
    rw [follow_ofNat (by omega) hlower hupper,
      follow_ofNat (by omega) (Nat.le_add_left _ _) (by simp; omega), follow_ofNat (by omega) hlow hhigh,
      follow, leadBits, toNat_ofNat (by omega)]
    · congr 2
      omega
    all_goals decide

theorem scan_encode (cs : List Char) : scan (encode cs) = cs.map some := by
  induction cs with
  | nil => rw [encode, List.flatMap_nil, scan, List.map_nil]
  | cons c cs ih =>
    rw [encode, List.flatMap_cons, scan_utf8EncodeChar, List.map_cons]
    exact congrArg _ ih

theorem decode?_encode (cs : List Char) : decode? (encode cs) = some cs := by
  rw [decode?, scan_encode]
  induction cs with
  | nil => rfl
  | cons c cs ih => rw [List.map_cons, List.mapM_cons, ih]; rfl

end TypedClient.Text.Utf8
