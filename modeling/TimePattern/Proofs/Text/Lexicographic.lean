import Mathlib.Data.Char
import Mathlib.Data.Int.Order.Basic
import Mathlib.Order.Lattice
import TimePattern.Proofs.Text.DigitRun

/-!
# Lexicographic order

Lists are compared entry by entry, and the first difference decides. `SameOrder` says that two
values compare as two others do, which may be of another kind: two numbers as their digits, or two
dates as the lists of their fields.

## Key results

- `SameOrder.cons`: a first entry that decides, and the rest where it does not
- `SameWidthOrder.append` / `SameWidthOrder.flatMap`: lists put together from parts of fixed lengths
- `Decimal.sameWidthOrder_ofNat`: written numbers of equal lengths
-/

namespace TimePattern

/-- Two values compare in the same way as two others. -/
structure SameOrder {α β : Type} [LT α] [LT β] (a a' : α) (b b' : β) : Prop where
  lt_iff : a < a' ↔ b < b'
  eq_iff : a = a' ↔ b = b'

/-! ## Lists -/

/-- Fronts of equal lengths are compared first. -/
theorem append_lt_append_iff {α : Type} [LT α] {front front' back back' : List α}
    (hlen : front.length = front'.length) :
    front ++ back < front' ++ back' ↔ front < front' ∨ front = front' ∧ back < back' := by
  induction front generalizing front' with
  | nil =>
    have hnil := List.length_eq_zero_iff.1 hlen.symm
    simp [hnil]
  | cons a front ih =>
    cases front' with
    | nil => cases hlen
    | cons a' front' =>
      have hrest := ih (Nat.succ.inj hlen)
      -- The first entries decide, or they are equal and the rest of the fronts goes on
      rw [List.cons_append, List.cons_append, List.cons_lt_cons_iff, List.cons_lt_cons_iff, hrest,
        List.cons.injEq]
      constructor
      · rintro (h | ⟨rfl, h | ⟨rfl, h⟩⟩)
        · exact .inl (.inl h)
        · exact .inl (.inr ⟨rfl, h⟩)
        · exact .inr ⟨⟨rfl, rfl⟩, h⟩
      · rintro ((h | ⟨rfl, h⟩) | ⟨⟨rfl, rfl⟩, h⟩)
        · exact .inl h
        · exact .inr ⟨rfl, .inl h⟩
        · exact .inr ⟨rfl, .inr ⟨rfl, h⟩⟩

namespace SameOrder

/-- Either of the two pairs may come first. -/
theorem symm {α β : Type} [LT α] [LT β] {a a' : α} {b b' : β} (h : SameOrder a a' b b') :
    SameOrder b b' a a' :=
  ⟨h.lt_iff.symm, h.eq_iff.symm⟩

/-- Values that compare as others do which compare as third ones do. -/
theorem trans {α β γ : Type} [LT α] [LT β] [LT γ] {a a' : α} {b b' : β} {c c' : γ}
    (h : SameOrder a a' b b') (h' : SameOrder b b' c c') : SameOrder a a' c c' :=
  ⟨h.lt_iff.trans h'.lt_iff, h.eq_iff.trans h'.eq_iff⟩

theorem nil {α κ : Type} [Preorder α] [LT κ] {a a' : α} (h : a = a') :
    SameOrder a a' ([] : List κ) [] := by
  subst h
  exact ⟨iff_of_false (lt_irrefl a) (List.not_lt_nil []), by simp⟩

/-- Values that compare as their first entries do, and as the rest where these are equal. -/
theorem cons {α κ : Type} [LinearOrder α] [LinearOrder κ] {a a' : α} {k k' : κ}
    {rest rest' : List κ} (hlt : k < k' → a < a') (hgt : k' < k → a' < a)
    (heq : k = k' → SameOrder a a' rest rest') :
    SameOrder a a' (k :: rest) (k' :: rest') := by
  rcases lt_trichotomy k k' with h | h | h
  · -- A smaller first entry decides
    have ha := hlt h
    have hlist : k :: rest < k' :: rest' := List.cons_lt_cons_iff.2 (.inl h)
    exact ⟨iff_of_true ha hlist, by simp [ne_of_lt ha, ne_of_lt h]⟩
  · -- Equal first entries leave it to the rest
    obtain ⟨hrest, hrest'⟩ := heq h
    exact ⟨by simp [hrest, h], by simp [hrest', h]⟩
  · -- A larger first entry decides the other way
    have ha := hgt h
    have hlist : ¬ k :: rest < k' :: rest' := by
      simp [List.cons_lt_cons_iff, not_lt_of_gt h, ne_of_gt h]
    exact ⟨iff_of_false (not_lt_of_gt ha) hlist, by simp [ne_of_gt ha, ne_of_gt h]⟩

end SameOrder

/-- Two lists of one length that compare in the same way as two others of one length, whatever is
    put behind them. -/
structure SameWidthOrder {α β : Type} [LT α] [LT β] (a a' : List α) (b b' : List β) : Prop
    extends SameOrder a a' b b' where
  length_left : a.length = a'.length
  length_right : b.length = b'.length

namespace SameWidthOrder

theorem nil {α β : Type} [LT α] [LT β] : SameWidthOrder ([] : List α) [] ([] : List β) [] :=
  ⟨⟨iff_of_false (List.not_lt_nil []) (List.not_lt_nil []), by simp⟩, rfl, rfl⟩

/-- Lists that are put together from two such parts compare part by part. -/
theorem append {α β : Type} [LT α] [LT β] {a a' c c' : List α} {b b' d d' : List β}
    (hfront : SameWidthOrder a a' b b') (hback : SameWidthOrder c c' d d') :
    SameWidthOrder (a ++ c) (a' ++ c') (b ++ d) (b' ++ d') where
  lt_iff := by
    -- Both sides are compared front first, since the fronts have equal lengths
    rw [append_lt_append_iff hfront.length_left, append_lt_append_iff hfront.length_right,
      hfront.lt_iff, hfront.eq_iff, hback.lt_iff]
  eq_iff := by
    rw [List.append_eq_append_iff_of_size_eq_left hfront.length_left,
      List.append_eq_append_iff_of_size_eq_left hfront.length_right, hfront.eq_iff, hback.eq_iff]
  length_left := by
    rw [List.length_append, List.length_append, hfront.length_left, hback.length_left]
  length_right := by
    rw [List.length_append, List.length_append, hfront.length_right, hback.length_right]

/-- Texts and keys that are put together in the same order. -/
theorem flatMap {α β γ : Type} [LT α] [LT β] {xs : List γ} {f f' : γ → List α} {g g' : γ → List β}
    (h : ∀ x ∈ xs, SameWidthOrder (f x) (f' x) (g x) (g' x)) :
    SameWidthOrder (xs.flatMap f) (xs.flatMap f') (xs.flatMap g) (xs.flatMap g') := by
  induction xs with
  | nil => exact nil
  | cons x xs ih =>
    obtain ⟨hx, hxs⟩ := List.forall_mem_cons.1 h
    simp only [List.flatMap_cons]
    exact hx.append (ih hxs)

end SameWidthOrder

/-! ## Digits -/

namespace Decimal

/-- The smaller of two digits counts less. -/
theorem digit_lt_digit {c d : Char} (hc : c.isDigit = true) (h : c < d) :
    c.toNat - '0'.toNat < d.toNat - '0'.toNat := by
  have hzero : '0'.toNat ≤ c.toNat := by
    simp only [Char.isDigit, Bool.and_eq_true, decide_eq_true_eq] at hc
    exact hc.1
  have hlt : c.toNat < d.toNat := h
  omega

/-- Of two numbers of equally many digits the one with the smaller first digit is smaller. -/
theorem value_cons_lt {c d : Char} {digits digits' : List Char} (hc : c.isDigit = true)
    (hdigits : ∀ e ∈ digits, e.isDigit = true) (hlen : digits.length = digits'.length)
    (h : c < d) : value (c :: digits) < value (d :: digits') := by
  have hrest := value_lt hdigits
  have hfirst := Nat.mul_le_mul_left (10 ^ digits.length) (digit_lt_digit hc h)
  rw [value_cons, value_cons, ← hlen]
  -- One more in the first place outweighs all digits behind it
  rw [Nat.mul_succ] at hfirst
  omega

/-- Equally many digits compare as the numbers that they denote. -/
theorem sameOrder_value {digits digits' : List Char} (h : ∀ c ∈ digits, c.isDigit = true)
    (h' : ∀ c ∈ digits', c.isDigit = true) (hlen : digits.length = digits'.length) :
    SameOrder (value digits) (value digits') digits digits' := by
  -- Digit by digit from the front: the first difference decides for the number too
  induction digits generalizing digits' with
  | nil =>
    rw [List.length_eq_zero_iff.1 hlen.symm]
    exact ⟨by simp, by simp⟩
  | cons c digits ih =>
    cases digits' with
    | nil => cases hlen
    | cons d digits' =>
      obtain ⟨hc, hdigits⟩ := List.forall_mem_cons.1 h
      obtain ⟨hd, hdigits'⟩ := List.forall_mem_cons.1 h'
      replace hlen := Nat.succ.inj hlen
      apply SameOrder.cons
      · exact value_cons_lt hc hdigits hlen
      · exact value_cons_lt hd hdigits' hlen.symm
      · rintro rfl
        obtain ⟨hlt, heq⟩ := ih hdigits hdigits' hlen
        -- The same first digit adds the same to both numbers
        rw [value_cons, value_cons, ← hlen]
        exact ⟨by rw [← hlt]; omega, by rw [← heq]; omega⟩

/-- Numbers padded to as many characters as they need at most compare as they are written. -/
theorem sameWidthOrder_ofNat {width n m : Nat} (hwidth : 0 < width) (hn : n < 10 ^ width)
    (hm : m < 10 ^ width) :
    SameWidthOrder (ofNat width n) (ofNat width m) [(n : Int)] [(m : Int)] := by
  have hlen : (ofNat width n).length = (ofNat width m).length := by
    rw [length_ofNat_of_lt hwidth hn, length_ofNat_of_lt hwidth hm]
  have horder := sameOrder_value (fun c hc => isDigit_of_mem_ofNat hc)
    (fun c hc => isDigit_of_mem_ofNat hc) hlen
  rw [value_ofNat, value_ofNat] at horder
  -- A number compares as the list that holds only it
  have hkey : SameOrder n m [(n : Int)] [(m : Int)] := by
    apply SameOrder.cons
    · exact Int.ofNat_lt.1
    · exact Int.ofNat_lt.1
    · exact fun h => .nil (Int.ofNat_inj.1 h)
  exact ⟨horder.symm.trans hkey, hlen, rfl⟩

/-- The same for numbers that need no sign. -/
theorem sameWidthOrder_ofInt {width : Nat} {n m : Int} (hwidth : 0 < width) (hn : 0 ≤ n)
    (hm : 0 ≤ m) (hn' : n.natAbs < 10 ^ width) (hm' : m.natAbs < 10 ^ width) :
    SameWidthOrder (ofInt width n) (ofInt width m) [n] [m] := by
  have horder := sameWidthOrder_ofNat hwidth hn' hm'
  rw [Int.natAbs_of_nonneg hn, Int.natAbs_of_nonneg hm] at horder
  rw [ofInt_of_nonneg hn, ofInt_of_nonneg hm]
  exact horder

end Decimal

end TimePattern
