/-
# ChunkVault.Proofs.Http.Ranges -- a range selects the positions that were asked for

A range header is written in one of three forms, with its numbers in decimal, and what is written is read back
(`RangeSpec.parse?_header`). Of the positions that it asks for, those that exist are selected, and no others
(`RangeSpec.selects_iff`). `ByteRange.parse?_decimal` puts the two together for all sizes and numbers of 64 bits,
with what is known of every other header: a span lies within the file, so that its length can be counted in
64 bits.
-/
import ChunkVault.Proofs.Http.Download

namespace ChunkVault

/-! ## Numbers in decimal -/

namespace Text

theorem isDigit_of_mem_toDigits {n : Nat} {c : Char} (h : c ∈ Nat.toDigits 10 n) : isDigit c = true :=
  Nat.isDigit_of_mem_toDigits (by decide) (by decide) h

theorem toList_toString (n : Nat) : (toString n).toList = Nat.toDigits 10 n := by
  rw [Nat.toString_eq_ofList_toDigits, String.toList_ofList]

theorem isDigit_iff {c : Char} : isDigit c = true ↔ 48 ≤ c.toNat ∧ c.toNat ≤ 57 := by
  rw [isDigit, Bool.and_eq_true, decide_eq_true_iff, decide_eq_true_iff]
  exact Iff.rfl

theorem isBlank_of_isDigit {c : Char} (h : isDigit c = true) : isBlank c = false := by
  rw [isDigit_iff] at h
  simp only [isBlank, Bool.or_eq_false_iff, Bool.and_eq_false_iff, decide_eq_false_iff_not, beq_eq_false_iff_ne]
  omega

theorem dropPlus_eq_self {cs : List Char} (h : ∀ c ∈ cs, isDigit c = true) : dropPlus cs = cs := by
  unfold dropPlus
  split
  · exact absurd (h '+' List.mem_cons_self) (by decide)
  · rfl

/-- **A number in decimal is read back**, if it is within the limit. -/
theorem unsigned?_toDigits {limit n : Nat} (h : n ≤ limit) : unsigned? limit (Nat.toDigits 10 n) = some n := by
  have hdigits : ∀ c ∈ Nat.toDigits 10 n, isDigit c = true := fun c => isDigit_of_mem_toDigits
  have hall : (Nat.toDigits 10 n).all isDigit = true := List.all_eq_true.mpr hdigits
  have hsome : (Nat.toDigits 10 n).isEmpty = false := List.isEmpty_eq_false_iff.mpr Nat.toDigits_ne_nil
  have hvalue : ofDigits (Nat.toDigits 10 n) = n := Nat.ofDigitChars_ten_toDigits
  rw [unsigned?, dropPlus_eq_self hdigits, digits?, hall, hsome, hvalue]
  exact Option.filter_some_pos (decide_eq_true h)

/-- Text without blanks is what is left of it without the blanks at its ends. -/
theorem trim_eq_self {cs : List Char} (h : ∀ c ∈ cs, isBlank c = false) : trim cs = cs := by
  have hfront : trimFront cs = cs := by
    cases cs with
    | nil => rfl
    | cons c rest => exact List.dropWhile_cons_of_neg (by rw [h c List.mem_cons_self]; exact Bool.false_ne_true)
  have hback : cs.reverse.dropWhile isBlank = cs.reverse := by
    cases hcs : cs.reverse with
    | nil => rfl
    | cons c rest =>
      have hc : c ∈ cs := List.mem_reverse.mp (hcs ▸ List.mem_cons_self)
      exact List.dropWhile_cons_of_neg (by rw [h c hc]; exact Bool.false_ne_true)
  rw [trim, hfront, trimBack, hback, List.reverse_reverse]

end Text

namespace Http

open Text

/-! ## Headers -/

namespace RangeSpec

/-- The header that asks for these positions. -/
def header : RangeSpec → String
  | suffix n => s!"bytes=-{n}"
  | onward a => s!"bytes={a}-"
  | between a b => s!"bytes={a}-{b}"

/-- The numbers of a range are words of 64 bits. -/
def Fits : RangeSpec → Prop
  | suffix n => n ≤ maxWord64
  | onward a => a ≤ maxWord64
  | between a b => a ≤ maxWord64 ∧ b ≤ maxWord64

/-- The first hyphen is the one behind a text that has none. -/
theorem splitHyphen?_append {first : List Char} (hfirst : '-' ∉ first) (last : List Char) :
    splitHyphen? (first ++ '-' :: last) = some (first, last) := by
  have hhyphen : ∀ c ∈ first, decide (c ≠ '-') = true := fun c hc => decide_eq_true fun heq => hfirst (heq ▸ hc)
  rw [splitHyphen?, if_pos (List.mem_append_right _ List.mem_cons_self), List.takeWhile_append_of_pos hhyphen,
    List.dropWhile_append_of_pos hhyphen, List.takeWhile_cons_of_neg (by decide),
    List.dropWhile_cons_of_neg (by decide), List.append_nil]
  rfl

/-- A header with digits, if any, on both sides of its hyphen. -/
theorem parse?_positions {value : String} {first last : List Char} (hfirst : ∀ c ∈ first, isDigit c = true)
    (hlast : ∀ c ∈ last, isDigit c = true) (hvalue : value.toList = unit ++ (first ++ '-' :: last)) :
    parse? value = ofPositions? first last := by
  have hfirstBlank : ∀ c ∈ first, isBlank c = false := fun c hc => isBlank_of_isDigit (hfirst c hc)
  have hlastBlank : ∀ c ∈ last, isBlank c = false := fun c hc => isBlank_of_isDigit (hlast c hc)
  have hunit : unit.any isBlank = false := by decide
  have htrimmed : trim value.toList = value.toList := by
    refine trim_eq_self ?_
    rw [hvalue, List.forall_mem_append, List.forall_mem_append, List.forall_mem_cons]
    exact ⟨fun c hc => Bool.eq_false_iff.mpr (List.any_eq_false.mp hunit c hc), hfirstBlank, by decide, hlastBlank⟩
  have hcomma : ',' ∉ first ++ '-' :: last := by
    rw [List.mem_append, List.mem_cons]
    rintro (hmem | heq | hmem)
    · exact absurd (hfirst _ hmem) (by decide)
    · exact absurd heq (by decide)
    · exact absurd (hlast _ hmem) (by decide)
  have hhyphen : '-' ∉ first := fun hmem => absurd (hfirst _ hmem) (by decide)
  have hstarts : unit.isPrefixOf (unit ++ (first ++ '-' :: last)) = true :=
    List.isPrefixOf_iff_prefix.mpr (List.prefix_append _ _)
  rw [parse?, htrimmed, hvalue]
  simp only [hstarts, if_true, List.drop_left, if_neg hcomma, splitHyphen?_append hhyphen, Option.bind_some,
    trim_eq_self hfirstBlank, trim_eq_self hlastBlank]

/-- **A header that is written is read back.** -/
theorem parse?_header {spec : RangeSpec} (h : spec.Fits) : parse? spec.header = some spec := by
  have hdigits : ∀ n : Nat, ∀ c ∈ Nat.toDigits 10 n, isDigit c = true := fun n c => isDigit_of_mem_toDigits
  have hsome : ∀ n : Nat, (Nat.toDigits 10 n).isEmpty = false := fun n =>
    List.isEmpty_eq_false_iff.mpr Nat.toDigits_ne_nil
  cases spec with
  | suffix n =>
    have hvalue : (suffix n).header.toList = unit ++ ([] ++ '-' :: Nat.toDigits 10 n) := by
      show ("bytes=-" ++ toString n).toList = _
      rw [String.toList_append, toList_toString]
      rfl
    rw [parse?_positions (fun c hc => absurd hc List.not_mem_nil) (hdigits n) hvalue, ofPositions?, unsigned?_toDigits h]
    rfl
  | onward a =>
    have hvalue : (onward a).header.toList = unit ++ (Nat.toDigits 10 a ++ '-' :: []) := by
      show ("bytes=" ++ toString a ++ "-").toList = _
      rw [String.toList_append, String.toList_append, toList_toString, List.append_assoc]
      rfl
    rw [parse?_positions (hdigits a) (fun c hc => absurd hc List.not_mem_nil) hvalue, ofPositions?, hsome, unsigned?_toDigits h]
    rfl
  | between a b =>
    have hvalue : (between a b).header.toList = unit ++ (Nat.toDigits 10 a ++ '-' :: Nat.toDigits 10 b) := by
      show ("bytes=" ++ toString a ++ "-" ++ toString b).toList = _
      rw [String.toList_append, String.toList_append, String.toList_append, toList_toString, toList_toString,
        List.append_assoc, List.append_assoc]
      rfl
    rw [parse?_positions (hdigits a) (hdigits b) hvalue, ofPositions?, hsome, unsigned?_toDigits h.1]
    simp only [hsome, unsigned?_toDigits h.2]
    rfl

/-! ## Positions -/

/-- A position is one of those asked for. -/
def Requests (size : Nat) : RangeSpec → Nat → Prop
  | suffix n, i => size ≤ i + n
  | onward a, i => a ≤ i
  | between a b, i => a ≤ i ∧ i ≤ b

end RangeSpec

/-- A position is one of those in a range. -/
def ByteRange.Selects : ByteRange → Nat → Prop
  | span first last, i => first ≤ i ∧ i ≤ last
  | unsatisfiable, _ => False

/-- **What is selected is what was asked for and exists.** -/
theorem RangeSpec.selects_iff (spec : RangeSpec) (size i : Nat) :
    (∃ range, spec.select size = some range ∧ range.Selects i) ↔ spec.Requests size i ∧ i < size := by
  cases spec with
  | suffix n =>
    simp only [select, Requests]
    split
    · simp only [Option.some.injEq, exists_eq_left', ByteRange.Selects, false_iff]
      omega
    · simp only [Option.some.injEq, exists_eq_left', ByteRange.Selects]
      omega
  | onward a =>
    simp only [select, Requests]
    split
    · simp only [Option.some.injEq, exists_eq_left', ByteRange.Selects, false_iff]
      omega
    · simp only [Option.some.injEq, exists_eq_left', ByteRange.Selects]
      omega
  | between a b =>
    simp only [select, Requests]
    split
    · simp only [reduceCtorEq, false_and, exists_false, false_iff]
      omega
    · split
      · simp only [Option.some.injEq, exists_eq_left', ByteRange.Selects, false_iff]
        omega
      · simp only [Option.some.injEq, exists_eq_left', ByteRange.Selects]
        omega

theorem ByteRange.parse?_header {spec : RangeSpec} (h : spec.Fits) (size : Nat) :
    ByteRange.parse? spec.header size = spec.select size := by
  rw [ByteRange.parse?, RangeSpec.parse?_header h, Option.bind_some]

theorem toNat_le_maxWord64 (n : UInt64) : n.toNat ≤ maxWord64 := Nat.le_of_lt_succ n.toNat_lt

/-- The length of a span of a file can be counted in a word of 64 bits. -/
theorem ByteRange.toNat_length {size : UInt64} {first last : Nat} (hfirst : first ≤ last) (hlast : last < size.toNat) :
    (UInt64.ofNat last - UInt64.ofNat first + 1).toNat = last - first + 1 := by
  have hword : size.toNat < UInt64.size := size.toNat_lt
  have hlastWord : (UInt64.ofNat last).toNat = last := UInt64.toNat_ofNat_of_lt' (Nat.lt_trans hlast hword)
  have hfirstWord : (UInt64.ofNat first).toNat = first :=
    UInt64.toNat_ofNat_of_lt' (Nat.lt_of_le_of_lt hfirst (Nat.lt_trans hlast hword))
  have hle : UInt64.ofNat first ≤ UInt64.ofNat last := by
    rw [UInt64.le_iff_toNat_le, hfirstWord, hlastWord]
    exact hfirst
  have hcount : last - first + 1 < UInt64.size := by omega
  rw [UInt64.toNat_add, UInt64.toNat_sub_of_le _ _ hle, hfirstWord, hlastWord]
  exact Nat.mod_eq_of_lt hcount

/-- **Ranges are exact.** Of a file of any size, and with numbers in decimal, each form of a header selects the
positions that it asks for as far as they exist. One that runs backwards is ignored, and one of whose positions
none exists cannot be satisfied. Whatever a header looks like, a span that is selected begins where it ends or
before, and ends within the file, so that its length can be counted in a word of 64 bits. -/
theorem ByteRange.parse?_decimal (size a b n : UInt64) :
    (ByteRange.parse? s!"bytes={a}-{b}" size.toNat =
      if b < a then none
      else if size ≤ a then some .unsatisfiable
      else some (.span a.toNat (min b.toNat (size.toNat - 1)))) ∧
    (ByteRange.parse? s!"bytes={a}-" size.toNat = ByteRange.parse? s!"bytes={a}-{maxWord64}" size.toNat) ∧
    (ByteRange.parse? s!"bytes=-{n}" size.toNat =
      if n = 0 ∨ size = 0 then some .unsatisfiable
      else some (.span (size.toNat - min n.toNat size.toNat) (size.toNat - 1))) ∧
    (∀ spec ∈ [RangeSpec.between a.toNat b.toNat, .onward a.toNat, .suffix n.toNat], ∀ i,
      (∃ range, ByteRange.parse? spec.header size.toNat = some range ∧ range.Selects i) ↔
        spec.Requests size.toNat i ∧ i < size.toNat) ∧
    ∀ header first last, ByteRange.parse? header size.toNat = some (.span first last) →
      first ≤ last ∧ last < size.toNat ∧
        (UInt64.ofNat last - UInt64.ofNat first + 1).toNat = last - first + 1 := by
  have hsize := toNat_le_maxWord64 size
  have hbetween : ∀ m : Nat, m ≤ maxWord64 → (RangeSpec.between a.toNat m).Fits := fun m hm =>
    ⟨toNat_le_maxWord64 a, hm⟩
  have honward : (RangeSpec.onward a.toNat).Fits := toNat_le_maxWord64 a
  have hsuffix : (RangeSpec.suffix n.toNat).Fits := toNat_le_maxWord64 n
  refine ⟨?_, ?_, ?_, ?_, ?_⟩
  · exact parse?_header (hbetween b.toNat (toNat_le_maxWord64 b)) size.toNat
  · -- no number is greater than the greatest, and no position lies behind it
    have hbackwards : ¬maxWord64 < a.toNat := Nat.not_lt.mpr honward
    have hleft := parse?_header honward size.toNat
    have hright := parse?_header (hbetween maxWord64 (Nat.le_refl _)) size.toNat
    refine hleft.trans (Eq.trans ?_ hright.symm)
    rw [RangeSpec.select, RangeSpec.select, if_neg hbackwards, Nat.min_eq_right (by omega)]
  · refine (parse?_header hsuffix size.toNat).trans ?_
    have hfirst : size.toNat - min n.toNat size.toNat = size.toNat - n.toNat := by omega
    simp only [RangeSpec.select, hfirst, ← UInt64.toNat_inj, UInt64.toNat_zero]
  · intro spec hspec i
    have hfits : spec.Fits := by
      simp only [List.mem_cons, List.not_mem_nil, or_false] at hspec
      rcases hspec with rfl | rfl | rfl
      · exact hbetween b.toNat (toNat_le_maxWord64 b)
      · exact honward
      · exact hsuffix
    rw [parse?_header hfits]
    exact RangeSpec.selects_iff spec size.toNat i
  · intro header first last hspan
    obtain ⟨hfirst, hlast⟩ := parse?_span hspan
    exact ⟨hfirst, hlast, toNat_length hfirst hlast⟩

/-- A file of the greatest size, asked for with a plus sign and blanks: the span is all of it, and its length is
the greatest number of 64 bits. -/
theorem ByteRange.parse?_decimal_greatest :
    ByteRange.parse? " bytes= +0 - " (18446744073709551615 : UInt64).toNat = some (.span 0 18446744073709551614) ∧
      (UInt64.ofNat 18446744073709551614 - UInt64.ofNat 0 + 1).toNat = 18446744073709551615 := by
  have hspan : ByteRange.parse? " bytes= +0 - " (18446744073709551615 : UInt64).toNat =
      some (.span 0 18446744073709551614) := by decide
  obtain ⟨-, -, -, -, hspans⟩ := parse?_decimal 18446744073709551615 0 0 0
  exact ⟨hspan, (hspans _ _ _ hspan).2.2⟩

end Http
end ChunkVault
