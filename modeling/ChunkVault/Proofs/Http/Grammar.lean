/-
# ChunkVault.Proofs.Http.Grammar -- the texts that ask for a range

Whoever reads a range header decides on a language: the texts that are taken for a range and those that are
ignored. The language is given here on its own, as a grammar with a place for the notation of its numbers
(`RangeSpec.Written`), and the reader accepts just that (`RangeSpec.parse?_eq_some_iff`).

The notation is digits with an optional plus sign in front (`Text.Signed`). Where a header has no plus sign it is
that of RFC 9110, digits alone (`Text.Plain`), and `ByteRange.parse?_grammar` lets nothing else pass for a range: no
minus sign, no second hyphen, no comma, no other unit, no empty number. A plus sign in front of a number passes where
it should not (`ByteRange.parse?_plus_sign`).
-/
import Mathlib.Data.List.TakeWhile
import ChunkVault.Proofs.Http.Ranges

namespace ChunkVault

/-! ## Numbers and blanks -/

namespace Text

/-- A row of digits, one at least, and the number that it stands for. -/
inductive Plain : List Char → Nat → Prop
  | digits {cs : List Char} (hsome : cs ≠ []) (hdigits : ∀ c ∈ cs, isDigit c = true) : Plain cs (ofDigits cs)

/-- A row of digits that may have a plus sign in front. -/
inductive Signed : List Char → Nat → Prop
  | plain {cs : List Char} {n : Nat} (h : Plain cs n) : Signed cs n
  | plus {cs : List Char} {n : Nat} (h : Plain cs n) : Signed ('+' :: cs) n

/-- Text that holds nothing but blanks. -/
def Blank (cs : List Char) : Prop := ∀ c ∈ cs, isBlank c = true

/-- A text, and one with blanks around it. -/
def Padded (inner outer : List Char) : Prop :=
  ∃ front back, Blank front ∧ Blank back ∧ outer = front ++ inner ++ back

theorem digits?_eq_some_iff {cs : List Char} {n : Nat} : digits? cs = some n ↔ Plain cs n := by
  unfold digits?
  constructor
  · intro h
    split at h
    · cases h
    · next hdigits =>
      rw [Bool.or_eq_true, not_or, Bool.not_eq_true, Bool.not_eq_true, List.isEmpty_eq_false_iff,
        Bool.not_eq_false'] at hdigits
      rw [← Option.some.inj h]
      exact .digits hdigits.1 (List.all_eq_true.mp hdigits.2)
  · rintro ⟨hsome, hdigits⟩
    rw [List.isEmpty_eq_false_iff.mpr hsome, List.all_eq_true.mpr hdigits]
    rfl

theorem Plain.mem {cs : List Char} {n : Nat} (h : Plain cs n) : ∀ c ∈ cs, isDigit c = true := by
  cases h with
  | digits _ hdigits => exact hdigits

theorem Signed.mem {cs : List Char} {n : Nat} (h : Signed cs n) : ∀ c ∈ cs, c = '+' ∨ isDigit c = true := by
  cases h with
  | plain h => exact fun c hc => .inr (h.mem c hc)
  | plus h =>
    intro c hc
    rcases List.mem_cons.mp hc with rfl | hc
    · exact .inl rfl
    · exact .inr (h.mem c hc)

theorem Signed.ne_nil {cs : List Char} {n : Nat} (h : Signed cs n) : cs ≠ [] := by
  cases h with
  | plain h =>
    cases h with
    | digits hsome _ => exact hsome
  | plus _ => exact List.cons_ne_nil _ _

/-- Without a plus sign in it a number is written in digits alone. -/
theorem Signed.plain_of_notMem {cs : List Char} {n : Nat} (h : Signed cs n) (hplus : '+' ∉ cs) : Plain cs n := by
  cases h with
  | plain h => exact h
  | plus _ => exact absurd List.mem_cons_self hplus

/-- **The numbers that are read**: digits with an optional plus sign, within the limit. -/
theorem unsigned?_eq_some_iff {limit n : Nat} {cs : List Char} :
    unsigned? limit cs = some n ↔ Signed cs n ∧ n ≤ limit := by
  rw [unsigned?, Option.filter_eq_some_iff, decide_eq_true_eq, digits?_eq_some_iff]
  refine and_congr_left fun _ => ?_
  constructor
  · intro h
    unfold dropPlus at h
    split at h
    · exact .plus h
    · exact .plain h
  · intro h
    cases h with
    | plain h => rwa [dropPlus_eq_self h.mem]
    | plus h => exact h

/-! ## Trimming -/

/-- What trimming cuts off is blank. -/
theorem padded_trim (cs : List Char) : Padded (trim cs) cs := by
  refine ⟨cs.takeWhile isBlank, ((trimFront cs).reverse.takeWhile isBlank).reverse, ?_, ?_, ?_⟩
  · exact fun c hc => List.mem_takeWhile_imp hc
  · exact fun c hc => List.mem_takeWhile_imp (List.mem_reverse.mp hc)
  · rw [trim, trimBack, List.append_assoc, ← List.reverse_append, List.takeWhile_append_dropWhile,
      List.reverse_reverse]
    exact List.takeWhile_append_dropWhile.symm

/-- Text without blanks is what trimming leaves of it with blanks around. -/
theorem trim_of_padded {inner outer : List Char} (h : Padded inner outer) (hinner : ∀ c ∈ inner, isBlank c = false) :
    trim outer = inner := by
  obtain ⟨front, back, hfront, hback, rfl⟩ := h
  have hcut : ∀ cs : List Char, trimBack (cs ++ back) = trimBack cs := by
    intro cs
    rw [trimBack, trimBack, List.reverse_append,
      List.dropWhile_append_of_pos fun c hc => hback c (List.mem_reverse.mp hc)]
  rw [trim, trimFront, List.append_assoc, List.dropWhile_append_of_pos hfront]
  cases inner with
  | nil => rw [List.nil_append, List.dropWhile_eq_nil_iff.mpr hback]; rfl
  | cons c rest =>
    have hc : ¬isBlank c = true := by rw [hinner c List.mem_cons_self]; exact Bool.false_ne_true
    rw [List.cons_append, List.dropWhile_cons_of_neg hc, ← List.cons_append, hcut]
    have hself := trim_eq_self hinner
    rwa [trim, trimFront, List.dropWhile_cons_of_neg hc] at hself

theorem trim_eq_nil_iff {cs : List Char} : trim cs = [] ↔ Blank cs := by
  constructor
  · intro h
    obtain ⟨front, back, hfront, hback, heq⟩ := padded_trim cs
    rw [h, List.append_nil] at heq
    rw [heq]
    exact fun c hc => (List.mem_append.mp hc).elim (hfront c) (hback c)
  · intro h
    exact trim_of_padded ⟨cs, [], h, nofun, by simp⟩ nofun

theorem mem_padded {inner outer : List Char} (h : Padded inner outer) {c : Char} (hc : c ∈ outer) :
    c ∈ inner ∨ isBlank c = true := by
  obtain ⟨front, back, hfront, hback, rfl⟩ := h
  rw [List.mem_append, List.mem_append] at hc
  rcases hc with (hc | hc) | hc
  · exact .inr (hfront c hc)
  · exact .inl hc
  · exact .inr (hback c hc)

theorem mem_of_padded {inner outer : List Char} (h : Padded inner outer) {c : Char} (hc : c ∈ inner) : c ∈ outer := by
  obtain ⟨front, back, -, -, rfl⟩ := h
  exact List.mem_append_left _ (List.mem_append_right _ hc)

/-- What trimming leaves of a number with blanks around it is the number. -/
theorem trim_of_signed {digits outer : List Char} {n : Nat} (hn : Signed digits n) (h : Padded digits outer) :
    trim outer = digits := by
  refine trim_of_padded h fun c hc => ?_
  rcases hn.mem c hc with rfl | hdigit
  · decide
  · exact isBlank_of_isDigit hdigit

end Text

namespace Http

open Text

/-! ## The grammar -/

namespace RangeSpec

/-- How a range is written, with its numbers in some notation, by what stands before its hyphen and behind it: a
number or none on either side, but not none on both. Blanks may stand around a number, and where there is none. -/
inductive Written (Number : List Char → Nat → Prop) : RangeSpec → List Char → List Char → Prop
  | suffix {first digits last : List Char} {n : Nat} (hfirst : Blank first) (hn : Number digits n)
      (hlast : Padded digits last) : Written Number (suffix n) first last
  | onward {first digits last : List Char} {a : Nat} (ha : Number digits a) (hfirst : Padded digits first)
      (hlast : Blank last) : Written Number (onward a) first last
  | between {first digits digits' last : List Char} {a b : Nat} (ha : Number digits a)
      (hfirst : Padded digits first) (hb : Number digits' b) (hlast : Padded digits' last) :
      Written Number (between a b) first last

/-- A header asks for a range in some notation: it is the unit and the range, but for blanks at its ends. -/
def WrittenIn (Number : List Char → Nat → Prop) (spec : RangeSpec) (header : String) : Prop :=
  ∃ first last, trim header.toList = unit ++ (first ++ '-' :: last) ∧ spec.Written Number first last

variable {Number : List Char → Nat → Prop} {spec : RangeSpec} {header : String} {first last : List Char}

/-- Around its hyphen a range is made of blanks and of what its numbers are made of. -/
theorem Written.mem (h : spec.Written Number first last) {c : Char} (hc : c ∈ first ++ last) :
    isBlank c = true ∨ ∃ digits n, Number digits n ∧ c ∈ digits := by
  have hpadded : ∀ {digits outer : List Char} {n : Nat}, Number digits n → Padded digits outer → c ∈ outer →
      isBlank c = true ∨ ∃ digits n, Number digits n ∧ c ∈ digits := by
    intro digits outer n hn houter hmem
    exact (mem_padded houter hmem).elim (fun hmem => .inr ⟨digits, n, hn, hmem⟩) .inl
  rw [List.mem_append] at hc
  cases h with
  | suffix hfirst hn hlast => exact hc.elim (fun hmem => .inl (hfirst c hmem)) (hpadded hn hlast)
  | onward ha hfirst hlast => exact hc.elim (hpadded ha hfirst) fun hmem => .inl (hlast c hmem)
  | between ha hfirst hb hlast => exact hc.elim (hpadded ha hfirst) (hpadded hb hlast)

/-- The characters around the hyphen of a range that is read. -/
theorem Written.mem_signed (h : spec.Written Signed first last) :
    ∀ c ∈ first ++ last, isBlank c = true ∨ c = '+' ∨ isDigit c = true := by
  intro c hc
  rcases h.mem hc with hblank | ⟨digits, n, hn, hmem⟩
  · exact .inl hblank
  · exact .inr (hn.mem c hmem)

/-- Without a plus sign in it a range is written in digits alone. -/
theorem Written.plain (h : spec.Written Signed first last) (hplus : '+' ∉ first ++ last) :
    spec.Written Plain first last := by
  rw [List.mem_append, not_or] at hplus
  have hplain : ∀ {digits outer : List Char} {n : Nat}, Signed digits n → Padded digits outer → '+' ∉ outer →
      Plain digits n := fun hn houter hnone => hn.plain_of_notMem fun hmem => hnone (mem_of_padded houter hmem)
  cases h with
  | suffix hfirst hn hlast => exact .suffix hfirst (hplain hn hlast hplus.2) hlast
  | onward ha hfirst hlast => exact .onward (hplain ha hfirst hplus.1) hfirst hlast
  | between ha hfirst hb hlast =>
    exact .between (hplain ha hfirst hplus.1) hfirst (hplain hb hlast hplus.2) hlast

theorem WrittenIn.plain (h : spec.WrittenIn Signed header) (hplus : '+' ∉ header.toList) :
    spec.WrittenIn Plain header := by
  obtain ⟨first, last, htrim, hwritten⟩ := h
  refine ⟨first, last, htrim, hwritten.plain fun hmem => hplus ?_⟩
  refine mem_of_padded (padded_trim header.toList) (htrim ▸ List.mem_append_right _ ?_)
  rw [List.mem_append] at hmem ⊢
  exact hmem.imp_right (List.mem_cons_of_mem _)

/-! ## What is read -/

/-- What is split at its first hyphen. -/
theorem splitHyphen?_eq_some {cs : List Char} (h : splitHyphen? cs = some (first, last)) :
    cs = first ++ '-' :: last := by
  rw [splitHyphen?] at h
  split at h
  · next hmem =>
    obtain ⟨rfl, rfl⟩ := Prod.mk.inj (Option.some.inj h)
    have hnone : '-' ∉ cs.takeWhile (· ≠ '-') := fun hmem =>
      absurd rfl (of_decide_eq_true (List.mem_takeWhile_imp (p := fun c => decide (c ≠ '-')) hmem))
    -- the hyphen is behind the text that has none, so what is behind is not empty and begins with it
    have hsplit : cs.takeWhile (· ≠ '-') ++ cs.dropWhile (· ≠ '-') = cs := List.takeWhile_append_dropWhile
    cases hrest : cs.dropWhile (· ≠ '-') with
    | nil =>
      rw [hrest, List.append_nil] at hsplit
      exact absurd (hsplit.symm ▸ hmem) hnone
    | cons c rest =>
      have hc : ¬decide (c ≠ '-') = true := by
        have hhead := List.head?_dropWhile_not (fun c => decide (c ≠ '-')) cs
        rw [hrest] at hhead
        simpa using hhead
      rw [decide_eq_true_eq, Classical.not_not] at hc
      rw [hrest, hc] at hsplit
      exact hsplit.symm
  · cases h

/-- **The positions that are read are those that are written**, if they are words of 64 bits. -/
theorem ofPositions?_eq_some_iff :
    ofPositions? (trim first) (trim last) = some spec ↔ spec.Fits ∧ spec.Written Signed first last := by
  constructor
  · intro h
    unfold ofPositions? at h
    split at h
    · next hfirst =>
      obtain ⟨n, hn, rfl⟩ := Option.map_eq_some_iff.mp h
      obtain ⟨hn, hfits⟩ := unsigned?_eq_some_iff.mp hn
      exact ⟨hfits, .suffix (trim_eq_nil_iff.mp (List.isEmpty_iff.mp hfirst)) hn (padded_trim last)⟩
    · split at h
      · cases h
      · next a ha =>
        obtain ⟨ha, hfits⟩ := unsigned?_eq_some_iff.mp ha
        split at h
        · next hlast =>
          obtain rfl := Option.some.inj h
          exact ⟨hfits, .onward ha (padded_trim first) (trim_eq_nil_iff.mp (List.isEmpty_iff.mp hlast))⟩
        · obtain ⟨b, hb, rfl⟩ := Option.map_eq_some_iff.mp h
          obtain ⟨hb, hfits'⟩ := unsigned?_eq_some_iff.mp hb
          exact ⟨⟨hfits, hfits'⟩, .between ha (padded_trim first) hb (padded_trim last)⟩
  · rintro ⟨hfits, h⟩
    have hsome : ∀ {digits : List Char} {n : Nat}, Signed digits n → ¬digits.isEmpty = true := fun hn hempty =>
      hn.ne_nil (List.isEmpty_iff.mp hempty)
    unfold ofPositions?
    cases h with
    | suffix hfirst hn hlast =>
      rw [trim_eq_nil_iff.mpr hfirst, trim_of_signed hn hlast, unsigned?_eq_some_iff.mpr ⟨hn, hfits⟩]
      rfl
    | onward ha hfirst hlast =>
      rw [trim_of_signed ha hfirst, trim_eq_nil_iff.mpr hlast, if_neg (hsome ha),
        unsigned?_eq_some_iff.mpr ⟨ha, hfits⟩]
      rfl
    | between ha hfirst hb hlast =>
      rw [trim_of_signed ha hfirst, trim_of_signed hb hlast, if_neg (hsome ha),
        unsigned?_eq_some_iff.mpr ⟨ha, hfits.1⟩, unsigned?_eq_some_iff.mpr ⟨hb, hfits.2⟩]
      simp only [if_neg (hsome hb)]
      rfl

/-- **The headers that are read**, and the ranges that are read from them. -/
theorem parse?_eq_some_iff : parse? header = some spec ↔ spec.Fits ∧ spec.WrittenIn Signed header := by
  constructor
  · intro h
    unfold parse? at h
    simp only at h
    split at h
    · next hunit =>
      obtain ⟨ranges, hranges⟩ := List.isPrefixOf_iff_prefix.mp hunit
      rw [← hranges, List.drop_left] at h
      split at h
      · cases h
      · obtain ⟨⟨first, last⟩, hsplit, hpositions⟩ := Option.bind_eq_some_iff.mp h
        obtain rfl := splitHyphen?_eq_some hsplit
        obtain ⟨hfits, hwritten⟩ := ofPositions?_eq_some_iff.mp hpositions
        exact ⟨hfits, first, last, hranges.symm, hwritten⟩
    · cases h
  · rintro ⟨hfits, first, last, htrim, hwritten⟩
    -- neither a hyphen nor a comma is among the characters of a number, or a blank
    have hother : ∀ c, ¬(isBlank c = true ∨ c = '+' ∨ isDigit c = true) → c ∉ first ++ last := fun c hc hmem =>
      hc (hwritten.mem_signed c hmem)
    have hhyphen : '-' ∉ first := fun hmem => hother '-' (by decide) (List.mem_append_left _ hmem)
    have hcomma : ',' ∉ first ++ '-' :: last := by
      have hnone := hother ',' (by decide)
      simp only [List.mem_append, List.mem_cons, not_or] at hnone ⊢
      exact ⟨hnone.1, by decide, hnone.2⟩
    have hunit : unit.isPrefixOf (unit ++ (first ++ '-' :: last)) = true :=
      List.isPrefixOf_iff_prefix.mpr (List.prefix_append _ _)
    rw [parse?, htrim]
    simp only [hunit, if_true, List.drop_left, if_neg hcomma, splitHyphen?_append hhyphen,
      Option.bind_some]
    exact ofPositions?_eq_some_iff.mpr ⟨hfits, hwritten⟩

end RangeSpec

/-- **The grammar of ranges.** A header selects something of a file, or is told that it cannot, exactly if it is
written as a range, each number being digits for a word of 64 bits with an optional plus sign in front, and does
not run backwards. Without a plus sign it is written as RFC 9110 has it, in digits alone. Around its one hyphen
there is nothing but digits, blanks and plus signs, so that a minus sign, a second hyphen and a list of ranges are
ignored. -/
theorem ByteRange.parse?_grammar (header : String) (size : Nat) (range : ByteRange) :
    (ByteRange.parse? header size = some range ↔
      ∃ spec : RangeSpec, spec.Fits ∧ spec.WrittenIn Signed header ∧ spec.select size = some range) ∧
    ('+' ∉ header.toList → ByteRange.parse? header size = some range →
      ∃ spec : RangeSpec, spec.WrittenIn Plain header ∧ spec.select size = some range) ∧
    (ByteRange.parse? header size = some range →
      ∃ first last, trim header.toList = RangeSpec.unit ++ (first ++ '-' :: last) ∧
        ∀ c ∈ first ++ last, isBlank c = true ∨ c = '+' ∨ isDigit c = true) := by
  have hread : ByteRange.parse? header size = some range ↔
      ∃ spec : RangeSpec, spec.Fits ∧ spec.WrittenIn Signed header ∧ spec.select size = some range := by
    simp only [ByteRange.parse?, Option.bind_eq_some_iff, RangeSpec.parse?_eq_some_iff, and_assoc]
  refine ⟨hread, fun hplus h => ?_, fun h => ?_⟩
  · obtain ⟨spec, -, hwritten, hselect⟩ := hread.mp h
    exact ⟨spec, hwritten.plain hplus, hselect⟩
  · obtain ⟨spec, -, ⟨first, last, htrim, hwritten⟩, -⟩ := hread.mp h
    exact ⟨first, last, htrim, hwritten.mem_signed⟩

/-- A header with blanks wherever there may be some, and no plus sign. -/
theorem ByteRange.parse?_grammar_blanks :
    ByteRange.parse? " bytes= 5 - 9 " 1000 = some (.span 5 9) ∧ '+' ∉ " bytes= 5 - 9 ".toList ∧
      ∃ spec : RangeSpec, spec.WrittenIn Plain " bytes= 5 - 9 " ∧ spec.select 1000 = some (.span 5 9) := by
  have hread : ByteRange.parse? " bytes= 5 - 9 " 1000 = some (.span 5 9) := by decide
  have hplus : '+' ∉ " bytes= 5 - 9 ".toList := by decide
  exact ⟨hread, hplus, (parse?_grammar _ _ _).2.1 hplus hread⟩

/-- **A plus sign is taken for a part of a number.** The header selects a range, and none is written so. -/
theorem ByteRange.parse?_plus_sign :
    ByteRange.parse? "bytes=+5-9" 1000 = some (.span 5 9) ∧
      ∀ spec : RangeSpec, ¬spec.WrittenIn Plain "bytes=+5-9" := by
  refine ⟨by decide, ?_⟩
  rintro spec ⟨first, last, htrim, hwritten⟩
  have hunit : trim "bytes=+5-9".toList = RangeSpec.unit ++ "+5-9".toList := by decide
  rw [hunit] at htrim
  -- the plus sign would be a blank or a digit
  have hmem : '+' ∈ first ++ '-' :: last := List.append_cancel_left htrim ▸ (by decide : '+' ∈ "+5-9".toList)
  have hplus : '+' ∈ first ++ last := by
    rw [List.mem_append, List.mem_cons] at hmem
    exact List.mem_append.mpr (hmem.imp_right fun hmem => hmem.resolve_left (by decide))
  rcases hwritten.mem hplus with hblank | ⟨digits, n, hn, hdigit⟩
  · exact absurd hblank (by decide)
  · exact absurd (hn.mem '+' hdigit) (by decide)

end Http
end ChunkVault
