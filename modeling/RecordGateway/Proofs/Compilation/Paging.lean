import Mathlib.Algebra.Group.Int.Defs
import Mathlib.Tactic.ByContra
import Mathlib.Tactic.Lemma
import RecordGateway.Compilation.Paging
import RecordGateway.Word

/-!
# The arithmetic of pages

Rows to skip and to return are signed words of 64 bits, page sizes and page numbers are words of 32
bits, and the first row of a page is a word of 64 bits again.  The page of a window is given by
exact arithmetic; `pageInWords` computes it in words, with a check for each operation that may leave
the range of its word.  The two agree on all windows (`pageInWords_eq`), because no division fails
and a page number that leaves the range is refused in any case.

A window is a page exactly when it starts at a multiple of its size, and then the page has as many
rows and starts at the same row (`pageArithmetic`).
-/

namespace RecordGateway

/-! ### Words with checks -/

/-- The remainder of two words, unless the divisor is zero or the quotient is no word. -/
def remainder? (a b : Int64) : Option Int64 :=
  if b = 0 ∨ (a = .minValue ∧ b = -1) then none else some (a % b)

/-- The quotient of two words, unless the divisor is zero or the quotient is no word. -/
def quotient? (a b : Int64) : Option Int64 :=
  if b = 0 ∨ (a = .minValue ∧ b = -1) then none else some (a / b)

/-- The sum of two words, unless it is no word. -/
def sum? (a b : Int64) : Option Int64 :=
  if (a + b).toInt = a.toInt + b.toInt then some (a + b) else none

/-- The word of 32 bits with the value of one of 64 bits, if there is one. -/
def word32? (a : Int64) : Option UInt32 :=
  if 0 ≤ a.toInt ∧ a.toInt < UInt32.size then some (.ofNat a.toInt.toNat) else none

/-- The page that a window of rows is, computed in words. -/
def pageInWords (maxPageSize : UInt32) (skip top : Option Int64) :
    Except CompilationError (Option Page) :=
  let skipped := skip.getD 0
  if skipped < 0 then .error (.negative .skip skipped.toInt)
  else match top with
    | none => if 0 < skipped then .error (.skipWithoutTop skipped.toInt) else .ok none
    | some top =>
      if top < 0 then .error (.negative .top top.toInt)
      else if .ofNat maxPageSize.toNat < top then .error (.pageTooLarge top.toInt maxPageSize)
      else match word32? top with
        | none => .error (.pageTooLarge top.toInt maxPageSize)
        | some count =>
          if count = 0 then .ok (some ⟨0, 1⟩)
          else if remainder? skipped top ≠ some 0 then
            .error (.misalignedPaging skipped.toInt top.toInt)
          else match ((quotient? skipped top).bind (sum? · 1)).bind word32? with
            | none => .error (.pageOutOfRange skipped.toInt)
            | some number => .ok (some ⟨count, number⟩)

/-- The number of rows in front of a page, computed in words. -/
def Page.offsetInWords (p : Page) : UInt64 :=
  (if p.number = 0 then 0 else p.number - 1).toUInt64 * p.count.toUInt64

section Words

variable {a b : Int64}

/-- Divisions by positive words do not fail. -/
lemma not_overflows_of_pos (hb : 0 < b.toInt) : ¬(b = 0 ∨ (a = .minValue ∧ b = -1)) := by
  rintro (rfl | ⟨-, rfl⟩) <;> exact absurd hb (by decide)

/-- The quotient by a positive number is exact. -/
lemma quotient?_of_pos (ha : 0 ≤ a.toInt) (hb : 0 < b.toInt) :
    ∃ q, quotient? a b = some q ∧ q.toInt = a.toInt / b.toInt := by
  refine ⟨a / b, if_neg (not_overflows_of_pos hb), ?_⟩
  have hne : b ≠ -1 := by
    rintro rfl
    exact absurd hb (by decide)
  rw [Int64.toInt_div_of_ne_right a b hne, Int.tdiv_eq_ediv_of_nonneg ha]

/-- The remainder by a positive number is exact. -/
lemma remainder?_of_pos (ha : 0 ≤ a.toInt) (hb : 0 < b.toInt) :
    ∃ m, remainder? a b = some m ∧ m.toInt = a.toInt % b.toInt := by
  refine ⟨a % b, if_neg (not_overflows_of_pos hb), ?_⟩
  rw [Int64.toInt_mod, Int.tmod_eq_emod_of_nonneg ha]

/-- A sum of words is exact if there is one. -/
lemma sum?_eq_some {c : Int64} : sum? a b = some c ↔ c.toInt = a.toInt + b.toInt := by
  unfold sum?
  split
  case isTrue hexact => rw [← hexact, Option.some.injEq, Int64.toInt_inj, eq_comm]
  case isFalse hwraps =>
    refine iff_of_false nofun fun hc => hwraps ?_
    -- a sum that is the value of a word does not wrap
    rw [Int64.toInt_add, ← hc]
    exact Int64.toInt_bmod c

/-- There is no sum of words precisely if it leaves 64 bits. -/
lemma sum?_eq_none :
    sum? a b = none ↔ a.toInt + b.toInt < -2 ^ 63 ∨ 2 ^ 63 ≤ a.toInt + b.toInt := by
  rw [Option.eq_none_iff_forall_ne_some]
  constructor
  · intro h
    by_contra hrange
    refine h (.ofInt (a.toInt + b.toInt)) (sum?_eq_some.mpr ?_)
    exact Int64.toInt_ofInt_of_le (by omega) (by omega)
  · intro h c hc
    have hsum := sum?_eq_some.mp hc
    have hlt := c.toInt_lt
    have hle := c.le_toInt
    omega

/-- A word of 32 bits is the number itself if there is one. -/
lemma word32?_eq_some {n : UInt32} : word32? a = some n ↔ (n.toNat : Int) = a.toInt := by
  unfold word32?
  split
  case isTrue hrange =>
    have hlt : a.toInt.toNat < UInt32.size := by omega
    have hvalue : (UInt32.ofNat a.toInt.toNat).toNat = a.toInt.toNat :=
      UInt32.toNat_ofNat_of_lt' hlt
    rw [Option.some.injEq, ← UInt32.toNat_inj, hvalue]
    omega
  case isFalse hrange =>
    refine iff_of_false nofun fun hn => hrange ?_
    have hlt : n.toNat < UInt32.size := n.toNat_lt
    omega

/-- There is no word of 32 bits precisely if the number is negative or too large. -/
lemma word32?_eq_none : word32? a = none ↔ a.toInt < 0 ∨ (UInt32.size : Int) ≤ a.toInt := by
  unfold word32?
  split
  case isTrue hrange => exact iff_of_false nofun (by omega)
  case isFalse hrange => exact iff_of_true rfl (by omega)

/-- A number that is neither negative nor too large is a word of 32 bits. -/
lemma exists_word32? (hnonneg : 0 ≤ a.toInt) (hlt : a.toInt < UInt32.size) :
    ∃ n, word32? a = some n :=
  ⟨_, if_pos ⟨hnonneg, hlt⟩⟩

end Words

/-! ### Pages -/

/-- The number of rows to skip, none if it is left open. -/
def rowsToSkip (skip : Option Int64) : Int :=
  (skip.getD 0).toInt

section Pages

variable {maxPageSize : UInt32} {skip top : Option Int64}

/-- The rows to skip are as many as is said, and none if nothing is said. -/
lemma getD_map_toInt (skip : Option Int64) : (skip.map Int64.toInt).getD 0 = rowsToSkip skip := by
  cases skip <;> rfl

/-- The number of a page as a word of 32 bits, if exact arithmetic finds one. -/
lemma pageNumber_eq {skipped top : Int64} (hskipped : 0 ≤ skipped.toInt) (htop : 0 < top.toInt) :
    ((quotient? skipped top).bind (sum? · 1)).bind word32? =
      if (UInt32.size : Int) ≤ skipped.toInt / top.toInt + 1 then none
      else some (.ofNat (skipped.toInt / top.toInt + 1).toNat) := by
  obtain ⟨q, hq, hquotient⟩ := quotient?_of_pos hskipped htop
  have hnonneg : 0 ≤ skipped.toInt / top.toInt := Int.ediv_nonneg hskipped (Int.le_of_lt htop)
  rw [hq, Option.bind_some, ← hquotient]
  rw [← hquotient] at hnonneg
  have hone : (1 : Int64).toInt = 1 := rfl
  have hsize : (UInt32.size : Int) = 2 ^ 32 := rfl
  cases hsum : sum? q 1 with
  | none =>
    -- the number is `2 ^ 63`
    rw [sum?_eq_none, hone] at hsum
    rw [Option.bind_none, if_pos (by omega)]
  | some number =>
    rw [sum?_eq_some, hone] at hsum
    rw [Option.bind_some, ← hsum]
    split
    case isTrue hlarge => exact word32?_eq_none.mpr (.inr hlarge)
    case isFalse hsmall =>
      rw [word32?_eq_some, UInt32.toNat_ofNat_of_lt' (by omega)]
      omega

/-- The page of a window is the same in words as in exact arithmetic. -/
theorem pageInWords_eq (maxPageSize : UInt32) (skip top : Option Int64) :
    pageInWords maxPageSize skip top = pageOf maxPageSize skip top := by
  unfold pageInWords pageOf
  rw [getD_map_toInt]
  unfold rowsToSkip
  generalize skip.getD 0 = skipped
  simp only [Int64.lt_iff_toInt_lt, Int64.toInt_zero]
  by_cases hskipped : skipped.toInt < 0
  · rw [if_pos hskipped, if_pos hskipped]
  rw [if_neg hskipped, if_neg hskipped]
  cases top with
  | none => rfl
  | some top =>
    have hmax : (Int64.ofNat maxPageSize.toNat).toInt = maxPageSize.toNat :=
      Int64.toInt_ofNat_of_lt (Nat.lt_trans maxPageSize.toNat_lt (by decide))
    simp only [Option.map_some, hmax]
    by_cases hnegative : top.toInt < 0
    · rw [if_pos hnegative, if_pos hnegative]
    rw [if_neg hnegative, if_neg hnegative]
    by_cases hlarge : (maxPageSize.toNat : Int) < top.toInt
    · rw [if_pos hlarge, if_pos hlarge]
    rw [if_neg hlarge, if_neg hlarge]
    -- a size that is not too large is a word of 32 bits
    have hbound : maxPageSize.toNat < UInt32.size := maxPageSize.toNat_lt
    obtain ⟨count, hcount⟩ := exists_word32? (Int.not_lt.mp hnegative)
      (Int.lt_of_le_of_lt (Int.not_lt.mp hlarge) (by omega))
    have hvalue : (count.toNat : Int) = top.toInt := word32?_eq_some.mp hcount
    have hcount_eq : count = .ofNat top.toInt.toNat := by
      rw [← hvalue, Int.toNat_natCast, UInt32.ofNat_toNat]
    simp only [hcount]
    by_cases hzero : top.toInt = 0
    · have hcount0 : count = 0 := by
        rw [← UInt32.toNat_inj, UInt32.toNat_zero]
        omega
      rw [if_pos hcount0, if_pos hzero]
    · have hcount0 : count ≠ 0 := by
        rintro rfl
        exact hzero hvalue.symm
      have hpos : 0 < top.toInt := by omega
      rw [if_neg hcount0, if_neg hzero]
      obtain ⟨m, hm, hmod⟩ := remainder?_of_pos (Int.not_lt.mp hskipped) hpos
      have haligned : remainder? skipped top ≠ some 0 ↔ skipped.toInt % top.toInt ≠ 0 := by
        rw [hm, ← hmod, ne_eq, Option.some.injEq, ← Int64.toInt_inj, Int64.toInt_zero]
      simp only [haligned]
      by_cases hmisaligned : skipped.toInt % top.toInt ≠ 0
      · rw [if_pos hmisaligned, if_pos hmisaligned]
      · rw [if_neg hmisaligned, if_neg hmisaligned,
          pageNumber_eq (Int.not_lt.mp hskipped) hpos]
        by_cases hrange : (UInt32.size : Int) ≤ skipped.toInt / top.toInt + 1
        · rw [if_pos hrange, if_pos hrange]
        · rw [if_neg hrange, if_neg hrange, hcount_eq]

/-- No page starts at a row whose number leaves 64 bits. -/
theorem Page.toNat_offsetInWords (p : Page) : p.offsetInWords.toNat = p.offset := by
  have hbefore : (if p.number = 0 then 0 else p.number - 1).toNat = p.number.toNat - 1 := by
    split
    case isTrue hzero => rw [hzero]; rfl
    case isFalse hne =>
      have hpos : 1 ≤ p.number.toNat := by
        rw [← UInt32.toNat_inj] at hne
        exact Nat.pos_of_ne_zero hne
      exact UInt32.toNat_sub_of_le _ _ hpos
  have hbound : (p.number.toNat - 1) * p.count.toNat < 2 ^ 64 := by
    have hnumber := p.number.toNat_lt
    calc (p.number.toNat - 1) * p.count.toNat
        ≤ (2 ^ 32 - 1) * (2 ^ 32 - 1) :=
          Nat.mul_le_mul (by omega) (Nat.le_sub_one_of_lt p.count.toNat_lt)
      _ < 2 ^ 64 := by decide
  rw [offsetInWords, UInt64.toNat_mul, UInt32.toNat_toUInt64, UInt32.toNat_toUInt64, hbefore,
    Nat.mod_eq_of_lt hbound, offset]

/-- When a window is a page: it starts at a multiple of its size, unless it has no rows, and the
number of the page is a word of 32 bits. -/
theorem pageOf_eq_some_iff {page : Page} :
    pageOf maxPageSize skip top = .ok (some page) ↔
      ∃ count, top = some count ∧ 0 ≤ rowsToSkip skip ∧ 0 ≤ count.toInt ∧
        count.toInt ≤ maxPageSize.toNat ∧
        ((count.toInt = 0 ∧ page = ⟨0, 1⟩) ∨
          (0 < count.toInt ∧ count.toInt ∣ rowsToSkip skip ∧
            rowsToSkip skip / count.toInt + 1 < UInt32.size ∧
            page = ⟨.ofNat count.toInt.toNat,
              .ofNat (rowsToSkip skip / count.toInt + 1).toNat⟩)) := by
  unfold pageOf
  rw [getD_map_toInt]
  -- the cases are the checks in their order, and only the last one lets a page of rows through
  by_cases hskipped : rowsToSkip skip < 0
  · rw [if_pos hskipped]
    exact iff_of_false nofun fun ⟨_, _, hnonneg, _⟩ => absurd hskipped (Int.not_lt.mpr hnonneg)
  rw [if_neg hskipped]
  cases top with
  | none =>
    refine iff_of_false (fun h => ?_) nofun
    dsimp only [Option.map_none] at h
    split at h <;> cases h
  | some count =>
    simp only [Option.map_some, Option.some.injEq, exists_eq_left', Int.not_lt.mp hskipped,
      true_and]
    by_cases hnegative : count.toInt < 0
    · rw [if_pos hnegative]
      exact iff_of_false nofun (by omega)
    rw [if_neg hnegative]
    by_cases hlarge : (maxPageSize.toNat : Int) < count.toInt
    · rw [if_pos hlarge]
      exact iff_of_false nofun (by omega)
    rw [if_neg hlarge]
    simp only [Int.not_lt.mp hnegative, Int.not_lt.mp hlarge, true_and]
    by_cases hzero : count.toInt = 0
    · rw [if_pos hzero]
      simp [hzero, eq_comm]
    · have hpos : 0 < count.toInt := by omega
      rw [if_neg hzero, Int.dvd_iff_emod_eq_zero]
      simp only [hzero, hpos, false_and, false_or, true_and]
      by_cases haligned : rowsToSkip skip % count.toInt = 0
      · rw [if_neg (not_not_intro haligned)]
        by_cases hrange : (UInt32.size : Int) ≤ rowsToSkip skip / count.toInt + 1
        · rw [if_pos hrange]
          exact iff_of_false nofun (by omega)
        · rw [if_neg hrange]
          simp only [haligned, Int.not_le.mp hrange, true_and, Except.ok.injEq, Option.some.injEq]
          exact eq_comm
      · rw [if_pos haligned]
        exact iff_of_false nofun fun h => haligned h.1

/-- When a window asks for all rows. -/
theorem pageOf_eq_none_iff :
    pageOf maxPageSize skip top = .ok none ↔ top = none ∧ (skip = none ∨ skip = some 0) := by
  have hzero : rowsToSkip skip = 0 ↔ skip = none ∨ skip = some 0 := by
    cases skip with
    | none => exact iff_of_true rfl (.inl rfl)
    | some s => simp [rowsToSkip, ← Int64.toInt_inj]
  unfold pageOf
  rw [getD_map_toInt, ← hzero]
  by_cases hskipped : rowsToSkip skip < 0
  · rw [if_pos hskipped]
    exact iff_of_false nofun (by omega)
  rw [if_neg hskipped]
  cases top with
  | none =>
    dsimp only [Option.map_none]
    by_cases hpos : 0 < rowsToSkip skip
    · rw [if_pos hpos]
      exact iff_of_false nofun (by omega)
    · rw [if_neg hpos]
      exact iff_of_true rfl ⟨rfl, by omega⟩
  | some count =>
    refine iff_of_false (fun h => ?_) nofun
    dsimp only [Option.map_some] at h
    repeat' split at h
    all_goals cases h

end Pages

/-- What the page of a window is worth. -/
structure PageArithmetic (maxPageSize : UInt32) (skip top : Option Int64) : Prop where
  /-- Exact arithmetic finds what words find. -/
  inWords_eq : pageInWords maxPageSize skip top = pageOf maxPageSize skip top
  /-- A size that is not too large is a word of 32 bits. -/
  size : ∀ count ∈ top, 0 ≤ count.toInt → count.toInt ≤ maxPageSize.toNat →
    ∃ n, word32? count = some n ∧ (n.toNat : Int) = count.toInt
  /-- Quotient and remainder by a size are exact.  If the number of the page leaves 64 bits, there
  is no such page. -/
  divides : ∀ count ∈ top, 0 ≤ rowsToSkip skip → 0 < count.toInt →
    ∃ q m, quotient? (skip.getD 0) count = some q ∧ q.toInt = rowsToSkip skip / count.toInt ∧
      remainder? (skip.getD 0) count = some m ∧ m.toInt = rowsToSkip skip % count.toInt ∧
      ((∃ n, sum? q 1 = some n ∧ n.toInt = q.toInt + 1) ∨
        ∀ page, pageOf maxPageSize skip top ≠ .ok page)
  /-- All rows are asked for by no size and no rows to skip. -/
  all_iff : pageOf maxPageSize skip top = .ok none ↔ top = none ∧ (skip = none ∨ skip = some 0)
  /-- A page is asked for by a size that is not too large and divides the rows to skip, as long as
  the number of the page has 32 bits; or by the size zero. -/
  page_iff : (∃ page, pageOf maxPageSize skip top = .ok (some page)) ↔
    0 ≤ rowsToSkip skip ∧ ∃ count, top = some count ∧ 0 ≤ count.toInt ∧
      count.toInt ≤ maxPageSize.toNat ∧ (count.toInt = 0 ∨
        (count.toInt ∣ rowsToSkip skip ∧ rowsToSkip skip / count.toInt + 1 ≤ 2 ^ 32 - 1))
  /-- A page has as many rows as were asked for, and starts behind the rows to skip. -/
  page_eq : ∀ page count, pageOf maxPageSize skip top = .ok (some page) → top = some count →
    (page.count.toNat : Int) = count.toInt ∧ 1 ≤ page.number.toNat ∧
      page.offsetInWords.toNat = page.offset ∧
      (count ≠ 0 → (page.offset : Int) = rowsToSkip skip)
  /-- Whatever rows are skipped, the size zero asks for nothing. -/
  empty : 0 ≤ rowsToSkip skip → top = some 0 →
    ∃ page, pageOf maxPageSize skip top = .ok (some page) ∧
      ∀ native : NativeQuery, native.page = some page → native.yieldsNothing = true

section Arithmetic

variable {maxPageSize : UInt32} {skip top : Option Int64} {page : Page} {count : Int64}

/-- A page starts behind the rows to skip. -/
lemma page_eq_of_pageOf (h : pageOf maxPageSize skip top = .ok (some page))
    (htop : top = some count) :
    (page.count.toNat : Int) = count.toInt ∧ 1 ≤ page.number.toNat ∧
      (count ≠ 0 → (page.offset : Int) = rowsToSkip skip) := by
  obtain ⟨count', hcount, hskip, hnonneg, hmax, hpage⟩ := pageOf_eq_some_iff.mp h
  obtain rfl : count = count' := Option.some.inj (htop.symm.trans hcount)
  rcases hpage with ⟨hzero, rfl⟩ | ⟨hpos, hdvd, hnumber, rfl⟩
  · refine ⟨hzero.symm, Nat.le_refl 1, fun hne => absurd ?_ hne⟩
    rw [← Int64.toInt_inj]
    exact hzero
  · have hbound : maxPageSize.toNat < UInt32.size := maxPageSize.toNat_lt
    have hquotient : 0 ≤ rowsToSkip skip / count.toInt := Int.ediv_nonneg hskip hnonneg
    have hrows : (UInt32.ofNat count.toInt.toNat).toNat = count.toInt.toNat :=
      UInt32.toNat_ofNat_of_lt' (by omega)
    have hindex : (UInt32.ofNat (rowsToSkip skip / count.toInt + 1).toNat).toNat =
        (rowsToSkip skip / count.toInt + 1).toNat :=
      UInt32.toNat_ofNat_of_lt' (by omega)
    refine ⟨by rw [hrows, Int.toNat_of_nonneg hnonneg], by rw [hindex]; omega, fun _ => ?_⟩
    have hbefore : (((rowsToSkip skip / count.toInt + 1).toNat - 1 : Nat) : Int) =
        rowsToSkip skip / count.toInt := by
      omega
    rw [Page.offset, hrows, hindex, Int.natCast_mul, hbefore, Int.toNat_of_nonneg hnonneg]
    exact Int.ediv_mul_cancel hdvd

/-- If the number of the page is no word, the window is no page. -/
lemma exists_sum?_or_no_page (hskip : 0 ≤ rowsToSkip skip) (hpos : 0 < count.toInt)
    (htop : top = some count) {q : Int64} (hq : q.toInt = rowsToSkip skip / count.toInt) :
    (∃ n, sum? q 1 = some n ∧ n.toInt = q.toInt + 1) ∨
      ∀ page, pageOf maxPageSize skip top ≠ .ok page := by
  cases hsum : sum? q 1 with
  | some n => exact .inl ⟨n, rfl, sum?_eq_some.mp hsum⟩
  | none =>
    right
    have hone : (1 : Int64).toInt = 1 := rfl
    have hsize : (UInt32.size : Int) = 2 ^ 32 := rfl
    have hquotient : 0 ≤ rowsToSkip skip / count.toInt :=
      Int.ediv_nonneg hskip (Int.le_of_lt hpos)
    rw [sum?_eq_none, hone, hq] at hsum
    rintro (- | page) hpage
    · cases htop.symm.trans (pageOf_eq_none_iff.mp hpage).1
    · obtain ⟨count', hcount, -, -, -, ⟨hzero, -⟩ | ⟨-, -, hnumber, -⟩⟩ :=
        pageOf_eq_some_iff.mp hpage
      all_goals
        obtain rfl : count = count' := Option.some.inj (htop.symm.trans hcount)
        omega

end Arithmetic

/-- **The arithmetic of pages is exact.**  For all rows to skip and to return and all greatest page
sizes, the page of a window is found without overflow and without a division by zero, exactly for
the windows that are pages, and is the window that it stands for. -/
theorem pageArithmetic (maxPageSize : UInt32) (skip top : Option Int64) :
    PageArithmetic maxPageSize skip top where
  inWords_eq := pageInWords_eq maxPageSize skip top
  size count _ hnonneg hmax := by
    have hbound : maxPageSize.toNat < UInt32.size := maxPageSize.toNat_lt
    obtain ⟨n, hn⟩ := exists_word32? hnonneg (by omega)
    exact ⟨n, hn, word32?_eq_some.mp hn⟩
  divides count hcount hskip hpos := by
    obtain ⟨q, hq, hquotient⟩ := quotient?_of_pos hskip hpos
    obtain ⟨m, hm, hremainder⟩ := remainder?_of_pos hskip hpos
    exact ⟨q, m, hq, hquotient, hm, hremainder,
      exists_sum?_or_no_page hskip hpos hcount hquotient⟩
  all_iff := pageOf_eq_none_iff
  page_iff := by
    have hsize : (UInt32.size : Int) = 2 ^ 32 := rfl
    constructor
    · rintro ⟨page, hpage⟩
      obtain ⟨count, hcount, hskip, hnonneg, hmax, hcase⟩ := pageOf_eq_some_iff.mp hpage
      refine ⟨hskip, count, hcount, hnonneg, hmax, hcase.imp And.left ?_⟩
      rintro ⟨-, hdvd, hnumber, -⟩
      exact ⟨hdvd, by omega⟩
    · rintro ⟨hskip, count, hcount, hnonneg, hmax, hcase⟩
      by_cases hzero : count.toInt = 0
      · exact ⟨_, pageOf_eq_some_iff.mpr
          ⟨count, hcount, hskip, hnonneg, hmax, .inl ⟨hzero, rfl⟩⟩⟩
      · obtain ⟨hdvd, hnumber⟩ := hcase.resolve_left hzero
        exact ⟨_, pageOf_eq_some_iff.mpr ⟨count, hcount, hskip, hnonneg, hmax,
          .inr ⟨by omega, hdvd, by omega, rfl⟩⟩⟩
  page_eq page count hpage hcount := by
    obtain ⟨hrows, hnumber, hoffset⟩ := page_eq_of_pageOf hpage hcount
    exact ⟨hrows, hnumber, page.toNat_offsetInWords, hoffset⟩
  empty hskip htop := by
    refine ⟨⟨0, 1⟩, pageOf_eq_some_iff.mpr ⟨0, htop, hskip, Int.le_refl 0,
      Int.natCast_nonneg _, .inl ⟨rfl, rfl⟩⟩, fun native hnative => ?_⟩
    rw [NativeQuery.yieldsNothing, hnative]
    rfl

/-- The last page that has a number, and the first one that has none. -/
example : pageOf 1 (some 4294967294) (some 1) = .ok (some ⟨1, 4294967295⟩) ∧
    pageOf 1 (some 4294967295) (some 1) = .error (.pageOutOfRange 4294967295) :=
  ⟨rfl, rfl⟩

end RecordGateway
