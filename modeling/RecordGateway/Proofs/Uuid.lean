import Mathlib.Algebra.Group.Nat.Defs
import Mathlib.Data.List.Induction
import RecordGateway.Proofs.Text.Words
import RecordGateway.Uuid

/-!
# Texts of record identifiers

An identifier is written in four forms, all of them with its thirty-two digits in either case.  A
text is read as an identifier if it is one of these forms, and only then; the canonical text is one
of them.
-/

namespace RecordGateway

namespace Text

/-! ### Digits -/

section Digits

variable {cs : List Char} {c : Char} {n : Nat}

/-- What is needed of the sixteen hexadecimal digits: in either case, each one is read as its value,
and none is a blank, a hyphen or the start of another form. -/
lemma hexChar_spec : ∀ n < 16, ∀ c, IsCaseOf c (hexChar n) →
    hexDigit? c = some n ∧ isBlank c = false ∧ c ≠ '-' ∧ c ≠ 'u' ∧ c ≠ '{' := by
  have hdigits : ∀ n < 16, ([hexChar n, (hexChar n).toUpper].all fun c =>
      decide (hexDigit? c = some n ∧ isBlank c = false ∧ c ≠ '-' ∧ c ≠ 'u' ∧ c ≠ '{')) = true := by
    decide
  intro n hn c hc
  exact of_decide_eq_true (List.all_eq_true.mp (hdigits n hn) c (by simpa [IsCaseOf] using hc))

/-- A digit that is read is one of the sixteen. -/
lemma hexDigit?_eq_some_iff : hexDigit? c = some n ↔ n < 16 ∧ IsCaseOf c (hexChar n) := by
  refine ⟨fun h => ?_, fun ⟨hn, hc⟩ => (hexChar_spec n hn c hc).1⟩
  have hread : ∀ k < 128, ((hexDigit? (Char.ofNat k)).all fun n =>
      decide (n < 16 ∧ IsCaseOf (Char.ofNat k) (hexChar n))) = true := by
    decide
  have hsmall : c.val.toNat < 128 := by
    unfold hexDigit? at h
    simp only [Char.le_def, UInt32.le_iff_toNat_le] at h
    grind
  have hone := hread c.toNat hsmall
  rw [Char.ofNat_toNat, h] at hone
  exact of_decide_eq_true hone

/-- As many digits are written as the width says. -/
lemma length_hexDigits (width n : Nat) : (hexDigits width n).length = width := by
  induction width generalizing n with
  | zero => rfl
  | succ width ih => rw [hexDigits, List.length_append, ih, List.length_singleton]

/-- Every digit of a number is the digit of a number below sixteen. -/
lemma exists_of_mem_hexDigits {width : Nat} (h : c ∈ hexDigits width n) :
    ∃ d < 16, c = hexChar d := by
  induction width generalizing n with
  | zero => cases h
  | succ width ih =>
    rcases List.mem_append.mp h with h | h
    · exact ih h
    · exact ⟨n % 16, Nat.mod_lt _ (by decide), List.mem_singleton.mp h⟩

/-- What is needed of the digits of a number. -/
lemma Spells.of_hexDigits {width : Nat} (h : Spells cs (hexDigits width n)) :
    ∀ c ∈ cs, isBlank c = false ∧ c ≠ '-' ∧ c ≠ 'u' ∧ c ≠ '{' := by
  intro c hc
  obtain ⟨letter, hletter, hcase⟩ := h.exists_letter c hc
  obtain ⟨d, hd, rfl⟩ := exists_of_mem_hexDigits hletter
  exact (hexChar_spec d hd c hcase).2

/-- Digits are read one after the other. -/
lemma valueFrom_concat (read : Char → Option Nat) (base n : Nat) (cs : List Char) (c : Char) :
    valueFrom read base n (cs ++ [c]) =
      (valueFrom read base n cs).bind fun m => (read c).map (m * base + ·) := by
  induction cs generalizing n with
  | nil => cases h : read c <;> simp [valueFrom, h]
  | cons d cs ih => cases h : read d <;> simp [valueFrom, h, ih]

/-- A text is read as a number if it has the number's digits, and only then. -/
lemma valueFrom_hexDigit?_eq_some_iff : valueFrom hexDigit? 16 0 cs = some n ↔
    n < 16 ^ cs.length ∧ Spells cs (hexDigits cs.length n) := by
  -- by induction from the end of the text, where the lowest digit stands
  induction cs using List.reverseRecOn generalizing n with
  | nil => simp [valueFrom, hexDigits, Spells, eq_comm]
  | append_singleton cs c ih =>
    rw [valueFrom_concat, List.length_append, List.length_singleton, hexDigits, spells_concat_iff]
    constructor
    · intro h
      obtain ⟨m, hm, hlast⟩ := Option.bind_eq_some_iff.mp h
      obtain ⟨d, hd, rfl⟩ := Option.map_eq_some_iff.mp hlast
      obtain ⟨hbound, hspells⟩ := ih.mp hm
      obtain ⟨hlt, hcase⟩ := hexDigit?_eq_some_iff.mp hd
      have hdiv : (m * 16 + d) / 16 = m := by omega
      have hmod : (m * 16 + d) % 16 = d := by omega
      rw [hdiv, hmod, Nat.pow_succ]
      exact ⟨by omega, hspells, hcase⟩
    · rintro ⟨hbound, hspells, hcase⟩
      rw [Nat.pow_succ] at hbound
      have hrest := ih.mpr ⟨Nat.div_lt_of_lt_mul (by omega), hspells⟩
      have hlast := hexDigit?_eq_some_iff.mpr ⟨Nat.mod_lt n (by decide), hcase⟩
      rw [hrest, hlast, Option.bind_some, Option.map_some]
      exact congrArg some (by omega)

end Digits

end Text

namespace Uuid

/-- An identifier is its number. -/
lemma ofNat_value (id : Uuid) : ofNat id.value = id := by
  obtain ⟨value, hvalue⟩ := id
  simp only [ofNat, Nat.mod_eq_of_lt hvalue]

/-! ### Forms -/

/-- The forms in which identifiers are written. -/
inductive Form
  | simple
  | hyphenated
  | braced
  | urn

/-- Some digits in a form. -/
def Form.write : Form → List Char → List Char
  | simple, digits => digits
  | hyphenated, digits => hyphenate digits
  | braced, digits => '{' :: (hyphenate digits ++ ['}'])
  | urn, digits => "urn:uuid:".toList ++ hyphenate digits

/-- Whether a text writes an identifier: its digits, each in either case, in any form. -/
def Writes (cs : List Char) (id : Uuid) : Prop :=
  ∃ (form : Form) (digits : List Char),
    Text.Spells digits (Text.hexDigits 32 id.value) ∧ cs = form.write digits

/-! ### Reading -/

/-- Digits in the groups of the hyphenated form. -/
def groups (digits : List Char) : List (List Char) :=
  [digits.take 8, (digits.drop 8).take 4, (digits.drop 12).take 4, (digits.drop 16).take 4,
    digits.drop 20]

section Reading

variable {cs digits : List Char} {id : Uuid}

/-- Hyphens stand between the groups of digits. -/
lemma hyphenate_eq_intercalate (digits : List Char) :
    hyphenate digits = ['-'].intercalate (groups digits) := by
  simp [hyphenate, groups, List.intercalate, List.intersperse]

/-- The groups have all digits in their order. -/
lemma flatten_groups (digits : List Char) : (groups digits).flatten = digits := by
  have hnext (m n : Nat) : digits.take m ++ (digits.drop m).take n = digits.take (m + n) :=
    List.take_add.symm
  simp only [groups, List.flatten_cons, List.flatten_nil, List.append_nil, ← List.append_assoc]
  rw [hnext 8 4, hnext 12 4, hnext 16 4, List.take_append_drop]

/-- Digits that are hyphenated are found again between the hyphens. -/
lemma split_hyphenate (h : '-' ∉ digits) :
    Text.split (· == '-') (hyphenate digits) = groups digits := by
  rw [hyphenate_eq_intercalate]
  refine Text.split_intercalate (List.cons_ne_nil _ _) fun group hgroup hhyphen => h ?_
  rw [← flatten_groups digits]
  exact List.mem_flatten.mpr ⟨group, hgroup, hhyphen⟩

/-- What is hyphenated has the hyphens, and the digits. -/
lemma mem_hyphenate {c : Char} (h : c ∈ hyphenate digits) : c = '-' ∨ c ∈ digits := by
  have hgroups := flatten_groups digits
  simp only [hyphenate, groups, List.mem_append, List.mem_cons] at h hgroups
  grind

/-- An identifier is spelled with thirty-two digits. -/
lemma length_of_spells (h : Text.Spells digits (Text.hexDigits 32 id.value)) :
    digits.length = 32 :=
  h.length_eq.trans (Text.length_hexDigits 32 id.value)

/-- Digits are read as the identifier that they spell. -/
lemma ofDigits?_eq_some_iff :
    ofDigits? cs = some id ↔ Text.Spells cs (Text.hexDigits 32 id.value) := by
  unfold ofDigits?
  constructor
  · intro h
    split at h
    case isFalse => cases h
    case isTrue hlength =>
      obtain ⟨n, hn, rfl⟩ := Option.map_eq_some_iff.mp h
      unfold Text.hexNatural? at hn
      split at hn
      case isTrue => cases hn
      case isFalse =>
        obtain ⟨hbound, hspells⟩ := Text.valueFrom_hexDigit?_eq_some_iff.mp hn
        rw [hlength] at hbound hspells
        rwa [show (ofNat n).value = n from Nat.mod_eq_of_lt hbound]
  · intro h
    have hlength := length_of_spells h
    have hread : Text.valueFrom Text.hexDigit? 16 0 cs = some id.value :=
      Text.valueFrom_hexDigit?_eq_some_iff.mpr ⟨hlength ▸ id.value_lt, hlength ▸ h⟩
    have hne : cs ≠ [] := List.ne_nil_of_length_pos (by rw [hlength]; decide)
    rw [if_pos hlength, Text.hexNatural?, if_neg hne, hread, Option.map_some, ofNat_value]

/-- A hyphenated text is read as the identifier that its digits spell. -/
lemma ofHyphenated?_eq_some_iff : ofHyphenated? cs = some id ↔
    ∃ digits, Text.Spells digits (Text.hexDigits 32 id.value) ∧ cs = hyphenate digits := by
  unfold ofHyphenated?
  constructor
  · intro h
    split at h
    case h_2 => cases h
    case h_1 a b c d e hsplit =>
      split at h
      case isFalse => cases h
      case isTrue hlengths =>
        obtain ⟨ha, hb, hc, hd, -⟩ := hlengths
        refine ⟨_, ofDigits?_eq_some_iff.mp h, ?_⟩
        have hgroups : groups (a ++ b ++ c ++ d ++ e) = [a, b, c, d, e] := by
          simp (disch := omega) [groups, List.drop_append, List.drop_of_length_le, ha, hb, hc]
        rw [hyphenate_eq_intercalate, hgroups, ← hsplit, Text.intercalate_split]
  · rintro ⟨digits, hdigits, rfl⟩
    have hlength := length_of_spells hdigits
    have hflat := flatten_groups digits
    rw [split_hyphenate fun h => (hdigits.of_hexDigits _ h).2.1 rfl]
    simp only [groups, List.flatten_cons, List.flatten_nil, List.append_nil,
      ← List.append_assoc] at hflat ⊢
    rw [if_pos (by simp [hlength]), hflat]
    exact ofDigits?_eq_some_iff.mpr hdigits

/-- Where neither of the two marks is, the length decides between the other two forms. -/
lemma ofChars?_of_unmarked (h : ∀ c ∈ cs, c ≠ 'u' ∧ c ≠ '{') :
    ofChars? cs = if cs.length = 32 then ofDigits? cs else ofHyphenated? cs := by
  unfold ofChars?
  split
  · exact absurd rfl (h 'u' List.mem_cons_self).1
  · exact absurd rfl (h '{' List.mem_cons_self).2
  · rfl

/-- A text is read as an identifier if it writes the identifier, and only then. -/
theorem ofChars?_eq_some_iff : ofChars? cs = some id ↔ Writes cs id := by
  constructor
  · intro h
    unfold ofChars? at h
    split at h
    case h_1 rest =>
      obtain ⟨digits, hdigits, rfl⟩ := ofHyphenated?_eq_some_iff.mp h
      exact ⟨.urn, digits, hdigits, rfl⟩
    case h_2 rest =>
      split at h
      case isFalse => cases h
      case isTrue hlast =>
        obtain ⟨digits, hdigits, hrest⟩ := ofHyphenated?_eq_some_iff.mp h
        obtain ⟨inner, rfl⟩ := List.getLast?_eq_some_iff.mp hlast
        rw [List.dropLast_concat] at hrest
        exact ⟨.braced, digits, hdigits, by rw [hrest]; rfl⟩
    case h_3 =>
      split at h
      · exact ⟨.simple, _, ofDigits?_eq_some_iff.mp h, rfl⟩
      · obtain ⟨digits, hdigits, rfl⟩ := ofHyphenated?_eq_some_iff.mp h
        exact ⟨.hyphenated, digits, hdigits, rfl⟩
  · rintro ⟨form, digits, hdigits, rfl⟩
    have hread := ofHyphenated?_eq_some_iff.mpr ⟨digits, hdigits, rfl⟩
    have hlength := length_of_spells hdigits
    -- digits start neither of the marked forms, so that the first character tells the form
    have hunmarked : ∀ c ∈ digits, c ≠ 'u' ∧ c ≠ '{' :=
      fun c hc => (hdigits.of_hexDigits c hc).2.2
    cases form with
    | simple =>
      have hsimple := ofChars?_of_unmarked hunmarked
      rw [if_pos hlength] at hsimple
      exact hsimple.trans (ofDigits?_eq_some_iff.mpr hdigits)
    | hyphenated =>
      have hlong : (hyphenate digits).length ≠ 32 := by simp [hyphenate, hlength]
      have hhyphenated : ofChars? (hyphenate digits) = _ := ofChars?_of_unmarked fun c hc => by
        rcases mem_hyphenate hc with rfl | hc
        · decide
        · exact hunmarked c hc
      rw [if_neg hlong] at hhyphenated
      exact hhyphenated.trans hread
    | braced =>
      change (if (hyphenate digits ++ ['}']).getLast? = some '}' then
        ofHyphenated? (hyphenate digits ++ ['}']).dropLast else none) = some id
      rw [List.getLast?_concat, if_pos rfl, List.dropLast_concat, hread]
    | urn => exact hread

/-- Nothing is blank in what writes an identifier. -/
lemma Writes.not_blank (h : Writes cs id) : ∀ c ∈ cs, Text.isBlank c = false := by
  obtain ⟨form, digits, hdigits, rfl⟩ := h
  have hclean : ∀ c ∈ digits, Text.isBlank c = false := fun c hc => (hdigits.of_hexDigits c hc).1
  have hhyphenated : ∀ c ∈ hyphenate digits, Text.isBlank c = false := by
    intro c hc
    rcases mem_hyphenate hc with rfl | hc
    · rfl
    · exact hclean c hc
  cases form with
  | simple => exact hclean
  | hyphenated => exact hhyphenated
  | braced =>
    refine List.forall_mem_cons.mpr ⟨rfl, List.forall_mem_append.mpr ⟨hhyphenated, ?_⟩⟩
    exact List.forall_mem_singleton.mpr rfl
  | urn =>
    have hmark : ("urn:uuid:".toList.all fun c => !Text.isBlank c) = true := by decide
    refine List.forall_mem_append.mpr ⟨fun c hc => ?_, hhyphenated⟩
    exact (Bool.not_eq_true' _).mp (List.all_eq_true.mp hmark c hc)

/-- The canonical text writes the identifier. -/
lemma writes_toChars (id : Uuid) : Writes id.toChars id :=
  ⟨.hyphenated, _, .refl _, rfl⟩

end Reading

end Uuid

end RecordGateway
