import Mathlib.Data.List.Forall2
import Mathlib.Data.List.TakeWhile
import Mathlib.Tactic.Lemma
import RecordGateway.Text.Blank

/-!
# Pieces, words, margins and letters of a text

How the three ways of cutting a text read it.  The pieces between separators are the only ones that
make up the text again; the words are found one after the other, each between blanks; and trimming
finds what stands between two margins of blanks.  Each is stated for texts that are written in
parts, beside the fact that every text is written so.

What is found may be written in either case.
-/

namespace RecordGateway.Text

/-! ### Pieces -/

/-- A text without separators is one piece. -/
lemma split_of_not_sep {sep : Char → Bool} {cs : List Char} (h : ∀ c ∈ cs, sep c = false) :
    split sep cs = [cs] := by
  induction cs with
  | nil => rfl
  | cons c cs ih =>
    obtain ⟨hc, hcs⟩ := List.forall_mem_cons.mp h
    rw [split, hc, ih hcs]
    rfl

/-- A separator ends the first piece. -/
lemma split_append_sep {sep : Char → Bool} {cs : List Char} (h : ∀ c ∈ cs, sep c = false)
    {c : Char} (hc : sep c = true) (rest : List Char) :
    split sep (cs ++ c :: rest) = cs :: split sep rest := by
  induction cs with
  | nil => rw [List.nil_append, split, if_pos hc]
  | cons d cs ih =>
    obtain ⟨hd, hcs⟩ := List.forall_mem_cons.mp h
    rw [List.cons_append, split, hd, ih hcs]
    rfl

/-- A text is split as the library splits lists. -/
lemma split_eq_splitOnP (sep : Char → Bool) (cs : List Char) : split sep cs = cs.splitOnP sep := by
  induction cs with
  | nil => rfl
  | cons c cs ih =>
    rw [split, ih, List.splitOnP_cons_eq_if_modifyHead]
    split
    · rfl
    · cases hpieces : cs.splitOnP sep with
      | nil => exact absurd hpieces (List.splitOnP_ne_nil sep cs)
      | cons piece pieces => rfl

section Split

variable {sep : Char} {cs : List Char} {pieces : List (List Char)}

/-- A text that is split has at least one piece. -/
lemma split_ne_nil (sep : Char → Bool) (cs : List Char) : split sep cs ≠ [] :=
  split_eq_splitOnP sep cs ▸ List.splitOnP_ne_nil sep cs

/-- The pieces make up the text. -/
lemma intercalate_split (sep : Char) (cs : List Char) :
    [sep].intercalate (split (· == sep) cs) = cs :=
  split_eq_splitOnP _ cs ▸ List.intercalate_splitOn sep

/-- Pieces that make up a text are found again. -/
lemma split_intercalate (hpieces : pieces ≠ []) (hsep : ∀ piece ∈ pieces, sep ∉ piece) :
    split (· == sep) ([sep].intercalate pieces) = pieces :=
  (split_eq_splitOnP _ _).trans (List.splitOn_intercalate sep hsep hpieces)

/-- No piece has a separator. -/
lemma not_sep_of_mem_split {sep : Char → Bool} {piece : List Char} (h : piece ∈ split sep cs) :
    ∀ c ∈ piece, sep c = false := by
  induction cs generalizing piece with
  | nil =>
    rw [List.mem_singleton.mp h]
    exact fun c hc => absurd hc List.not_mem_nil
  | cons d cs ih =>
    rw [split] at h
    split at h
    case isTrue =>
      rcases List.mem_cons.mp h with rfl | h
      · exact fun c hc => absurd hc List.not_mem_nil
      · exact ih h
    case isFalse hd =>
      cases hsplit : split sep cs with
      | nil => exact absurd hsplit (split_ne_nil sep cs)
      | cons first rest =>
        rw [hsplit] at h ih
        rcases List.mem_cons.mp h with rfl | h
        · exact List.forall_mem_cons.mpr
            ⟨Bool.eq_false_iff.mpr hd, ih List.mem_cons_self⟩
        · exact ih (List.mem_cons_of_mem first h)

end Split

/-! ### Words -/

/-- A text of nothing but white space. -/
def Blank (cs : List Char) : Prop :=
  ∀ c ∈ cs, isBlank c = true

/-- A text that has no white space and is not empty. -/
structure IsWord (cs : List Char) : Prop where
  ne_nil : cs ≠ []
  not_blank : ∀ c ∈ cs, isBlank c = false

/-- A text that is blank from its start on, if it has a start. -/
def StartsBlank (cs : List Char) : Prop :=
  ∀ c ∈ cs.head?, isBlank c = true

section Words

variable {cs before word after : List Char}

/-- White space is blank from its start on. -/
lemma Blank.startsBlank (h : Blank cs) : StartsBlank cs :=
  fun c hc => h c (List.mem_of_mem_head? hc)

/-- What follows does not change how a text starts. -/
lemma StartsBlank.append (h : StartsBlank cs) (hne : cs ≠ []) (others : List Char) :
    StartsBlank (cs ++ others) := by
  obtain ⟨c, rest, rfl⟩ := List.exists_cons_of_ne_nil hne
  exact h

/-- A word starts with no blank, whatever follows. -/
lemma IsWord.not_startsBlank_append (h : IsWord word) (others : List Char) :
    ¬StartsBlank (word ++ others) := by
  obtain ⟨c, rest, rfl⟩ := List.exists_cons_of_ne_nil h.ne_nil
  intro hstart
  have hc := hstart c rfl
  rw [h.not_blank c List.mem_cons_self] at hc
  cases hc

/-- A blank in front is skipped. -/
lemma words_cons_blank {c : Char} (hc : isBlank c = true) (cs : List Char) :
    words (c :: cs) = words cs := by
  rw [words, split, if_pos hc]
  rfl

/-- Blanks before a text do not matter. -/
lemma words_blank_append (hbefore : Blank before) (cs : List Char) :
    words (before ++ cs) = words cs := by
  induction before with
  | nil => rfl
  | cons c before ih =>
    obtain ⟨hc, hbefore⟩ := List.forall_mem_cons.mp hbefore
    rw [List.cons_append, words_cons_blank hc, ih hbefore]

/-- White space has no words. -/
lemma words_of_blank (h : Blank cs) : words cs = [] := by
  rw [← List.append_nil cs, words_blank_append h]
  rfl

/-- A word between blanks is the first one, and the others are those after it. -/
lemma words_append (hbefore : Blank before) (hword : IsWord word) (hafter : StartsBlank after) :
    words (before ++ (word ++ after)) = word :: words after := by
  rw [words_blank_append hbefore]
  have hkept (pieces : List (List Char)) :
      (word :: pieces).filter (· ≠ []) = word :: pieces.filter (· ≠ []) :=
    List.filter_cons_of_pos (decide_eq_true hword.ne_nil)
  cases after with
  | nil =>
    rw [List.append_nil, words, split_of_not_sep hword.not_blank, hkept]
    rfl
  | cons c after =>
    have hc : isBlank c = true := hafter c rfl
    rw [words_cons_blank hc, words, split_append_sep hword.not_blank hc, hkept, words]

/-- What is left when a run has been dropped does not start with more of it. -/
lemma not_of_mem_head?_dropWhile (cs : List Char) {p : Char → Bool} {c : Char}
    (h : c ∈ (cs.dropWhile p).head?) : p c = false := by
  have hhead := List.head?_dropWhile_not p cs
  rwa [Option.mem_def.mp h] at hhead

/-- A text that is not blank has a first word. -/
lemma blank_or_exists_word (cs : List Char) : Blank cs ∨ ∃ before word after,
    cs = before ++ (word ++ after) ∧ Blank before ∧ IsWord word ∧ StartsBlank after := by
  cases hrest : cs.dropWhile isBlank with
  | nil => exact .inl (List.dropWhile_eq_nil_iff.mp hrest)
  | cons c rest =>
    have hfirst : isBlank c = false := not_of_mem_head?_dropWhile cs (hrest ▸ rfl)
    refine .inr ⟨cs.takeWhile isBlank, (c :: rest).takeWhile (!isBlank ·),
      (c :: rest).dropWhile (!isBlank ·), ?_, fun _ h => List.mem_takeWhile_imp h, ⟨?_, ?_⟩, ?_⟩
    · rw [List.takeWhile_append_dropWhile, ← hrest, List.takeWhile_append_dropWhile]
    · rw [List.takeWhile_cons_of_pos (by rw [hfirst]; rfl)]
      exact List.cons_ne_nil _ _
    · intro d hd
      exact (Bool.not_eq_true' _).mp (List.mem_takeWhile_imp (p := (!isBlank ·)) hd)
    · exact fun d hd => (Bool.not_eq_false' _).mp (not_of_mem_head?_dropWhile _ hd)

/-- A text has no words if it is blank, and only then. -/
lemma words_eq_nil_iff : words cs = [] ↔ Blank cs := by
  refine ⟨fun h => ?_, words_of_blank⟩
  obtain hblank | ⟨before, word, after, rfl, hbefore, hword, hafter⟩ := blank_or_exists_word cs
  · exact hblank
  · rw [words_append hbefore hword hafter] at h
    cases h

/-- The first word of a text stands between blanks and is followed by the others. -/
lemma words_eq_cons_iff {others : List (List Char)} :
    words cs = word :: others ↔ ∃ before after, cs = before ++ (word ++ after) ∧ Blank before ∧
      IsWord word ∧ StartsBlank after ∧ words after = others := by
  constructor
  · intro h
    obtain hblank | ⟨before, first, after, rfl, hbefore, hfirst, hafter⟩ := blank_or_exists_word cs
    · rw [words_of_blank hblank] at h
      cases h
    · rw [words_append hbefore hfirst hafter] at h
      obtain ⟨rfl, hothers⟩ := List.cons.inj h
      exact ⟨before, after, rfl, hbefore, hfirst, hafter, hothers⟩
  · rintro ⟨before, after, rfl, hbefore, hword, hafter, rfl⟩
    exact words_append hbefore hword hafter

end Words

/-! ### Margins -/

/-- A text without white space at either end. -/
structure IsTrimmed (cs : List Char) : Prop where
  head : ∀ c ∈ cs.head?, isBlank c = false
  last : ∀ c ∈ cs.getLast?, isBlank c = false

section Margins

variable {cs before after : List Char}

/-- Nothing is dropped from a text that starts with no blank. -/
lemma dropWhile_isBlank_of_head (h : ∀ c ∈ cs.head?, isBlank c = false) :
    cs.dropWhile isBlank = cs := by
  cases cs with
  | nil => rfl
  | cons c cs => rw [List.dropWhile_cons_of_neg (Bool.eq_false_iff.mp (h c rfl))]

/-- Trimming takes the margins of a text away. -/
lemma trim_append (hbefore : Blank before) (h : IsTrimmed cs) (hafter : Blank after) :
    trim (before ++ (cs ++ after)) = cs := by
  rw [trim, trimStart, List.dropWhile_append_of_pos hbefore]
  cases cs with
  | nil =>
    rw [List.nil_append, List.dropWhile_eq_nil_iff.mpr hafter]
    rfl
  | cons c cs =>
    have hlast : ∀ d ∈ (c :: cs).reverse.head?, isBlank d = false := by
      rw [List.head?_reverse]
      exact h.last
    have hstart : (c :: cs ++ after).dropWhile isBlank = c :: cs ++ after :=
      dropWhile_isBlank_of_head h.head
    rw [hstart, trimEnd, List.reverse_append,
      List.dropWhile_append_of_pos fun d hd => hafter d (List.mem_reverse.mp hd),
      dropWhile_isBlank_of_head hlast, List.reverse_reverse]

/-- A text of nothing but blanks is trimmed to nothing. -/
lemma trim_of_blank {cs : List Char} (h : cs.all isBlank = true) : trim cs = [] := by
  rw [trim, trimStart, List.dropWhile_eq_nil_iff.mpr (List.all_eq_true.mp h)]
  rfl

/-- What is trimmed away are margins. -/
lemma exists_margins (cs : List Char) : ∃ before after, Blank before ∧ Blank after ∧
    IsTrimmed (trim cs) ∧ cs = before ++ (trim cs ++ after) := by
  have hend : trim cs ++ ((trimStart cs).reverse.takeWhile isBlank).reverse = trimStart cs := by
    rw [trim, trimEnd, ← List.reverse_append, List.takeWhile_append_dropWhile,
      List.reverse_reverse]
  refine ⟨cs.takeWhile isBlank, ((trimStart cs).reverse.takeWhile isBlank).reverse,
    fun _ h => List.mem_takeWhile_imp h,
    fun _ h => List.mem_takeWhile_imp (List.mem_reverse.mp h), ⟨fun c hc => ?_, fun c hc => ?_⟩, ?_⟩
  · refine not_of_mem_head?_dropWhile cs ?_
    rw [← trimStart, ← hend, List.head?_append, Option.mem_def.mp hc]
    rfl
  · rw [trim, trimEnd, List.getLast?_reverse] at hc
    exact not_of_mem_head?_dropWhile _ hc
  · rw [hend, trimStart, List.takeWhile_append_dropWhile]

end Margins

/-! ### Letters -/

/-- Whether a character is a letter in lower case or in upper case. -/
def IsCaseOf (c letter : Char) : Prop :=
  c = letter ∨ c = letter.toUpper

instance (c letter : Char) : Decidable (IsCaseOf c letter) :=
  inferInstanceAs (Decidable (c = letter ∨ c = letter.toUpper))

/-- Whether a text has the given letters, each in lower case or in upper case. -/
def Spells (cs letters : List Char) : Prop :=
  List.Forall₂ IsCaseOf cs letters

section Letters

variable {cs letters : List Char}

/-- Letters spell themselves. -/
lemma Spells.refl (letters : List Char) : Spells letters letters :=
  List.forall₂_same.mpr fun _ _ => .inl rfl

/-- Every character of a spelling is the case of some letter. -/
lemma Spells.exists_letter (h : Spells cs letters) : ∀ c ∈ cs, ∃ letter ∈ letters,
    IsCaseOf c letter := by
  induction h with
  | nil => exact fun c hc => absurd hc List.not_mem_nil
  | cons hfirst _ ih =>
    refine List.forall_mem_cons.mpr ⟨⟨_, List.mem_cons_self, hfirst⟩, fun c hc => ?_⟩
    obtain ⟨letter, hletter, hcase⟩ := ih c hc
    exact ⟨letter, List.mem_cons_of_mem _ hletter, hcase⟩

/-- A spelling goes on with a further letter. -/
lemma spells_concat_iff {c letter : Char} :
    Spells (cs ++ [c]) (letters ++ [letter]) ↔ Spells cs letters ∧ IsCaseOf c letter := by
  unfold Spells
  rw [← List.forall₂_reverse_iff, List.reverse_concat, List.reverse_concat, List.forall₂_cons,
    List.forall₂_reverse_iff, and_comm]

end Letters

end RecordGateway.Text
