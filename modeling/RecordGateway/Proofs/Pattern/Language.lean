import Mathlib.Algebra.Group.Nat.Defs
import Mathlib.Data.List.Forall2
import RecordGateway.Proofs.Pattern.Reading

/-!
# The language of a pattern

A pattern takes the texts that can be cut into consecutive pieces, one for each token in order: any
piece for a percent sign, any one character for an underscore, and one character of its set for
every other token (`Cuts`).  The search finds such a cut whenever there is one
(`takes_eq_true_iff`), and it ends: the calls that it makes of itself are at most one more than the
tokens, times the number of tails of the text for each percent sign (`exists_searchEnds`).

If the brackets of a pattern are closed, the texts that it takes together with a pattern behind it
are those that split into a text for each of the two (`cuts_append_iff`), and no other pattern has
this property (`closed_of_splits`).
-/

namespace RecordGateway.Pattern

/-! ### Cuts -/

/-- Whether a token takes a piece of a text. -/
def Token.Takes : Token → List Char → Prop
  | anyRun, _ => True
  | anyOne, piece => ∃ c, piece = [c]
  | oneOf set, piece => ∃ c ∈ set, piece = [c]

/-- Whether a text can be cut into consecutive pieces that some tokens take in order. -/
def Cuts (ts : List Token) (text : List Char) : Prop :=
  ∃ pieces : List (List Char), text = pieces.flatten ∧ List.Forall₂ Token.Takes ts pieces

section Cuts

variable {token : Token} {ts us : List Token} {text : List Char}

/-- No tokens take the empty text only. -/
lemma cuts_nil_iff : Cuts [] text ↔ text = [] := by
  constructor
  · rintro ⟨pieces, rfl, h⟩
    rw [List.forall₂_nil_left_iff.mp h, List.flatten_nil]
  · rintro rfl
    exact ⟨[], rfl, .nil⟩

/-- The first token takes a piece at the start of the text, and the others cut what is left. -/
lemma cuts_cons_iff : Cuts (token :: ts) text ↔
    ∃ piece rest, text = piece ++ rest ∧ token.Takes piece ∧ Cuts ts rest := by
  constructor
  · rintro ⟨pieces, rfl, h⟩
    obtain ⟨piece, pieces, hpiece, hpieces, rfl⟩ := List.forall₂_cons_left_iff.mp h
    exact ⟨piece, pieces.flatten, rfl, hpiece, pieces, rfl, hpieces⟩
  · rintro ⟨piece, _, rfl, hpiece, pieces, rfl, hpieces⟩
    exact ⟨piece :: pieces, rfl, .cons hpiece hpieces⟩

/-- One token takes a text as a whole. -/
lemma cuts_singleton_iff : Cuts [token] text ↔ token.Takes text := by
  rw [cuts_cons_iff]
  constructor
  · rintro ⟨piece, rest, rfl, hpiece, hrest⟩
    rwa [cuts_nil_iff.mp hrest, List.append_nil]
  · intro h
    exact ⟨text, [], (List.append_nil text).symm, h, cuts_nil_iff.mpr rfl⟩

/-- A text that is cut by tokens behind one another is cut in two. -/
theorem cuts_append_iff : Cuts (ts ++ us) text ↔
    ∃ start rest, text = start ++ rest ∧ Cuts ts start ∧ Cuts us rest := by
  induction ts generalizing text with
  | nil =>
    constructor
    · intro h
      exact ⟨[], text, rfl, cuts_nil_iff.mpr rfl, h⟩
    · rintro ⟨start, rest, rfl, hstart, hrest⟩
      rwa [cuts_nil_iff.mp hstart]
  | cons token ts ih =>
    rw [List.cons_append, cuts_cons_iff]
    constructor
    · rintro ⟨piece, _, rfl, hpiece, hcuts⟩
      obtain ⟨start, rest, rfl, hstart, hrest⟩ := ih.mp hcuts
      exact ⟨piece ++ start, rest, (List.append_assoc _ _ _).symm,
        cuts_cons_iff.mpr ⟨piece, start, rfl, hpiece, hstart⟩, hrest⟩
    · rintro ⟨_, rest, rfl, hcuts, hrest⟩
      obtain ⟨piece, start, rfl, hpiece, hstart⟩ := cuts_cons_iff.mp hcuts
      exact ⟨piece, start ++ rest, List.append_assoc _ _ _, hpiece,
        ih.mpr ⟨start, rest, rfl, hstart, hrest⟩⟩

/-- A token that takes one character of a kind takes the first one of a text. -/
lemma cuts_cons_one_iff {p : Char → Prop}
    (htoken : ∀ piece, token.Takes piece ↔ ∃ c, p c ∧ piece = [c]) :
    Cuts (token :: ts) text ↔ ∃ c rest, text = c :: rest ∧ p c ∧ Cuts ts rest := by
  rw [cuts_cons_iff]
  constructor
  · rintro ⟨piece, rest, rfl, hpiece, hrest⟩
    obtain ⟨c, hc, rfl⟩ := (htoken piece).mp hpiece
    exact ⟨c, rest, rfl, hc, hrest⟩
  · rintro ⟨c, rest, rfl, hc, hrest⟩
    exact ⟨[c], rest, rfl, (htoken [c]).mpr ⟨c, hc, rfl⟩, hrest⟩

/-- **The search decides whether a text can be cut.**  The induction is on the tokens, for all
texts at once, because a percent sign leaves any tail of the text to the tokens behind it. -/
theorem takes_eq_true_iff : takes ts text = true ↔ Cuts ts text := by
  induction ts generalizing text with
  | nil => rw [takes, List.isEmpty_iff, cuts_nil_iff]
  | cons token ts ih =>
    cases token with
    | anyRun =>
      rw [takes, anyTail_eq_true_iff, cuts_cons_iff]
      simp only [ih, Token.Takes, true_and]
    | anyOne =>
      rw [cuts_cons_one_iff (p := fun _ => True) (by simp [Token.Takes])]
      cases text with
      | nil => simp [takes]
      | cons c text => simp [takes, ih]
    | oneOf set =>
      rw [cuts_cons_one_iff (p := (· ∈ set)) (by simp [Token.Takes])]
      cases text with
      | nil => simp [takes]
      | cons c text => simp [takes, ih]

end Cuts

/-! ### The search ends -/

mutual

/-- Whether the search for a cut ends with an answer after so many calls of itself, the first one
included.  A token that takes one character hands the rest of the text to the tokens behind it, and
a percent sign tries its tails. -/
inductive SearchEnds : List Token → List Char → Bool → Nat → Prop
  | nil (text : List Char) : SearchEnds [] text text.isEmpty 1
  | anyRun {ts : List Token} {text : List Char} {answer : Bool} {calls : Nat}
      (h : TailSearchEnds ts text answer calls) : SearchEnds (.anyRun :: ts) text answer (calls + 1)
  | anyOneAtEnd (ts : List Token) : SearchEnds (.anyOne :: ts) [] false 1
  | anyOne {ts : List Token} {c : Char} {text : List Char} {answer : Bool} {calls : Nat}
      (h : SearchEnds ts text answer calls) :
      SearchEnds (.anyOne :: ts) (c :: text) answer (calls + 1)
  | oneOfAtEnd (set : List Char) (ts : List Token) : SearchEnds (.oneOf set :: ts) [] false 1
  | notOneOf {set : List Char} {ts : List Token} {c : Char} {text : List Char} (hc : c ∉ set) :
      SearchEnds (.oneOf set :: ts) (c :: text) false 1
  | oneOf {set : List Char} {ts : List Token} {c : Char} {text : List Char} {answer : Bool}
      {calls : Nat} (hc : c ∈ set) (h : SearchEnds ts text answer calls) :
      SearchEnds (.oneOf set :: ts) (c :: text) answer (calls + 1)

/-- Whether the search that tries the tails of a text, the longest one first, ends with an answer
after so many calls: it stops at the first tail that can be cut. -/
inductive TailSearchEnds : List Token → List Char → Bool → Nat → Prop
  | last {ts : List Token} {answer : Bool} {calls : Nat} (h : SearchEnds ts [] answer calls) :
      TailSearchEnds ts [] answer calls
  | found {ts : List Token} {c : Char} {text : List Char} {calls : Nat}
      (h : SearchEnds ts (c :: text) true calls) : TailSearchEnds ts (c :: text) true calls
  | next {ts : List Token} {c : Char} {text : List Char} {answer : Bool} {calls more : Nat}
      (h : SearchEnds ts (c :: text) false calls) (hnext : TailSearchEnds ts text answer more) :
      TailSearchEnds ts (c :: text) answer (calls + more)

end

section Search

variable {ts : List Token} {text : List Char} {answer : Bool} {calls : Nat}

/-- The answer of a search over the tails of a text is whether one of them is taken. -/
lemma TailSearchEnds.answer_eq
    (hsearch : ∀ text answer calls, SearchEnds ts text answer calls → answer = takes ts text)
    (h : TailSearchEnds ts text answer calls) : answer = anyTail (takes ts) text := by
  induction text generalizing answer calls with
  | nil =>
    cases h with
    | last h => exact hsearch _ _ _ h
  | cons c text ih =>
    cases h with
    | found h => rw [anyTail, ← hsearch _ _ _ h, Bool.true_or]
    | next h hnext => rw [anyTail, ← hsearch _ _ _ h, Bool.false_or, ih hnext]

/-- The search has no other answer than the one of `takes`. -/
theorem SearchEnds.answer_eq (h : SearchEnds ts text answer calls) : answer = takes ts text := by
  induction ts generalizing text answer calls with
  | nil =>
    cases h
    rfl
  | cons token ts ih =>
    cases h with
    | anyRun h => exact h.answer_eq fun _ _ _ => ih
    | anyOneAtEnd => rfl
    | anyOne h => exact ih h
    | oneOfAtEnd => rfl
    | notOneOf hc => simp [takes, hc]
    | oneOf hc h => simp [takes, hc, ih h]

/-- Trying the tails ends if each try does, after at most so many calls for each tail. -/
lemma exists_tailSearchEnds {bound : Nat}
    (hsearch : ∀ tail : List Char, tail.length ≤ text.length →
      ∃ calls ≤ bound, SearchEnds ts tail (takes ts tail) calls) :
    ∃ calls ≤ (text.length + 1) * bound,
      TailSearchEnds ts text (anyTail (takes ts) text) calls := by
  induction text with
  | nil =>
    obtain ⟨calls, hcalls, h⟩ := hsearch [] (Nat.le_refl _)
    exact ⟨calls, by simpa using hcalls, .last h⟩
  | cons c text ih =>
    obtain ⟨calls, hcalls, h⟩ := hsearch (c :: text) (Nat.le_refl _)
    have hbound : ((c :: text).length + 1) * bound = (text.length + 1) * bound + bound := by
      rw [List.length_cons, Nat.succ_mul]
    cases htakes : takes ts (c :: text) with
    | true =>
      rw [htakes] at h
      rw [anyTail, htakes, Bool.true_or]
      exact ⟨calls, by omega, .found h⟩
    | false =>
      rw [htakes] at h
      rw [anyTail, htakes, Bool.false_or]
      obtain ⟨more, hmore, hnext⟩ := ih fun tail htail => hsearch tail (Nat.le_succ_of_le htail)
      exact ⟨calls + more, by omega, .next h hnext⟩

/-- One more token and a larger text leave room for one more call. -/
lemma succ_le_mul_of_le_mul {calls tokens small large : Nat} (h : calls ≤ tokens * small)
    (hsmall : small ≤ large) (hlarge : 1 ≤ large) : calls + 1 ≤ (tokens + 1) * large := by
  have hmul := Nat.mul_le_mul_left tokens hsmall
  rw [Nat.succ_mul]
  omega

/-- **The search ends**, after at most as many calls as there are tokens and one more, times the
number of tails of the text for each percent sign. -/
theorem exists_searchEnds (ts : List Token) (text : List Char) :
    ∃ calls ≤ (ts.length + 1) * (text.length + 1) ^ ts.count .anyRun,
      SearchEnds ts text (takes ts text) calls := by
  induction ts generalizing text with
  | nil => exact ⟨1, by simp, .nil text⟩
  | cons token ts ih =>
    have hpos (n k : Nat) : 1 ≤ (n + 1) ^ k := Nat.one_le_pow _ _ (Nat.succ_pos n)
    have hend (n : Nat) : 1 ≤ (ts.length + 1 + 1) * (n + 1) ^ ts.count .anyRun :=
      Nat.mul_pos (Nat.succ_pos _) (hpos n _)
    have hone {calls n : Nat} (hcalls : calls ≤ (ts.length + 1) * (n + 1) ^ ts.count .anyRun) :
        calls + 1 ≤ (ts.length + 1 + 1) * (n + 1 + 1) ^ ts.count .anyRun :=
      succ_le_mul_of_le_mul hcalls (Nat.pow_le_pow_left (Nat.le_succ _) _) (hpos _ _)
    cases token with
    | anyRun =>
      -- No tail is longer than the text, so that the bound of the text serves all of them.
      have htail (tail : List Char) (hlength : tail.length ≤ text.length) :
          ∃ calls ≤ (ts.length + 1) * (text.length + 1) ^ ts.count .anyRun,
            SearchEnds ts tail (takes ts tail) calls := by
        obtain ⟨calls, hcalls, h⟩ := ih tail
        have hpow := Nat.pow_le_pow_left (Nat.succ_le_succ hlength) (ts.count .anyRun)
        exact ⟨calls, Nat.le_trans hcalls (Nat.mul_le_mul_left _ hpow), h⟩
      obtain ⟨calls, hcalls, h⟩ := exists_tailSearchEnds htail
      refine ⟨calls + 1, ?_, .anyRun h⟩
      rw [Nat.mul_left_comm, Nat.mul_comm (text.length + 1), ← Nat.pow_succ] at hcalls
      rw [List.count_cons_self, List.length_cons]
      exact succ_le_mul_of_le_mul hcalls (Nat.le_refl _) (hpos _ _)
    | anyOne =>
      rw [List.count_cons_of_ne (by simp), List.length_cons]
      cases text with
      | nil => exact ⟨1, hend 0, .anyOneAtEnd ts⟩
      | cons c text =>
        obtain ⟨calls, hcalls, h⟩ := ih text
        exact ⟨calls + 1, hone hcalls, .anyOne h⟩
    | oneOf set =>
      rw [List.count_cons_of_ne (by simp), List.length_cons]
      cases text with
      | nil => exact ⟨1, hend 0, .oneOfAtEnd set ts⟩
      | cons c text =>
        rw [takes]
        by_cases hc : c ∈ set
        · obtain ⟨calls, hcalls, h⟩ := ih text
          rw [List.contains_iff_mem.mpr hc, Bool.true_and]
          exact ⟨calls + 1, hone hcalls, .oneOf hc h⟩
        · rw [Bool.eq_false_iff.mpr (mt List.contains_iff_mem.mp hc), Bool.false_and]
          exact ⟨1, hend _, .notOneOf hc⟩

end Search

/-! ### The size of a pattern -/

section Size

variable {token : Token} {part pattern : List Char} {ts : List Token}

/-- What a token is written as is not empty, and has a percent sign for each free run. -/
lemma Token.Written.size_le (h : token.Written part) :
    1 ≤ part.length ∧ [token].count .anyRun ≤ part.count '%' := by
  cases h with
  | anyRun => decide
  | anyOne => decide
  | plain => simp
  | set => simp

/-- A pattern has no fewer characters than tokens, and no fewer percent signs than free runs. -/
lemma Writes.size_le (h : Writes pattern ts) :
    ts.length ≤ pattern.length ∧ ts.count .anyRun ≤ pattern.count '%' := by
  induction h with
  | nil => exact ⟨Nat.le_refl 0, Nat.le_refl 0⟩
  | @cons token part rest ts hpart _ ih =>
    obtain ⟨hlength, hcount⟩ := hpart.size_le
    rw [← List.singleton_append, List.length_append, List.length_append, List.count_append,
      List.count_append, List.length_singleton]
    omega

/-- A pattern has no more tokens than characters, and a token for any run only where it has a
percent sign. -/
lemma tokens_size_le (pattern : List Char) : (tokens pattern).length ≤ pattern.length ∧
    (tokens pattern).count .anyRun ≤ pattern.count '%' := by
  obtain ⟨ts, hts⟩ := exists_denotes pattern
  rw [hts.tokens_eq]
  cases hts with
  | closed h => exact h.size_le
  | @openSet front set ts h hset =>
    obtain ⟨hlength, hcount⟩ := h.size_le
    have hnone : [Token.oneOf set].count .anyRun = 0 := by simp
    rw [List.length_append, List.length_append, List.count_append, List.count_append, hnone,
      List.length_singleton, List.length_cons]
    omega

end Size

/-! ### Patterns behind one another -/

section Split

variable {pattern : List Char} {ts : List Token}

/-- Some piece is taken by a token that is written. -/
lemma Token.Written.exists_takes {token : Token} {part : List Char} (h : token.Written part) :
    ∃ piece, token.Takes piece := by
  cases h with
  | anyRun => exact ⟨[], trivial⟩
  | anyOne => exact ⟨['_'], '_', rfl⟩
  | @plain c => exact ⟨[c], c, List.mem_singleton_self c, rfl⟩
  | @set first more => exact ⟨[first], first, List.mem_cons_self, rfl⟩

/-- A pattern with closed brackets takes some text. -/
lemma Writes.exists_cuts (h : Writes pattern ts) : ∃ text, Cuts ts text := by
  induction h with
  | nil => exact ⟨[], cuts_nil_iff.mpr rfl⟩
  | cons hpart _ ih =>
    obtain ⟨piece, hpiece⟩ := hpart.exists_takes
    obtain ⟨rest, hrest⟩ := ih
    exact ⟨piece ++ rest, cuts_cons_iff.mpr ⟨piece, rest, rfl, hpiece, hrest⟩⟩

/-- There is a letter that an open set does not begin with. -/
lemma exists_letter (set : List Char) :
    ∃ letter, tokens [letter] = [.oneOf [letter]] ∧ letter ≠ ']' ∧ set.head? ≠ some letter := by
  by_cases ha : set.head? = some 'a'
  · exact ⟨'b', rfl, by decide, by rw [ha]; decide⟩
  · exact ⟨'a', rfl, by decide, ha⟩

/-- Only a pattern with closed brackets splits the texts that it takes together with any pattern
behind it.  A letter behind an open set becomes a member of it, so that a text is taken that ends
in the first member of the set and not in that letter. -/
lemma closed_of_splits (h : ∀ behind text, Cuts (tokens (pattern ++ behind)) text →
    ∃ start rest, text = start ++ rest ∧ Cuts (tokens pattern) start ∧
      Cuts (tokens behind) rest) : Closed pattern := by
  obtain ⟨ts, hts⟩ := exists_denotes pattern
  cases hts with
  | closed h => exact ⟨ts, h⟩
  | @openSet front set ts hfront hset =>
    obtain ⟨letter, hletter, hbracket, hfirst⟩ := exists_letter set
    obtain ⟨text, htext⟩ := hfront.exists_cuts
    have hopen : ']' ∉ (set ++ [letter]).tail := by
      cases set with
      | nil => exact List.not_mem_nil
      | cons first more => simpa [hbracket.symm] using hset
    have hmember : set.headD letter ∈ set ++ [letter] := by
      cases set <;> simp
    have htaken : Cuts (tokens (front ++ '[' :: set ++ [letter])) (text ++ [set.headD letter]) := by
      rw [List.append_assoc, hfront.tokens_append, List.cons_append, tokens_openSet hopen]
      exact cuts_append_iff.mpr
        ⟨text, _, rfl, htext, cuts_singleton_iff.mpr ⟨_, hmember, rfl⟩⟩
    obtain ⟨start, rest, happ, hstart, hrest⟩ := h _ _ htaken
    -- The pattern takes a start of the text only if its set has a member.
    rw [hfront.tokens_append, tokens_openSet hset] at hstart
    obtain ⟨-, piece, -, -, hpiece⟩ := cuts_append_iff.mp hstart
    obtain ⟨member, hmember, -⟩ := cuts_singleton_iff.mp hpiece
    obtain ⟨first, more, rfl⟩ := List.exists_cons_of_ne_nil (List.ne_nil_of_mem hmember)
    -- The rest of the text is the letter, but the text ends in the first member.
    rw [hletter, cuts_singleton_iff] at hrest
    obtain ⟨last, hlast, rfl⟩ := hrest
    have hend : first = last := (List.cons.inj (List.append_inj' happ rfl).2).1
    rw [hend, List.mem_singleton.mp hlast] at hfirst
    exact absurd rfl hfirst

end Split

/-! ### The matcher -/

/-- What the matcher promises for a pattern. -/
structure DecidesLanguage (pattern : String) : Prop where
  /-- The pattern is read as the tokens that it denotes, and as no others. -/
  tokens_iff : ∀ ts, tokens pattern.toList = ts ↔ Denotes pattern.toList ts
  /-- It matches a text if the text can be cut into pieces that its tokens take, and only then. -/
  matches_iff : ∀ text : String,
    matchesText text pattern = true ↔ Cuts (tokens pattern.toList) text.toList
  /-- On every text the search ends with the answer, and in a bounded number of calls. -/
  ends : ∀ text : String,
    ∃ calls ≤ (pattern.toList.length + 1) * (text.toList.length + 1) ^ pattern.toList.count '%',
      SearchEnds (tokens pattern.toList) text.toList (matchesText text pattern) calls
  /-- It ends with no other answer. -/
  answer_eq : ∀ (text : String) (answer : Bool) (calls : Nat),
    SearchEnds (tokens pattern.toList) text.toList answer calls → answer = matchesText text pattern
  /-- If the brackets of the pattern are closed, and only then, the texts that it matches with any
  pattern behind it are those that split into a match of it and a match of the other. -/
  splits_iff : Closed pattern.toList ↔ ∀ behind text : String,
    matchesText text (pattern ++ behind) = true ↔ ∃ start rest, text = start ++ rest ∧
      matchesText start pattern = true ∧ matchesText rest behind = true

/-- The texts that a pattern matches are those that its tokens cut. -/
lemma matchesText_eq_true_iff {text pattern : String} :
    matchesText text pattern = true ↔ Cuts (tokens pattern.toList) text.toList :=
  takes_eq_true_iff

/-- A split of a text is a split of its characters. -/
lemma exists_split_iff {text : String} {p q : List Char → Prop} :
    (∃ start rest : String, text = start ++ rest ∧ p start.toList ∧ q rest.toList) ↔
      ∃ start rest, text.toList = start ++ rest ∧ p start ∧ q rest := by
  constructor
  · rintro ⟨start, rest, rfl, hstart, hrest⟩
    exact ⟨start.toList, rest.toList, String.toList_append, hstart, hrest⟩
  · rintro ⟨start, rest, happ, hstart, hrest⟩
    refine ⟨String.ofList start, String.ofList rest, ?_, ?_, ?_⟩
    · rw [← String.ofList_append, ← happ, String.ofList_toList]
    · rwa [String.toList_ofList]
    · rwa [String.toList_ofList]

/-- **The matcher decides the language of every pattern.** -/
theorem decidesLanguage (pattern : String) : DecidesLanguage pattern where
  tokens_iff _ := tokens_eq_iff
  matches_iff _ := matchesText_eq_true_iff
  ends text := by
    obtain ⟨hlength, hcount⟩ := tokens_size_le pattern.toList
    obtain ⟨calls, hcalls, h⟩ := exists_searchEnds (tokens pattern.toList) text.toList
    refine ⟨calls, Nat.le_trans hcalls ?_, h⟩
    exact Nat.mul_le_mul (Nat.succ_le_succ hlength) (Nat.pow_le_pow_right (Nat.succ_pos _) hcount)
  answer_eq _ _ _ h := h.answer_eq
  splits_iff := by
    simp only [matchesText_eq_true_iff, String.toList_append]
    constructor
    · rintro ⟨ts, h⟩ behind text
      rw [h.tokens_append, cuts_append_iff, h.tokens_eq]
      exact exists_split_iff.symm
    · intro h
      refine closed_of_splits fun behind text hcuts => ?_
      have hsplit := h (String.ofList behind) (String.ofList text)
      rw [exists_split_iff, String.toList_ofList, String.toList_ofList] at hsplit
      exact hsplit.mp hcuts

/-- A set that is not closed reaches to the end of the pattern, and without any character in it no
text is matched. -/
example : matchesText "5%" "5[0%" = true ∧ matchesText "5" "5[" = false := by decide +kernel

end RecordGateway.Pattern
