import Mathlib.Tactic.Lemma
import RecordGateway.Pattern
import RecordGateway.Store.Matching

/-!
# What a pattern takes

The matcher of the `like` operator on the patterns that a text test produces.  An escaped text
reads back as one literal token for each of its characters, whatever follows it
(`tokens_escape_append`), a run of literal tokens takes exactly its own characters, and the
search of an `anyRun` token tries every tail of the text.  Together they show that an escaped
text between two percent signs takes exactly the texts in which it occurs
(`matchesText_enclosed_iff`).
-/

namespace RecordGateway.Pattern

/-- The token that takes one given character. -/
def literal (c : Char) : Token :=
  .oneOf [c]

/-! ### Reading escaped texts -/

/-- One escaped character reads back as the literal token of that character. -/
lemma tokens_escapeChar_append (c : Char) (rest : List Char) :
    tokens (escapeChar c ++ rest) = literal c :: tokens rest := by
  unfold escapeChar
  split
  · simp [tokens, setStart, setRest, literal]
  · simp [tokens, setStart, setRest, literal]
  · simp [tokens, setStart, setRest, literal]
  · rename_i hbracket hpercent hunderscore
    rw [List.singleton_append, tokens.eq_5]
    · rfl
    · exact hpercent
    · exact hunderscore
    · exact hbracket

/-- An escaped text reads back as its literal tokens, in front of the tokens of what follows. -/
theorem tokens_escape_append (text rest : List Char) :
    tokens (escape text ++ rest) = text.map literal ++ tokens rest := by
  induction text with
  | nil => rfl
  | cons c text ih =>
    have hcons : escape (c :: text) = escapeChar c ++ escape text := rfl
    rw [hcons, List.append_assoc, tokens_escapeChar_append, ih]
    rfl

/-! ### Taking texts -/

/-- A search over the tails of a text finds one exactly when the text ends in such a tail. -/
lemma anyTail_eq_true_iff {p : List Char → Bool} {text : List Char} :
    anyTail p text = true ↔ ∃ before after, text = before ++ after ∧ p after = true := by
  induction text with
  | nil =>
    constructor
    · intro h
      exact ⟨[], [], rfl, h⟩
    · rintro ⟨before, after, happ, h⟩
      obtain ⟨-, rfl⟩ := List.append_eq_nil_iff.mp happ.symm
      exact h
  | cons c text ih =>
    rw [anyTail, Bool.or_eq_true_iff, ih]
    constructor
    · rintro (h | ⟨before, after, rfl, h⟩)
      · exact ⟨[], c :: text, rfl, h⟩
      · exact ⟨c :: before, after, rfl, h⟩
    · rintro ⟨before, after, happ, h⟩
      cases before with
      | nil => exact .inl (by rw [happ]; exact h)
      | cons d before =>
        obtain ⟨-, rfl⟩ := List.cons.inj happ
        exact .inr ⟨before, after, rfl, h⟩

/-- Literal tokens take their own characters and leave the rest to the tokens after them. -/
lemma takes_literals_append {tokens : List Token} {chars text : List Char} :
    takes (chars.map literal ++ tokens) text = true ↔
      ∃ rest, text = chars ++ rest ∧ takes tokens rest = true := by
  induction chars generalizing text with
  | nil => simp
  | cons c chars ih =>
    cases text with
    | nil => simp [literal, takes]
    | cons d text =>
      have hstep : takes ((c :: chars).map literal ++ tokens) (d :: text) =
          ([c].contains d && takes (chars.map literal ++ tokens) text) := rfl
      rw [hstep, Bool.and_eq_true_iff, ih]
      constructor
      · rintro ⟨hd, rest, rfl, h⟩
        have hdc : d = c := by simpa using hd
        exact ⟨rest, by rw [hdc]; rfl, h⟩
      · rintro ⟨rest, happ, h⟩
        obtain ⟨rfl, rfl⟩ := List.cons.inj happ
        exact ⟨by simp, rest, rfl, h⟩

/-- A single `anyRun` token takes every text. -/
lemma takes_anyRun (text : List Char) : takes [.anyRun] text = true := by
  rw [takes, anyTail_eq_true_iff]
  exact ⟨text, [], (List.append_nil text).symm, rfl⟩

/-- An escaped text between percent signs takes exactly the texts that it occurs in. -/
theorem matchesText_enclosed_iff (text operand : String) :
    matchesText text (String.ofList ('%' :: escape operand.toList ++ ['%'])) = true ↔
      operand.toList <:+: text.toList := by
  have htokens : tokens ('%' :: escape operand.toList ++ ['%']) =
      .anyRun :: (operand.toList.map literal ++ [.anyRun]) := by
    rw [List.cons_append, tokens.eq_2, tokens_escape_append]
    rfl
  rw [matchesText, String.toList_ofList, htokens, takes, anyTail_eq_true_iff]
  constructor
  · rintro ⟨before, after, happ, h⟩
    obtain ⟨rest, rfl, -⟩ := takes_literals_append.mp h
    exact ⟨before, rest, by rw [happ, List.append_assoc]⟩
  · rintro ⟨before, rest, happ⟩
    refine ⟨before, operand.toList ++ rest, ?_, ?_⟩
    · rw [← happ, List.append_assoc]
    · exact takes_literals_append.mpr ⟨rest, rfl, takes_anyRun rest⟩

end RecordGateway.Pattern
