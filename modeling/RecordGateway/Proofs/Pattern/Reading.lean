import RecordGateway.Proofs.Pattern.Matching

/-!
# How patterns are read

The tokens of a pattern are described here apart from how they are read.  A token is written by a
part of a pattern: a percent sign, an underscore, a character that is neither of these nor an
opening bracket, or a set between brackets, of which only the first character may be a closing
bracket.  A pattern whose brackets are closed is made of such parts, and any other pattern has a
set behind them that reaches to its end.

Every pattern is read as the tokens that it denotes (`tokens_eq_iff`).  The patterns that leave
what is put behind them alone are precisely those whose brackets are closed
(`closed_iff_tokens_append`).  Behind such a pattern, and before any other, an escaped text is read
as one literal token for each of its characters (`standsForItself_escape`).
-/

namespace RecordGateway.Pattern

/-! ### How tokens are written -/

/-- Whether a part of a pattern writes a token. -/
inductive Token.Written : Token → List Char → Prop
  | anyRun : Written .anyRun ['%']
  | anyOne : Written .anyOne ['_']
  | plain {c : Char} (hpercent : c ≠ '%') (hunderscore : c ≠ '_') (hbracket : c ≠ '[') :
      Written (.oneOf [c]) [c]
  | set {first : Char} {more : List Char} (hmore : ']' ∉ more) :
      Written (.oneOf (first :: more)) ('[' :: first :: (more ++ [']']))

/-- Whether a pattern writes some tokens part by part, so that all its brackets are closed. -/
inductive Writes : List Char → List Token → Prop
  | nil : Writes [] []
  | cons {token : Token} {part rest : List Char} {tokens : List Token}
      (hpart : token.Written part) (h : Writes rest tokens) :
      Writes (part ++ rest) (token :: tokens)

/-- Whether every bracket of a pattern is closed. -/
def Closed (pattern : List Char) : Prop :=
  ∃ tokens, Writes pattern tokens

/-- Whether a pattern denotes some tokens, of which the last one may be a set that is not closed:
no character of it but the first is a closing bracket. -/
inductive Denotes : List Char → List Token → Prop
  | closed {pattern : List Char} {tokens : List Token} (h : Writes pattern tokens) :
      Denotes pattern tokens
  | openSet {front set : List Char} {tokens : List Token} (h : Writes front tokens)
      (hset : ']' ∉ set.tail) : Denotes (front ++ '[' :: set) (tokens ++ [.oneOf set])

/-! ### Reading what is written -/

section Reading

variable {token : Token} {part pattern rest : List Char} {ts : List Token}

/-- Characters that close no set are gathered. -/
lemma setRest_append {set more : List Char} (hmore : ']' ∉ more) :
    setRest set (more ++ rest) = setRest (more.reverse ++ set) rest := by
  induction more generalizing set with
  | nil => rfl
  | cons c more ih =>
    rw [List.mem_cons, not_or] at hmore
    rw [List.cons_append, setRest.eq_3 _ _ _ (Ne.symm hmore.1), ih hmore.2, List.reverse_cons,
      List.append_assoc, List.singleton_append]

/-- An open set is one token, whatever its first character is. -/
lemma tokens_openSet {set : List Char} (hset : ']' ∉ set.tail) :
    tokens ('[' :: set) = [.oneOf set] := by
  cases set with
  | nil => rfl
  | cons first more =>
    have hgathered : setRest [first] (more ++ []) = setRest (more.reverse ++ [first]) [] :=
      setRest_append hset
    rw [List.append_nil] at hgathered
    rw [tokens, setStart, hgathered]
    simp [setRest]

/-- What a token is written as is read as that token, whatever follows. -/
lemma Token.Written.tokens_append (h : token.Written part) (rest : List Char) :
    tokens (part ++ rest) = token :: tokens rest := by
  cases h with
  | anyRun => rfl
  | anyOne => rfl
  | plain hpercent hunderscore hbracket => exact tokens.eq_5 _ _ hpercent hunderscore hbracket
  | set hmore =>
    rw [List.cons_append, List.cons_append, List.append_assoc, tokens, setStart,
      setRest_append hmore]
    simp [setRest]

/-- Behind parts that write tokens, reading starts afresh. -/
lemma Writes.tokens_append (h : Writes pattern ts) (rest : List Char) :
    tokens (pattern ++ rest) = ts ++ tokens rest := by
  induction h with
  | nil => rfl
  | cons hpart _ ih => rw [List.append_assoc, hpart.tokens_append, ih, List.cons_append]

/-- What some tokens are written as is read as these tokens. -/
lemma Writes.tokens_eq (h : Writes pattern ts) : tokens pattern = ts := by
  have happ := h.tokens_append []
  rwa [List.append_nil, tokens, List.append_nil] at happ

/-- What denotes some tokens is read as these tokens. -/
lemma Denotes.tokens_eq (h : Denotes pattern ts) : tokens pattern = ts := by
  cases h with
  | closed h => exact h.tokens_eq
  | openSet h hset => rw [h.tokens_append, tokens_openSet hset]

/-! ### Every pattern denotes tokens -/

/-- A token may be written in front. -/
lemma Denotes.cons (hpart : token.Written part) (h : Denotes rest ts) :
    Denotes (part ++ rest) (token :: ts) := by
  cases h with
  | closed h => exact .closed (.cons hpart h)
  | openSet h hset =>
    rw [← List.append_assoc, ← List.cons_append]
    exact .openSet (.cons hpart h) hset

/-- A pattern starts with a part that writes a token unless it is empty or an open set. -/
lemma exists_part (c : Char) (rest : List Char) :
    (∃ (token : Token) (part behind : List Char), c :: rest = part ++ behind ∧
      behind.length ≤ rest.length ∧ token.Written part) ∨ c = '[' ∧ ']' ∉ rest.tail := by
  by_cases hpercent : c = '%'
  · exact .inl ⟨_, [c], rest, rfl, Nat.le_refl _, hpercent ▸ Token.Written.anyRun⟩
  by_cases hunderscore : c = '_'
  · exact .inl ⟨_, [c], rest, rfl, Nat.le_refl _, hunderscore ▸ Token.Written.anyOne⟩
  by_cases hbracket : c = '['
  · subst hbracket
    cases rest with
    | nil => exact .inr ⟨rfl, List.not_mem_nil⟩
    | cons first rest =>
      by_cases hmem : ']' ∈ rest
      · obtain ⟨more, behind, rfl, hmore⟩ := List.eq_append_cons_of_mem hmem
        refine .inl ⟨_, '[' :: first :: (more ++ [']']), behind, ?_, ?_, .set hmore⟩
        · simp
        · simp only [List.length_cons, List.length_append]
          omega
      · exact .inr ⟨rfl, hmem⟩
  · exact .inl ⟨_, [c], rest, rfl, Nat.le_refl _, .plain hpercent hunderscore hbracket⟩

/-- Every pattern denotes tokens, by induction on its length: a part is taken off its front until
nothing or an open set is left. -/
lemma exists_denotes (pattern : List Char) : ∃ ts, Denotes pattern ts := by
  match pattern with
  | [] => exact ⟨[], .closed .nil⟩
  | c :: rest =>
    obtain ⟨token, part, behind, happ, hlength, hpart⟩ | ⟨rfl, hopen⟩ := exists_part c rest
    · obtain ⟨ts, hts⟩ := exists_denotes behind
      exact ⟨token :: ts, happ ▸ hts.cons hpart⟩
    · exact ⟨_, .openSet .nil hopen⟩
termination_by pattern.length
decreasing_by exact Nat.lt_succ_of_le hlength

/-- **A pattern is read as the tokens that it denotes**, and as no others. -/
theorem tokens_eq_iff : tokens pattern = ts ↔ Denotes pattern ts := by
  constructor
  · rintro rfl
    obtain ⟨ts, hts⟩ := exists_denotes pattern
    rwa [hts.tokens_eq]
  · exact Denotes.tokens_eq

end Reading

/-! ### Patterns behind one another -/

/-- A set begins with the characters of it that have been read. -/
lemma exists_setRest (set rest : List Char) :
    ∃ more ts, setRest set rest = .oneOf (set.reverse ++ more) :: ts := by
  induction rest generalizing set with
  | nil => exact ⟨[], [], by rw [setRest, List.append_nil]⟩
  | cons c rest ih =>
    by_cases hc : c = ']'
    · exact ⟨[], tokens rest, by rw [hc, setRest, List.append_nil]⟩
    · obtain ⟨more, ts, h⟩ := ih (c :: set)
      refine ⟨c :: more, ts, ?_⟩
      rw [setRest.eq_3 _ _ _ hc, h, List.reverse_cons, List.append_assoc, List.singleton_append]

/-- A set that has got another member is not the set that it was. -/
lemma setRest_cons_ne (c : Char) (set rest : List Char) (ts : List Token) :
    setRest (c :: set) rest ≠ .oneOf set.reverse :: ts := by
  intro h
  obtain ⟨more, us, hmore⟩ := exists_setRest (c :: set) rest
  rw [hmore] at h
  have hlength := congrArg List.length (Token.oneOf.inj (List.cons.inj h).1)
  simp at hlength

/-- An open set takes up the start of what is put behind it: it gets another member, or it is
closed by a bracket that would be a token of its own. -/
lemma tokens_openSet_append_ne {set : List Char} (hset : ']' ∉ set.tail) (c : Char)
    (rest : List Char) :
    tokens ('[' :: set ++ c :: rest) ≠ .oneOf set :: tokens (c :: rest) := by
  intro h
  cases set with
  | nil => exact setRest_cons_ne c [] rest _ h
  | cons first set =>
    have hopen : ']' ∉ set := hset
    have hread : tokens ('[' :: (first :: set) ++ c :: rest) =
        setRest (set.reverse ++ [first]) (c :: rest) := setRest_append hopen
    rw [hread] at h
    by_cases hc : c = ']'
    · -- The bracket closes the set and is no token of its own any more.
      subst hc
      have hlength := congrArg List.length h
      simp [setRest, tokens] at hlength
    · -- The character has become a member of the set.
      have hmembers : first :: set = (set.reverse ++ [first]).reverse := by simp
      rw [setRest.eq_3 _ _ _ hc, hmembers] at h
      exact setRest_cons_ne c _ rest _ h

/-- **The patterns with closed brackets are those that leave what is put behind them alone.**  To
tell them, it is enough to put one text that is not empty behind them. -/
theorem closed_iff_tokens_append {pattern rest : List Char} (hrest : rest ≠ []) :
    Closed pattern ↔ tokens (pattern ++ rest) = tokens pattern ++ tokens rest := by
  constructor
  · rintro ⟨ts, h⟩
    rw [h.tokens_append, h.tokens_eq]
  · intro happ
    obtain ⟨ts, hts⟩ := exists_denotes pattern
    cases hts with
    | closed h => exact ⟨ts, h⟩
    | @openSet front set ts h hset =>
      obtain ⟨c, rest, rfl⟩ := List.exists_cons_of_ne_nil hrest
      rw [List.append_assoc, h.tokens_append, h.tokens_append, tokens_openSet hset,
        List.append_assoc] at happ
      exact absurd (List.append_cancel_left happ) (tokens_openSet_append_ne hset c rest)

/-- Whether the brackets of a pattern are closed can be read off a percent sign behind it. -/
instance (pattern : List Char) : Decidable (Closed pattern) :=
  decidable_of_iff (tokens (pattern ++ ['%']) = tokens pattern ++ tokens ['%'])
    (closed_iff_tokens_append (List.cons_ne_nil _ _)).symm

example : Closed "50[%] [[]a]".toList ∧ ¬Closed "50[%] []".toList := by decide +kernel

/-! ### Escaped texts -/

/-- What escaping promises for a text. -/
structure StandsForItself (operand : String) : Prop where
  /-- Behind a pattern with closed brackets, and only there, the escaped text is read as one
  literal token for each character, and what follows it is read as it is by itself. -/
  tokens_iff : ∀ before, Closed before ↔ ∀ after,
    tokens (before ++ escape operand.toList ++ after) =
      tokens before ++ operand.toList.map literal ++ tokens after
  /-- As a pattern, the escaped text takes the text and no other. -/
  matches_iff : ∀ text : String,
    matchesText text (String.ofList (escape operand.toList)) = true ↔ text = operand
  /-- Between percent signs it takes the texts in which the text occurs. -/
  occurs_iff : ∀ text : String,
    matchesText text (String.ofList ('%' :: escape operand.toList ++ ['%'])) = true ↔
      operand.toList <:+: text.toList

/-- **An escaped text stands for itself.** -/
theorem standsForItself_escape (operand : String) : StandsForItself operand where
  tokens_iff before := by
    constructor
    · rintro ⟨ts, h⟩ after
      rw [List.append_assoc, h.tokens_append, h.tokens_eq, tokens_escape_append,
        List.append_assoc]
    · intro h
      have hne : escape operand.toList ++ ['%'] ≠ [] := List.concat_ne_nil _ _
      refine (closed_iff_tokens_append hne).mpr ?_
      rw [← List.append_assoc, h ['%'], tokens_escape_append, List.append_assoc]
  matches_iff text := by
    have hread := tokens_escape_append operand.toList []
    rw [matchesText, String.toList_ofList, ← List.append_nil (escape _), hread,
      takes_literals_append]
    constructor
    · rintro ⟨rest, happ, hrest⟩
      obtain rfl : rest = [] := List.isEmpty_iff.mp hrest
      rw [List.append_nil] at happ
      exact String.toList_injective happ
    · rintro rfl
      exact ⟨[], (List.append_nil _).symm, rfl⟩
  occurs_iff text := matchesText_enclosed_iff text operand

end RecordGateway.Pattern
