import Mathlib.Data.List.Forall2
import RecordGateway.OData.Options
import RecordGateway.Proofs.Compilation.Success
import RecordGateway.Proofs.Text.Words

/-!
# Lists of sort keys and of fields

The order option and the select option are lists with commas.  How they are written is described
here apart from how they are read: an item of the first writes a sort key, with white space around
its words and a direction in any case, and an entry of the second is a name in margins of white
space or nothing but white space.

A text is read as some sort keys if it writes them, and only then; a text that writes no sort keys
is refused.  Every text lists fields, and is read as the fields that it lists.
-/

namespace RecordGateway

/-- The word for a direction. -/
def Direction.letters : Direction → List Char
  | ascending => "asc".toList
  | descending => "desc".toList

namespace OData

/-! ### How sort keys are written -/

/-- Whether what follows the field of a sort key tells a direction: white space does if the key is
ascending, and so does the word for the direction behind white space. -/
inductive TellsDirection : List Char → Direction → Prop
  | nothing {rest : List Char} (hrest : Text.Blank rest) : TellsDirection rest .ascending
  | word {gap word rest : List Char} {direction : Direction} (hgap : Text.Blank gap)
      (hne : gap ≠ []) (hword : Text.Spells word direction.letters) (hrest : Text.Blank rest) :
      TellsDirection (gap ++ (word ++ rest)) direction

/-- Whether a text writes a sort key: the field, without white space and comma, and what tells the
direction, with any white space around. -/
structure WritesKey (item : List Char) (key : SortKey) : Prop where
  field : Text.IsWord key.field.toList
  no_comma : ',' ∉ key.field.toList
  written : ∃ before rest, item = before ++ (key.field.toList ++ rest) ∧ Text.Blank before ∧
    TellsDirection rest key.direction

/-- Whether a text writes some sort keys with commas between them. -/
def WritesKeys (text : List Char) (keys : List SortKey) : Prop :=
  ∃ items ≠ [], text = [','].intercalate items ∧ List.Forall₂ WritesKey items keys

/-! ### How fields are listed -/

/-- A field as it can be listed. -/
structure IsListed (name : List Char) : Prop where
  ne_nil : name ≠ []
  no_comma : ',' ∉ name
  trimmed : Text.IsTrimmed name

/-- Whether the entries of a list are the given names, each in margins of white space, with blank
entries between them. -/
inductive Lists : List (List Char) → List (List Char) → Prop
  | nil : Lists [] []
  | blank {entry : List Char} {entries names : List (List Char)} (hentry : Text.Blank entry)
      (h : Lists entries names) : Lists (entry :: entries) names
  | name {before name after : List Char} {entries names : List (List Char)}
      (hname : IsListed name) (hbefore : Text.Blank before) (hafter : Text.Blank after)
      (h : Lists entries names) : Lists ((before ++ (name ++ after)) :: entries) (name :: names)

/-- Whether a text lists some fields with commas between them. -/
def ListsFields (text : List Char) (names : List String) : Prop :=
  ∃ entries, text = [','].intercalate entries ∧ Lists entries (names.map String.toList)

/-! ### Letters in any case -/

/-- A character is its lower case or the upper case of that. -/
lemma isCaseOf_toLower (c : Char) : Text.IsCaseOf c c.toLower := by
  by_cases h : c.val ≥ 'A'.val ∧ c.val ≤ 'Z'.val
  · have hrange : 65 ≤ c.val ∧ c.val ≤ 90 := h
    have hlower : c.toLower.val = c.val + 32 := by
      change (dite _ _ _ : Char).val = _
      rw [dif_pos h]
      rfl
    have hupper : 'a'.val ≤ c.toLower.val ∧ c.toLower.val ≤ 'z'.val := by
      change 97 ≤ c.toLower.val ∧ c.toLower.val ≤ 122
      rw [hlower]
      grind
    refine .inr (Char.ext ?_)
    change c.val = (dite _ _ _ : Char).val
    rw [dif_pos hupper]
    change c.val = c.toLower.val + (65 - 97)
    rw [hlower]
    grind
  · left
    change c = (dite _ _ _ : Char)
    rw [dif_neg h]

/-- What is needed of the letters of the two words: case is all that a letter loses in lower case,
and neither case is white space or a comma. -/
lemma letters_spec (direction : Direction) : ∀ letter ∈ direction.letters,
    ∀ c, Text.IsCaseOf c letter → c.toLower = letter ∧ Text.isBlank c = false ∧ c ≠ ',' := by
  have hletters : (direction.letters.all fun letter => [letter, letter.toUpper].all fun c =>
      decide (c.toLower = letter ∧ Text.isBlank c = false ∧ c ≠ ',')) = true := by
    cases direction <;> decide
  intro letter hletter c hc
  have hcases := List.all_eq_true.mp hletters letter hletter
  exact of_decide_eq_true (List.all_eq_true.mp hcases c (by simpa [Text.IsCaseOf] using hc))

/-- A word is a direction's in lower case if it has the letters in any case. -/
lemma lowerWord_eq_iff {word : List Char} {direction : Direction} :
    lowerWord word = direction.letters ↔ Text.Spells word direction.letters := by
  constructor
  · intro h
    rw [← h, Text.Spells, lowerWord, List.forall₂_map_right_iff, List.forall₂_same]
    exact fun c _ => isCaseOf_toLower c
  · intro h
    have hspec := letters_spec direction
    generalize direction.letters = letters at h hspec
    induction h with
    | nil => rfl
    | @cons c letter word letters hc _ ih =>
      obtain ⟨hfirst, hrest⟩ := List.forall_mem_cons.mp hspec
      rw [lowerWord, List.map_cons, (hfirst c hc).1]
      exact congrArg (letter :: ·) (ih hrest)

/-- The words for directions have no white space and no comma. -/
lemma not_blank_of_spells {word : List Char} {direction : Direction}
    (h : Text.Spells word direction.letters) : ∀ c ∈ word, Text.isBlank c = false ∧ c ≠ ',' := by
  intro c hc
  obtain ⟨letter, hletter, hcase⟩ := h.exists_letter c hc
  exact (letters_spec direction letter hletter c hcase).2

/-- The spelling of a direction is a word. -/
lemma isWord_of_spells {word : List Char} {direction : Direction}
    (h : Text.Spells word direction.letters) : Text.IsWord word where
  ne_nil := by
    rintro rfl
    cases direction <;> cases h
  not_blank c hc := (not_blank_of_spells h c hc).1

/-! ### Sort keys -/

section SortKeys

variable {item : List Char} {key : SortKey}

/-- The direction that a word is read as is the one whose letters it has. -/
lemma direction?_eq_some {word : List Char} {direction : Direction} :
    (if lowerWord word = "asc".toList then some Direction.ascending
      else if lowerWord word = "desc".toList then some .descending else none) = some direction ↔
      Text.Spells word direction.letters := by
  have hdiffer : Direction.ascending.letters ≠ Direction.descending.letters := by decide
  rw [← lowerWord_eq_iff]
  split
  case isTrue hasc =>
    cases direction with
    | ascending => exact iff_of_true rfl hasc
    | descending => exact iff_of_false nofun fun h => hdiffer (hasc.symm.trans h)
  case isFalse hasc =>
    split
    case isTrue hdesc =>
      cases direction with
      | ascending => exact iff_of_false nofun hasc
      | descending => exact iff_of_true rfl hdesc
    case isFalse hdesc =>
      cases direction with
      | ascending => exact iff_of_false nofun hasc
      | descending => exact iff_of_false nofun hdesc

/-- A key for sorting is made of its field and its direction. -/
lemma sortKey_mk_eq_iff {field : List Char} {direction : Direction} :
    ⟨String.ofList field, direction⟩ = key ↔
      field = key.field.toList ∧ direction = key.direction := by
  obtain ⟨name, d⟩ := key
  rw [SortKey.mk.injEq]
  refine and_congr_left fun _ => ⟨fun h => ?_, fun h => ?_⟩
  · rw [← h, String.toList_ofList]
  · rw [h, String.ofList_toList]

/-- A text is read as a sort key if its words are the field and maybe the direction. -/
lemma sortKeyOf_eq_ok : sortKeyOf item = .ok key ↔
    ∃ others, Text.words item = key.field.toList :: others ∧
      ((others = [] ∧ key.direction = .ascending) ∨
        ∃ word, others = [word] ∧ Text.Spells word key.direction.letters) := by
  unfold sortKeyOf
  cases Text.words item with
  | nil => exact iff_of_false nofun fun ⟨_, h, _⟩ => nomatch h
  | cons field others =>
    simp only [List.cons.injEq, and_assoc, exists_and_left, exists_eq_left']
    cases others with
    | nil => simp [sortKey_mk_eq_iff, eq_comm (a := Direction.ascending)]
    | cons word more =>
      have hread : _ = some key.direction ↔ Text.Spells word key.direction.letters :=
        direction?_eq_some
      dsimp only
      split
      case h_1 hnone =>
        rw [hnone] at hread
        have hnot : ¬Text.Spells word key.direction.letters := fun h => nomatch hread.mpr h
        refine iff_of_false nofun ?_
        rintro ⟨-, ⟨h, -⟩ | ⟨word', h, hword⟩⟩
        · cases h
        · exact hnot ((List.cons.inj h).1 ▸ hword)
      case h_2 direction hsome =>
        rw [hsome, Option.some.injEq] at hread
        cases more with
        | nil => simp [sortKey_mk_eq_iff, hread]
        | cons third more => simp

/-- The words after a field tell its direction as they are written. -/
lemma tellsDirection_iff {rest : List Char} {direction : Direction}
    (hstart : Text.StartsBlank rest) : TellsDirection rest direction ↔
      (Text.words rest = [] ∧ direction = .ascending) ∨
        ∃ word, Text.words rest = [word] ∧ Text.Spells word direction.letters := by
  constructor
  · rintro (hrest | ⟨hgap, hne, hword, hrest⟩)
    · exact .inl ⟨Text.words_of_blank hrest, rfl⟩
    · refine .inr ⟨_, ?_, hword⟩
      rw [Text.words_append hgap (isWord_of_spells hword) hrest.startsBlank,
        Text.words_of_blank hrest]
  · rintro (⟨hrest, rfl⟩ | ⟨word, hwords, hword⟩)
    · exact .nothing (Text.words_eq_nil_iff.mp hrest)
    · obtain ⟨gap, after, rfl, hgap, hisWord, -, hafter⟩ := Text.words_eq_cons_iff.mp hwords
      refine .word hgap ?_ hword (Text.words_eq_nil_iff.mp hafter)
      rintro rfl
      exact hisWord.not_startsBlank_append after hstart

/-- What tells a direction is blank from its start on, if it is not empty. -/
lemma TellsDirection.startsBlank {rest : List Char} {direction : Direction}
    (h : TellsDirection rest direction) : Text.StartsBlank rest := by
  rcases h with hrest | ⟨hgap, hne, -, -⟩
  · exact hrest.startsBlank
  · exact hgap.startsBlank.append hne _

/-- A text without commas is read as the sort key that it writes. -/
lemma sortKeyOf_eq_ok_iff_writesKey (hcomma : ',' ∉ item) :
    sortKeyOf item = .ok key ↔ WritesKey item key := by
  rw [sortKeyOf_eq_ok]
  constructor
  · rintro ⟨others, hwords, htells⟩
    obtain ⟨before, after, rfl, hbefore, hfield, hafter, rfl⟩ := Text.words_eq_cons_iff.mp hwords
    have hnoComma : ',' ∉ key.field.toList := fun h =>
      hcomma (List.mem_append_right _ (List.mem_append_left _ h))
    exact ⟨hfield, hnoComma, before, after, rfl, hbefore, (tellsDirection_iff hafter).mpr htells⟩
  · rintro ⟨hfield, -, before, rest, rfl, hbefore, htells⟩
    have hstart := htells.startsBlank
    exact ⟨Text.words rest, Text.words_append hbefore hfield hstart,
      (tellsDirection_iff hstart).mp htells⟩

/-- White space has no comma. -/
lemma not_comma_of_blank {cs : List Char} (h : Text.Blank cs) : ',' ∉ cs :=
  fun hc => absurd (h _ hc) (by decide)

/-- What tells a direction has no comma. -/
lemma TellsDirection.not_comma {rest : List Char} {direction : Direction}
    (h : TellsDirection rest direction) : ',' ∉ rest := by
  rcases h with hrest | ⟨hgap, -, hword, hrest⟩
  · exact not_comma_of_blank hrest
  · simp only [List.mem_append, not_or]
    exact ⟨not_comma_of_blank hgap, fun hc => (not_blank_of_spells hword _ hc).2 rfl,
      not_comma_of_blank hrest⟩

/-- The pieces of a text that is split at its commas have none. -/
lemma not_comma_of_mem_split {text : List Char} :
    ∀ piece ∈ Text.split (· == ',') text, ',' ∉ piece :=
  fun _ hpiece hc => absurd (Text.not_sep_of_mem_split hpiece _ hc) (by decide)

/-- The text of a sort key has no comma. -/
lemma WritesKey.not_comma (h : WritesKey item key) : ',' ∉ item := by
  obtain ⟨-, hcomma, before, rest, rfl, hbefore, hrest⟩ := h
  simp only [List.mem_append, not_or]
  exact ⟨not_comma_of_blank hbefore, hcomma, hrest.not_comma⟩

/-- A text is read as the sort keys that it writes, and as no others. -/
theorem sortKeysOf_eq_ok_iff {text : List Char} {keys : List SortKey} :
    sortKeysOf text = .ok keys ↔ WritesKeys text keys := by
  rw [sortKeysOf, mapM_eq_ok]
  constructor
  · intro h
    refine ⟨_, Text.split_ne_nil _ text, (Text.intercalate_split ',' text).symm, ?_⟩
    have hboth := (List.forall₂_and_left _ _).mpr ⟨not_comma_of_mem_split, h⟩
    exact hboth.imp fun item key ⟨hitem, hkey⟩ => (sortKeyOf_eq_ok_iff_writesKey hitem).mp hkey
  · rintro ⟨items, hne, rfl, hitems⟩
    have hcomma : ∀ item ∈ items, ',' ∉ item :=
      ((List.forall₂_and_left _ _).mp (hitems.imp fun item key h => ⟨h.not_comma, h⟩)).1
    rw [Text.split_intercalate hne hcomma]
    exact hitems.imp fun item key hkey => (sortKeyOf_eq_ok_iff_writesKey hkey.not_comma).mpr hkey

/-- Every refusal of a sort key is one of the order option. -/
lemma exists_reason_of_sortKeyOf {error : OptionError} (h : sortKeyOf item = .error error) :
    ∃ reason, error = .orderBy reason := by
  unfold sortKeyOf at h
  split at h
  · exact ⟨_, (Except.error.inj h).symm⟩
  · cases h
  · dsimp only at h
    split at h
    · exact ⟨_, (Except.error.inj h).symm⟩
    · split at h
      · cases h
      · exact ⟨_, (Except.error.inj h).symm⟩

end SortKeys

/-! ### Fields -/

section Fields

variable {entries names : List (List Char)}

/-- The names that are listed are what is left of the entries. -/
lemma Lists.names_eq (h : Lists entries names) :
    (entries.map Text.trim).filter (· ≠ []) = names := by
  induction h with
  | nil => rfl
  | blank hentry _ ih =>
    rw [List.map_cons, Text.trim_of_blank (List.all_eq_true.mpr hentry),
      List.filter_cons_of_neg (by simp), ih]
  | name hname hbefore hafter _ ih =>
    rw [List.map_cons, Text.trim_append hbefore hname.trimmed hafter,
      List.filter_cons_of_pos (by simpa using hname.ne_nil), ih]

/-- Entries without commas list what is left of them. -/
lemma lists_of_not_comma (h : ∀ entry ∈ entries, ',' ∉ entry) :
    Lists entries ((entries.map Text.trim).filter (· ≠ [])) := by
  induction entries with
  | nil => exact .nil
  | cons entry entries ih =>
    obtain ⟨hentry, hentries⟩ := List.forall_mem_cons.mp h
    obtain ⟨before, after, hbefore, hafter, htrimmed, heq⟩ := Text.exists_margins entry
    rw [List.map_cons]
    by_cases hnil : Text.trim entry = []
    · rw [List.filter_cons_of_neg (by simpa using hnil)]
      refine .blank ?_ (ih hentries)
      rw [heq, hnil]
      exact List.forall_mem_append.mpr ⟨hbefore, hafter⟩
    · rw [List.filter_cons_of_pos (by simpa using hnil)]
      have hcomma : ',' ∉ Text.trim entry := fun hc =>
        hentry (heq ▸ List.mem_append_right _ (List.mem_append_left _ hc))
      have hlisted := Lists.name ⟨hnil, hcomma, htrimmed⟩ hbefore hafter (ih hentries)
      rwa [← heq] at hlisted

/-- The entries of a list have no comma. -/
lemma Lists.not_comma (h : Lists entries names) : ∀ entry ∈ entries, ',' ∉ entry := by
  induction h with
  | nil => exact fun entry hentry => absurd hentry List.not_mem_nil
  | blank hentry _ ih => exact List.forall_mem_cons.mpr ⟨not_comma_of_blank hentry, ih⟩
  | name hname hbefore hafter _ ih =>
    refine List.forall_mem_cons.mpr ⟨?_, ih⟩
    simp only [List.mem_append, not_or]
    exact ⟨not_comma_of_blank hbefore, hname.no_comma, not_comma_of_blank hafter⟩

/-- The names that a list has are such as can be listed. -/
lemma Lists.isListed (h : Lists entries names) : ∀ name ∈ names, IsListed name := by
  induction h with
  | nil => exact fun name hname => absurd hname List.not_mem_nil
  | blank _ _ ih => exact ih
  | name hname _ _ _ ih => exact List.forall_mem_cons.mpr ⟨hname, ih⟩

/-- A text is read as the fields that it lists, and as no others. -/
theorem fieldsOf_eq_iff {text : List Char} {names : List String} :
    fieldsOf text = names ↔ ListsFields text names := by
  constructor
  · rintro rfl
    refine ⟨_, (Text.intercalate_split ',' text).symm, ?_⟩
    have hid : String.toList ∘ String.ofList = id := funext fun _ => String.toList_ofList
    rw [fieldsOf, List.map_map, hid, List.map_id]
    exact lists_of_not_comma not_comma_of_mem_split
  · rintro ⟨entries, rfl, hentries⟩
    have hpieces : ((Text.split (· == ',') ([','].intercalate entries)).map Text.trim).filter
        (· ≠ []) = names.map String.toList := by
      cases entries with
      | nil => rw [← hentries.names_eq]; rfl
      | cons entry entries =>
        rw [Text.split_intercalate (List.cons_ne_nil _ _) hentries.not_comma, hentries.names_eq]
    have hid : String.ofList ∘ String.toList = id := funext fun _ => String.ofList_toList
    rw [fieldsOf, hpieces, List.map_map, hid, List.map_id]

end Fields

/-! ### Both options -/

/-- What is promised for the texts of the order option and of the select option. -/
structure ReadsLists (text : List Char) : Prop where
  /-- The text is read as some sort keys if it writes them, and only then. -/
  keys_iff : ∀ keys, sortKeysOf text = .ok keys ↔ WritesKeys text keys
  /-- If it writes no sort keys, it is refused as a text of the order option. -/
  refused : (∀ keys, ¬WritesKeys text keys) →
    ∃ reason, sortKeysOf text = .error (.orderBy reason)
  /-- The text is read as some fields if it lists them, and only then. -/
  fields_iff : ∀ names, fieldsOf text = names ↔ ListsFields text names
  /-- No field that it is read as is blank, has a comma or has white space at an end. -/
  isListed : ∀ name ∈ fieldsOf text, IsListed name.toList

/-- **The texts of the two options are read exactly.** Every text is read as the sort keys that it
writes or else refused as a text of the order option, and it is read as the fields that it lists. -/
theorem readsLists (text : List Char) : ReadsLists text where
  keys_iff _ := sortKeysOf_eq_ok_iff
  refused hnone := by
    cases h : sortKeysOf text with
    | ok keys => exact absurd (sortKeysOf_eq_ok_iff.mp h) (hnone keys)
    | error error =>
      obtain ⟨item, -, hitem⟩ := exists_of_mapM_eq_error h
      obtain ⟨reason, rfl⟩ := exists_reason_of_sortKeyOf hitem
      exact ⟨reason, rfl⟩
  fields_iff _ := fieldsOf_eq_iff
  isListed name hname := by
    obtain ⟨entries, -, hentries⟩ := fieldsOf_eq_iff.mp (rfl : fieldsOf text = fieldsOf text)
    exact hentries.isListed _ (List.mem_map_of_mem hname)

example : sortKeysOf "name, created_on\t Desc ".toList =
    .ok [⟨"name", .ascending⟩, ⟨"created_on", .descending⟩] := by
  decide +kernel

example : fieldsOf " name,, full name ".toList = ["name", "full name"] := by
  decide +kernel

end OData

end RecordGateway
