import Mathlib.Data.List.Perm.Basic
import Mathlib.Tactic.Lemma
import RecordGateway.Filter

/-!
# Three-valued truth

The strong three-valued logic of Kleene, in which a comparison against a missing value is
neither true nor false.  A conjunction is false as soon as one member is, and true only when
all are; a disjunction is dual to it.  The two connectives of filters are read in this logic by
`Truth.join`.

`Truth.is` asks whether an outcome is a given definite one.  Asked for truth, a conjunction asks
all of its members for truth; asked for falsehood, it asks any of them for falsehood.  This is
De Morgan's law without a word about the unknown (`Truth.join_is`), and it is what allows a
negation to be pushed down to the leaves of a filter.
-/

namespace RecordGateway

/-- An outcome of a filter: true, false, or neither of the two. -/
inductive Truth where
  | yes
  | no
  | unknown
deriving DecidableEq

namespace Truth

/-- The definite outcome of a two-valued test. -/
def ofBool : Bool → Truth
  | true => yes
  | false => no

/-- The outcome of a test that may have no answer. -/
def ofOption : Option Bool → Truth
  | some b => ofBool b
  | none => unknown

/-- Negation leaves the unknown unknown. -/
def not : Truth → Truth
  | yes => no
  | no => yes
  | unknown => unknown

/-- Conjunction: false if one side is, otherwise unknown if one side is. -/
def and : Truth → Truth → Truth
  | no, _ => no
  | yes, b => b
  | unknown, no => no
  | unknown, _ => unknown

/-- Disjunction: true if one side is, otherwise unknown if one side is. -/
def or : Truth → Truth → Truth
  | yes, _ => yes
  | no, b => b
  | unknown, yes => yes
  | unknown, _ => unknown

/-- The conjunction of a list of outcomes, true for the empty list. -/
def all (ts : List Truth) : Truth :=
  ts.foldr and yes

/-- The disjunction of a list of outcomes, false for the empty list. -/
def any (ts : List Truth) : Truth :=
  ts.foldr or no

/-- A list of outcomes under a connective. -/
def join : Connective → List Truth → Truth
  | .and => all
  | .or => any

/-- Whether an outcome is the definite one `b`. -/
def is (b : Bool) (t : Truth) : Bool :=
  t == ofBool b

end Truth

/-- A list of two-valued tests under a connective. -/
def Connective.combine : Connective → List Bool → Bool
  | .and, bs => bs.all id
  | .or, bs => bs.any id

namespace Truth

/-! ### Definite outcomes -/

/-- The only outcome that is definitely true is `yes`. -/
lemma is_true_iff {t : Truth} : t.is true = true ↔ t = yes := by
  cases t <;> decide

/-- The only outcome that is definitely false is `no`. -/
lemma is_false_iff {t : Truth} : t.is false = true ↔ t = no := by
  cases t <;> decide

/-- A two-valued outcome is the definite one that it is made from. -/
@[simp] lemma ofBool_is (b c : Bool) : (ofBool c).is b = (c == b) := by
  cases b <;> cases c <;> rfl

/-- The unknown outcome is none of the definite ones. -/
@[simp] lemma unknown_is (b : Bool) : unknown.is b = false := by
  cases b <;> rfl

/-- An outcome that may be missing is definite if it is there. -/
@[simp] lemma ofOption_is (b : Bool) (o : Option Bool) : (ofOption o).is b = (o == some b) := by
  rcases o with - | c
  · exact unknown_is b
  · exact ofBool_is b c

/-- A negation is definite in the opposite way. -/
lemma not_is (b : Bool) (t : Truth) : t.not.is b = t.is (!b) := by
  cases t <;> cases b <;> rfl

/-! ### Lists of outcomes -/

/-- A conjunction asked for truth asks both sides, asked for falsehood either of them. -/
lemma and_is (b : Bool) (s t : Truth) :
    (s.and t).is b = if b then s.is b && t.is b else s.is b || t.is b := by
  cases s <;> cases t <;> cases b <;> rfl

/-- A disjunction asked for truth asks either side, asked for falsehood both of them. -/
lemma or_is (b : Bool) (s t : Truth) :
    (s.or t).is b = if b then s.is b || t.is b else s.is b && t.is b := by
  cases s <;> cases t <;> cases b <;> rfl

/-- A joined list asked for a definite outcome asks its members for the same one, under the
connective itself for truth and under the opposite one for falsehood. -/
theorem join_is (b : Bool) (c : Connective) (ts : List Truth) :
    (join c ts).is b = (if b then c else c.flip).combine (ts.map (is b)) := by
  induction ts with
  | nil => cases b <;> cases c <;> rfl
  | cons t ts ih =>
    cases c with
    | and =>
      have hcons : join .and (t :: ts) = t.and (join .and ts) := rfl
      rw [hcons, and_is, ih]
      cases b <;> rfl
    | or =>
      have hcons : join .or (t :: ts) = t.or (join .or ts) := rfl
      rw [hcons, or_is, ih]
      cases b <;> rfl

/-- A disjunction of unknown outcomes is unknown, unless it is empty. -/
lemma any_eq_unknown {ts : List Truth} (hne : ts ≠ []) (h : ∀ t ∈ ts, t = unknown) :
    any ts = unknown := by
  induction ts with
  | nil => exact absurd rfl hne
  | cons t ts ih =>
    obtain ⟨rfl, hts⟩ := List.forall_mem_cons.mp h
    have hcons : any (unknown :: ts) = unknown.or (any ts) := rfl
    by_cases hnil : ts = []
    · rw [hnil]
      rfl
    · rw [hcons, ih hnil hts]
      rfl

/-! ### Rearranged lists -/

instance : LeftCommutative and :=
  ⟨fun s t u => by cases s <;> cases t <;> cases u <;> rfl⟩

instance : LeftCommutative or :=
  ⟨fun s t u => by cases s <;> cases t <;> cases u <;> rfl⟩

/-- The order of the members of a joined list does not matter. -/
theorem join_perm (c : Connective) {ts us : List Truth} (h : ts.Perm us) :
    join c ts = join c us := by
  cases c with
  | and => exact h.foldr_eq yes
  | or => exact h.foldr_eq no

/-- A joined list with one member has the outcome of that member. -/
lemma join_singleton (c : Connective) (t : Truth) : join c [t] = t := by
  cases c <;> cases t <;> rfl

/-- Two outcomes under the connective of conjunction are their conjunction. -/
lemma join_and_pair (s t : Truth) : join .and [s, t] = s.and t := by
  cases s <;> cases t <;> rfl

/-- Two outcomes under the connective of disjunction are their disjunction. -/
lemma join_or_pair (s t : Truth) : join .or [s, t] = s.or t := by
  cases s <;> cases t <;> rfl

/-- The negation of a conjunction is the disjunction of the negations. -/
lemma and_not (s t : Truth) : (s.and t).not = s.not.or t.not := by
  cases s <;> cases t <;> rfl

/-- The negation of a disjunction is the conjunction of the negations. -/
lemma or_not (s t : Truth) : (s.or t).not = s.not.and t.not := by
  cases s <;> cases t <;> rfl

/-- De Morgan's law: the negation of a joined list is the list of the negated members under the
opposite connective. -/
theorem join_flip_map_not (c : Connective) (ts : List Truth) :
    join c.flip (ts.map not) = (join c ts).not := by
  induction ts with
  | nil => cases c <;> rfl
  | cons t ts ih =>
    cases c with
    | and => exact (congrArg t.not.or ih).trans (and_not t _).symm
    | or => exact (congrArg t.not.and ih).trans (or_not t _).symm

end Truth

end RecordGateway
