import RecordGateway.Filter

/-!
# Compilation errors

Why a query request cannot be turned into a native query.
-/

namespace RecordGateway

/-- The part of a request in which a defect lies. -/
inductive Clause where
  | filter
  | orderBy
  | select
  | skip
  | top
deriving DecidableEq

/-- The clause as a word. -/
def Clause.text : Clause → String
  | filter => "filter"
  | orderBy => "orderby"
  | select => "select"
  | skip => "skip"
  | top => "top"

/-- A defect of a query request. -/
inductive CompilationError where
  | unmappedField (clause : Clause) (field : String)
  | invalidLiteral (field : String) (reason : String)
  | nullOrdering (field : String) (comparison : Comparison)
  | emptyGroup (connective : Connective)
  | emptyInList (field : String)
  | nullInList (field : String)
  | emptySelect
  | negative (clause : Clause) (value : Int)
  | misalignedPaging (skip top : Int)
  | skipWithoutTop (skip : Int)
  | pageTooLarge (top : Int) (max : UInt32)
  | pageOutOfRange (skip : Int)
deriving DecidableEq

namespace CompilationError

/-- The error as a sentence. -/
def message : CompilationError → String
  | unmappedField clause field => s!"{clause.text}: field '{field}' is not mapped"
  | invalidLiteral field reason => s!"filter: invalid literal for '{field}': {reason}"
  | nullOrdering field comparison =>
    s!"filter: '{field} {comparison.text} null' is not a valid comparison"
  | emptyGroup connective => s!"filter: empty '{connective.text}' group"
  | emptyInList field => s!"filter: 'in' list for '{field}' is empty"
  | nullInList field => s!"filter: 'in' list for '{field}' contains null"
  | emptySelect => "select: projection lists no fields"
  | negative clause value => s!"{clause.text}: must not be negative (got {value})"
  | misalignedPaging skip top => s!"skip: {skip} is not a multiple of top ({top})"
  | skipWithoutTop skip => s!"skip: {skip} requires top"
  | pageTooLarge top max => s!"top: {top} exceeds the maximum page size of {max.toNat}"
  | pageOutOfRange skip => s!"skip: page for skip {skip} is out of range"

/-- Whether the window of rows does not fall on pages. -/
def isMisaligned : CompilationError → Bool
  | misalignedPaging _ _ | skipWithoutTop _ => true
  | _ => false

end CompilationError

end RecordGateway
