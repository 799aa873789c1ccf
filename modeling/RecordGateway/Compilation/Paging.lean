import RecordGateway.Compilation.Error
import RecordGateway.NativeQuery

/-!
# Windows and pages

A store serves numbered pages, so a window of rows has to be a page: the rows to skip must be a
multiple of the rows to return.  A window of no rows is a page of its own.
-/

namespace RecordGateway

/-- The page that a window of rows is, `none` for all rows. -/
def pageOf (maxPageSize : UInt32) (skip top : Option Int64) :
    Except CompilationError (Option Page) :=
  let skipped : Int := (skip.map Int64.toInt).getD 0
  if skipped < 0 then .error (.negative .skip skipped)
  else match top.map Int64.toInt with
    | none => if 0 < skipped then .error (.skipWithoutTop skipped) else .ok none
    | some count =>
      if count < 0 then .error (.negative .top count)
      else if (maxPageSize.toNat : Int) < count then .error (.pageTooLarge count maxPageSize)
      else if count = 0 then .ok (some ⟨0, 1⟩)
      else if skipped % count ≠ 0 then .error (.misalignedPaging skipped count)
      else if (UInt32.size : Int) ≤ skipped / count + 1 then .error (.pageOutOfRange skipped)
      else .ok (some ⟨.ofNat count.toNat, .ofNat (skipped / count + 1).toNat⟩)

end RecordGateway
