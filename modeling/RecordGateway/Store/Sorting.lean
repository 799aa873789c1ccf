import RecordGateway.NativeQuery
import RecordGateway.Store.Matching

/-!
# Sorting

The order of records under some sort orders: the first one decides, and the next ones among
those that it leaves equal.  A record without the attribute comes before all that have it, and a
descending order is the reverse of the ascending one.  Values that do not compare count as equal.
-/

namespace RecordGateway

/-- The order of two optional values: none comes first. -/
def compareNoneFirst : Option Value → Option Value → Ordering
  | none, none => .eq
  | none, some _ => .lt
  | some _, none => .gt
  | some x, some y => (x.compare? y).getD .eq

/-- The order of two records under one sort order. -/
def SortOrder.compare (o : SortOrder) (a b : Attributes) : Ordering :=
  let ascending := compareNoneFirst (a.present? o.attributeName) (b.present? o.attributeName)
  match o.direction with
  | .ascending => ascending
  | .descending => ascending.swap

/-- The order of two records under some sort orders. -/
def compareRecords (orders : List SortOrder) (a b : Attributes) : Ordering :=
  match orders with
  | [] => .eq
  | o :: rest => (o.compare a b).then (compareRecords rest a b)

end RecordGateway
