import Mathlib.Algebra.Group.Nat.Defs
import Mathlib.Tactic.Lemma
import RecordGateway.Proofs.Compilation.Success

/-!
# Windows that are pages

A request is cut into windows of `size` rows each, which are the pages of a store as long as their
numbers, their first rows and the size itself fit into the words that carry them.  Such a window
compiles to what the whole request compiles to, with the page in addition.
-/

namespace RecordGateway

/-- The request for `size` rows after the first `k * size`. -/
def QueryRequest.window (q : QueryRequest) (size k : Nat) : QueryRequest :=
  { q with skip := some (.ofNat (k * size)), top := some (.ofNat size) }

/-- The page of `size` rows that comes after `k` others. -/
def Page.after (size k : Nat) : Page :=
  ⟨.ofNat size, .ofNat (k + 1)⟩

/-- The native query with one page only. -/
def NativeQuery.onto (q : NativeQuery) (page : Page) : NativeQuery :=
  { q with page := some page }

section Windows

variable {maxPageSize : UInt32} {size k : Nat}

/-- The page starts after as many rows as the pages before it have. -/
lemma Page.offset_after (hsize : size < UInt32.size) (hk : k + 1 < UInt32.size) :
    (Page.after size k).offset = k * size := by
  rw [Page.offset, Page.after, UInt32.toNat_ofNat_of_lt' hsize, UInt32.toNat_ofNat_of_lt' hk,
    Nat.add_sub_cancel]

/-- A whole request asks for no page. -/
lemma pageOf_none : pageOf maxPageSize none none = .ok none := rfl

/-- A window is a page, if neither the page number nor the number of the rows to skip is too
large. -/
theorem pageOf_window (hpos : 1 ≤ size) (hsize : size ≤ maxPageSize.toNat)
    (hk : k + 1 < UInt32.size) (hskip : k * size < 2 ^ 63) :
    pageOf maxPageSize (some (.ofNat (k * size))) (some (.ofNat size)) =
      .ok (some (.after size k)) := by
  have hword : size < 2 ^ 63 := by
    have hmax := maxPageSize.toNat_lt
    omega
  -- neither the division nor the two sides of the comparisons round
  have hmod : ((k * size : Nat) : Int) % (size : Int) = 0 := by
    rw [← Int.natCast_emod, Nat.mul_mod_left, Int.natCast_zero]
  have hdiv : ((k * size : Nat) : Int) / (size : Int) = k := by
    rw [← Int.natCast_ediv, Nat.mul_div_cancel k hpos]
  unfold pageOf
  simp only [Option.map_some, Option.getD_some, Int64.toInt_ofNat_of_lt hskip,
    Int64.toInt_ofNat_of_lt hword]
  rw [if_neg (by omega), if_neg (by omega), if_neg (by omega), if_neg (by omega), hmod, hdiv,
    if_neg (by simp), if_neg (by omega)]
  rfl

/-- A request that asks for everything asks for no page. -/
lemma QueryRequest.page_of_compile_eq_ok {q : QueryRequest} {r : Resolver} {entityName : String}
    {native : NativeQuery} (hskip : q.skip = none) (htop : q.top = none)
    (h : q.compile r maxPageSize entityName = .ok native) : native.page = none := by
  obtain ⟨hpage, -⟩ := QueryRequest.compile_eq_ok.mp h
  rw [hskip, htop, pageOf_none] at hpage
  exact (Except.ok.inj hpage).symm

/-- A window of a request compiles to a page of what the request compiles to. -/
theorem QueryRequest.compile_window {q : QueryRequest} {r : Resolver} {entityName : String}
    {native : NativeQuery} (h : q.compile r maxPageSize entityName = .ok native)
    (hpos : 1 ≤ size) (hsize : size ≤ maxPageSize.toNat) (hk : k + 1 < UInt32.size)
    (hskip : k * size < 2 ^ 63) :
    (q.window size k).compile r maxPageSize entityName = .ok (native.onto (.after size k)) := by
  obtain ⟨-, hparts⟩ := QueryRequest.compile_eq_ok.mp h
  exact QueryRequest.compile_eq_ok.mpr ⟨pageOf_window hpos hsize hk hskip, hparts⟩

/-- A window of no rows is the page without rows. -/
lemma pageOf_zero {skip : Option Int64} {page : Option Page}
    (h : pageOf maxPageSize skip (some 0) = .ok page) : page = some ⟨0, 1⟩ := by
  have hmax : ¬ (maxPageSize.toNat : Int) < 0 := by omega
  unfold pageOf at h
  dsimp only at h
  split at h
  · cases h
  · change (if (0 : Int) < 0 then _ else if (maxPageSize.toNat : Int) < 0 then _ else
      if (0 : Int) = 0 then _ else _) = _ at h
    rw [if_neg (Int.lt_irrefl 0), if_neg hmax, if_pos rfl] at h
    exact (Except.ok.inj h).symm

/-- What a request for no rows compiles to yields nothing. -/
lemma QueryRequest.yieldsNothing_of_compile {q : QueryRequest} {r : Resolver}
    {entityName : String} {native : NativeQuery} (htop : q.top = some 0)
    (h : q.compile r maxPageSize entityName = .ok native) : native.yieldsNothing = true := by
  obtain ⟨hpage, -⟩ := QueryRequest.compile_eq_ok.mp h
  rw [htop] at hpage
  unfold NativeQuery.yieldsNothing
  rw [pageOf_zero hpage]
  rfl

/-- A window that starts at the first row is the first page. -/
lemma pageOf_first {top : Int64} (hpos : 0 < top.toInt)
    (htop : top.toInt ≤ (maxPageSize.toNat : Int)) :
    pageOf maxPageSize none (some top) = .ok (some ⟨.ofNat top.toInt.toNat, 1⟩) := by
  unfold pageOf
  simp only [Option.map_none, Option.map_some, Option.getD_none]
  rw [if_neg (by omega), if_neg (by omega), if_neg (by omega), if_neg (by omega),
    if_neg (by simp), if_neg (by simp)]
  simp

/-- Such a request compiles just if the whole request does, with the page in addition. -/
theorem QueryRequest.compile_first {q : QueryRequest} {r : Resolver} {entityName : String}
    {top : Int64} (hskip : q.skip = none) (htop : q.top = some top) (hpos : 0 < top.toInt)
    (hle : top.toInt ≤ (maxPageSize.toNat : Int)) :
    q.compile r maxPageSize entityName =
      (NativeQuery.onto · ⟨.ofNat top.toInt.toNat, 1⟩) <$>
        { q with top := none }.compile r maxPageSize entityName := by
  unfold compile
  rw [hskip, htop, pageOf_first hpos hle, pageOf_none]
  cases q.filter <;> cases q.select <;> simp only [map_bind] <;> rfl

end Windows

end RecordGateway
