import Mathlib.Logic.Function.Iterate
import RecordGateway.Mapping.Table
import RecordGateway.Proofs.Compilation.Windows
import RecordGateway.Proofs.Store.Lookup

/-!
# Reading a result page by page

The answer to a page of a query is the part of the answer to the whole query that stands on that
page.  A reader who asks for one page after another until one has no rows, of a store that does
not change meanwhile, reads the whole answer, each row once and in its order, and can do so as far
as the numbers of the pages and of the rows fit into the words that carry them.
-/

namespace RecordGateway

namespace Store

/-! ### One page -/

/-- A query is answered with what it selects among the records that it finds. -/
lemma retrieveMultiple_snd (s : Store) (q : NativeQuery) :
    (s.retrieveMultiple q).2 = .ok ((s.enter .retrieveMultiple).select q) := rfl

/-- What a query selects depends on the records only. -/
lemma select_congr {s t : Store} (h : s.records = t.records) (q : NativeQuery) :
    s.select q = t.select q := by
  rw [select, select, h]

/-- A page of a query selects the part of what the query selects that stands on the page. -/
lemma select_onto (s : Store) {q : NativeQuery} (hq : q.page = none) (page : Page) :
    s.select (q.onto page) = ((s.select q).drop page.offset).take page.count.toNat := by
  have hall : s.select q = (rows q s.records).map (·.toEntity q.columns) := by
    rw [select, hq, onPage]
  have hpage : s.select (q.onto page) =
      (((rows q s.records).drop page.offset).take page.count.toNat).map (·.toEntity q.columns) :=
    rfl
  rw [hall, hpage, List.map_take, List.map_drop]

end Store

/-! ### All pages -/

/-- The rows that one reads who asks for one page of `size` rows after another, from the `k`-th on,
until one has no rows; `states k` is the store in which the `k`-th is asked for. -/
inductive PagesFrom (q : QueryRequest) (r : Resolver) (maxPageSize : UInt32) (entityName : String)
    (size : Nat) (states : Nat → Store) : Nat → List Entity → Prop
  | last {k : Nat} {native : NativeQuery} :
      (q.window size k).compile r maxPageSize entityName = .ok native →
      ((states k).retrieveMultiple native).2 = .ok [] →
      PagesFrom q r maxPageSize entityName size states k []
  | next {k : Nat} {native : NativeQuery} {page rest : List Entity} :
      (q.window size k).compile r maxPageSize entityName = .ok native →
      ((states k).retrieveMultiple native).2 = .ok page → page ≠ [] →
      PagesFrom q r maxPageSize entityName size states (k + 1) rest →
      PagesFrom q r maxPageSize entityName size states k (page ++ rest)

/-- Whether a query finds the same records in all states of a store. -/
def Unchanged (states : Nat → Store) : Prop :=
  ∀ k, ((states k).enter .retrieveMultiple).records =
    ((states 0).enter .retrieveMultiple).records

/-- The store after the first `k` of some queries. -/
def Store.afterQueries (s : Store) (queries : Nat → NativeQuery) : Nat → Store
  | 0 => s
  | k + 1 => ((s.afterQueries queries k).retrieveMultiple (queries k)).1

section Reading

variable {q : QueryRequest} {r : Resolver} {maxPageSize : UInt32} {entityName : String}
  {native : NativeQuery} {size k : Nat} {states : Nat → Store}

/-- What one reads is determined by the states of the store. -/
lemma PagesFrom.unique {rows rows' : List Entity}
    (h : PagesFrom q r maxPageSize entityName size states k rows)
    (h' : PagesFrom q r maxPageSize entityName size states k rows') : rows = rows' := by
  induction h generalizing rows' with
  | last hcompile hanswer =>
    cases h' with
    | last => rfl
    | next hcompile' hanswer' hne =>
      obtain rfl := Except.ok.inj (hcompile.symm.trans hcompile')
      exact absurd (Except.ok.inj (hanswer'.symm.trans hanswer)) hne
  | next hcompile hanswer hne _ ih =>
    cases h' with
    | last hcompile' hanswer' =>
      obtain rfl := Except.ok.inj (hcompile.symm.trans hcompile')
      exact absurd (Except.ok.inj (hanswer.symm.trans hanswer')) hne
    | next hcompile' hanswer' _ hrest =>
      obtain rfl := Except.ok.inj (hcompile.symm.trans hcompile')
      rw [Except.ok.inj (hanswer.symm.trans hanswer'), ih hrest]

/-- The answer to a window is its part of the answer to the whole request. -/
theorem retrieveMultiple_window (s : Store) (hskip : q.skip = none) (htop : q.top = none)
    (h : q.compile r maxPageSize entityName = .ok native) (hpos : 1 ≤ size)
    (hsize : size ≤ maxPageSize.toNat) (hk : k + 1 < UInt32.size) (hrows : k * size < 2 ^ 63) :
    ∃ page, (q.window size k).compile r maxPageSize entityName = .ok page ∧
      (s.retrieveMultiple page).2 =
        .ok ((((s.enter .retrieveMultiple).select native).drop (k * size)).take size) := by
  have hword : size < UInt32.size := Nat.lt_of_le_of_lt hsize maxPageSize.toNat_lt
  have hnone := QueryRequest.page_of_compile_eq_ok hskip htop h
  refine ⟨_, QueryRequest.compile_window h hpos hsize hk hrows, ?_⟩
  rw [Store.retrieveMultiple_snd, Store.select_onto _ hnone, Page.offset_after hword hk, Page.after,
    UInt32.toNat_ofNat_of_lt' hword]

/-- Who starts at a row of the answer, or at most one page behind it, reads the rest of the
answer. -/
lemma pagesFrom_drop (hskip : q.skip = none) (htop : q.top = none)
    (h : q.compile r maxPageSize entityName = .ok native) (hpos : 1 ≤ size)
    (hsize : size ≤ maxPageSize.toNat) (hstates : Unchanged states) {all : List Entity}
    (hall : ((states 0).retrieveMultiple native).2 = .ok all)
    (hpages : all.length ≤ size * (2 ^ 32 - 2)) (hrows : all.length ≤ 2 ^ 63 - size) (n : Nat) :
    ∀ k, k * size < all.length + size → all.length ≤ (k + n) * size →
      PagesFrom q r maxPageSize entityName size states k (all.drop (k * size)) := by
  have hpage (k : Nat) (hk : k * size < all.length + size) :
      ∃ page, (q.window size k).compile r maxPageSize entityName = .ok page ∧
        ((states k).retrieveMultiple page).2 = .ok ((all.drop (k * size)).take size) := by
    have hnumber : k + 1 < UInt32.size := by
      have hlt : k * size < (2 ^ 32 - 1) * size := by omega
      have hk := Nat.lt_of_mul_lt_mul_right hlt
      have hwords : UInt32.size = 2 ^ 32 := rfl
      omega
    have hmax : size < 2 ^ 32 := Nat.lt_of_le_of_lt hsize maxPageSize.toNat_lt
    obtain ⟨page, hcompile, hanswer⟩ := retrieveMultiple_window (states k) hskip htop h hpos hsize
      hnumber (by omega)
    have hselect := Store.select_congr (hstates k) native
    rw [← Except.ok.inj hall, ← hselect]
    exact ⟨page, hcompile, hanswer⟩
  -- the induction is on the number of pages that are left, and the last one of them is empty
  induction n with
  | zero =>
    intro k hk hlength
    obtain ⟨page, hcompile, hanswer⟩ := hpage k hk
    rw [Nat.add_zero] at hlength
    rw [List.drop_eq_nil_of_le hlength] at hanswer ⊢
    rw [List.take_nil] at hanswer
    exact .last hcompile hanswer
  | succ n ih =>
    intro k hk hlength
    obtain ⟨page, hcompile, hanswer⟩ := hpage k hk
    by_cases hend : all.length ≤ k * size
    · rw [List.drop_eq_nil_of_le hend] at hanswer ⊢
      rw [List.take_nil] at hanswer
      exact .last hcompile hanswer
    · have hnext : (k + 1) * size = k * size + size := Nat.succ_mul k size
      have hsplit : all.drop (k * size) =
          (all.drop (k * size)).take size ++ all.drop ((k + 1) * size) := by
        rw [hnext, ← List.drop_drop, List.take_append_drop]
      rw [hsplit]
      refine .next hcompile hanswer ?_ (ih (k + 1) (by omega) ?_)
      · simp only [ne_eq, List.take_eq_nil_iff, List.drop_eq_nil_iff]
        omega
      · rwa [Nat.add_right_comm, Nat.add_assoc]

end Reading

/-! ### Unchanged stores -/

/-- Whether no other writer waits for a query. -/
def Store.Undisturbed (s : Store) : Prop :=
  ∀ i ∈ s.pending, i.before ≠ .retrieveMultiple

namespace Store

variable {s : Store}

/-- A query for which no other writer waits is counted, and nothing else happens. -/
lemma Undisturbed.enter (hs : s.Undisturbed) :
    s.enter .retrieveMultiple = { s with counts := s.counts.count .retrieveMultiple } := by
  have hdue : s.pending.filter (·.isDue .retrieveMultiple) = [] := by
    rw [List.filter_eq_nil_iff]
    intro i hi
    simp [Interference.isDue, hs i hi]
  have hlater : (s.pending.filter fun i => !i.isDue .retrieveMultiple) = s.pending := by
    rw [List.filter_eq_self]
    intro i hi
    simp [Interference.isDue, hs i hi]
  have hwait : s.pending.map (·.wait .retrieveMultiple) = s.pending := by
    refine (List.map_congr_left fun i hi => ?_).trans (List.map_id _)
    rw [Interference.wait, if_neg (hs i hi), id]
  unfold Store.enter
  rw [hdue, hlater, hwait]
  rfl

/-- Queries leave the records alone that are found if no other writer waits for them. -/
lemma Undisturbed.unchanged (hs : s.Undisturbed) (queries : Nat → NativeQuery) :
    Unchanged (s.afterQueries queries) := by
  have hafter (k : Nat) : (s.afterQueries queries k).Undisturbed ∧
      (s.afterQueries queries k).records = s.records := by
    induction k with
    | zero => exact ⟨hs, rfl⟩
    | succ k ih =>
      have henter : s.afterQueries queries (k + 1) = { s.afterQueries queries k with
          counts := (s.afterQueries queries k).counts.count .retrieveMultiple } := ih.1.enter
      rw [henter]
      exact ih
  intro k
  rw [(hafter k).1.enter, (hafter 0).1.enter]
  exact (hafter k).2

end Store

/-! ### The pages as a partition -/

/-- What the pages of `size` rows of a request are worth that compiles to `native` and asks for all
rows. -/
structure PagesPartition (q : QueryRequest) (r : Resolver) (maxPageSize : UInt32)
    (entityName : String) (native : NativeQuery) (size : Nat) : Prop where
  /-- In every state of a store each page that can be named is answered with its rows of those with
  which the whole request is answered. -/
  windows : ∀ (s : Store) (k : Nat), k + 1 ≤ 2 ^ 32 - 1 → k * size ≤ 2 ^ 63 - 1 →
    ∃ page all, (q.window size k).compile r maxPageSize entityName = .ok page ∧
      (s.retrieveMultiple native).2 = .ok all ∧
      (s.retrieveMultiple page).2 = .ok ((all.drop (k * size)).take size)
  /-- Of a store that does not change, what one reads page by page is the whole answer, as long as
  its rows fit on pages that can be named. -/
  whole : ∀ states : Nat → Store, Unchanged states →
    ∃ all, ((states 0).retrieveMultiple native).2 = .ok all ∧
      (all.length ≤ size * (2 ^ 32 - 2) → all.length ≤ 2 ^ 63 - size →
        ∀ rows, PagesFrom q r maxPageSize entityName size states 0 rows ↔ rows = all)
  /-- A store does not change by queries for which no other writer waits. -/
  unchanged : ∀ (s : Store) (queries : Nat → NativeQuery), s.Undisturbed →
    Unchanged (s.afterQueries queries)

/-- **Pages partition a result.**  Each window of a request that falls on a page of the given size
compiles, and is answered with its rows of the answer to the whole request; and who reads one page
after another of a store that does not change, until one has no rows, reads every row of the
answer once and in order. -/
theorem pagesPartition_of_compile {q : QueryRequest} {r : Resolver} {maxPageSize : UInt32}
    {entityName : String} {native : NativeQuery} {size : Nat} (hskip : q.skip = none)
    (htop : q.top = none) (h : q.compile r maxPageSize entityName = .ok native)
    (hpos : 1 ≤ size) (hsize : size ≤ maxPageSize.toNat) :
    PagesPartition q r maxPageSize entityName native size where
  windows s k hk hrows := by
    obtain ⟨page, hcompile, hanswer⟩ := retrieveMultiple_window s hskip htop h hpos hsize
      (Nat.lt_of_le_pred (by decide) hk) (Nat.lt_of_le_pred (by decide) hrows)
    exact ⟨page, _, hcompile, Store.retrieveMultiple_snd s native, hanswer⟩
  whole states hstates := by
    have hanswer := Store.retrieveMultiple_snd (states 0) native
    generalize ((states 0).enter .retrieveMultiple).select native = all at hanswer
    refine ⟨all, hanswer, fun hpages hrows rows => ?_⟩
    have hlength : all.length ≤ (0 + all.length) * size := by
      rw [Nat.zero_add]
      exact Nat.le_mul_of_pos_right _ hpos
    have hall := pagesFrom_drop hskip htop h hpos hsize hstates hanswer hpages hrows _ 0 (by omega)
      hlength
    rw [Nat.zero_mul, List.drop_zero] at hall
    constructor
    · intro hread
      exact hread.unique hall
    · rintro rfl
      exact hall
  unchanged s queries hs := hs.unchanged queries

/-- A store with three persons. -/
def threePersons : Store :=
  [1, 2, 3].foldl (fun s n => s.add (.named "person") (.ofNat n)) .empty

/-- The query for all persons. -/
def allPersons : NativeQuery :=
  ⟨"person", .empty, .all, [], none⟩

/-- The three persons are read on pages of two, in the order in which they were created. -/
theorem pagesPartition_threePersons :
    PagesPartition .all (.ofTable [] []) 100 "person" allPersons 2 ∧
      PagesFrom .all (.ofTable [] []) 100 "person" 2
        (threePersons.afterQueries fun k => allPersons.onto (.after 2 k)) 0
        (threePersons.records.map (·.toEntity .all)) := by
  have hpages : PagesPartition .all (.ofTable [] []) 100 "person" allPersons 2 :=
    pagesPartition_of_compile rfl rfl rfl (by decide) (by decide)
  refine ⟨hpages, ?_⟩
  have hundisturbed : threePersons.Undisturbed := fun _ h => absurd h List.not_mem_nil
  have hunchanged := hpages.unchanged threePersons (fun k => allPersons.onto (.after 2 k))
    hundisturbed
  obtain ⟨all, hall, hwhole⟩ := hpages.whole _ hunchanged
  have hrecords : all = threePersons.records.map (·.toEntity .all) :=
    (Except.ok.inj hall).symm.trans (by decide +kernel)
  rw [hrecords] at hwhole
  exact (hwhole (by decide +kernel) (by decide +kernel) _).mpr rfl

end RecordGateway
