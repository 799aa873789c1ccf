import Mathlib.Data.List.Induction
import Mathlib.Data.List.Infix
import Mathlib.Data.List.Pairwise
import RecordGateway.Proofs.Store.VersionOrder

/-!
# The schedule of other writers

An action of another writer is scheduled with a kind of call and a number of calls of that kind that
it lets pass.  The store keeps the actions that are still to come with countdowns, which every call
moves on; the run itself tells without any countdown when an action is due: right before a call of
its kind, when as many calls of that kind as it lets pass have come since it was scheduled.

At every event of a run precisely the actions are taken that are due then, in the order in which
they were scheduled, and after them the event has the effect that it has in a store in which nothing
is scheduled.  The invariant behind this is that the store keeps the actions that wait, each with
what is left of its number (`exists_waiting`).
-/

namespace RecordGateway

/-- The kind of call that an event is. -/
def StoreEvent.kind? : StoreEvent → Option CallKind
  | step action => action.kind?
  | _ => none

/-- Whether an event is a call of a kind. -/
def StoreEvent.isCall (kind : CallKind) (event : StoreEvent) : Bool :=
  event.kind? == some kind

/-- The action that an event schedules. -/
def StoreEvent.scheduled? : StoreEvent → Option Interference
  | .step (.interleave i) => some i
  | _ => none

namespace Interference

/-- The number of calls of its kind since event number `p` scheduled an action. -/
def callsSince (i : Interference) (events : List StoreEvent) (p : Nat) : Nat :=
  (events.drop (p + 1)).countP (·.isCall i.before)

/-- Whether the action that event number `p` schedules is due right before `event`, which comes
after the events `before`: it is a call of the kind for which the action waits, and the calls of
this kind since the action was scheduled are as many as it lets pass. -/
structure DueBefore (i : Interference) (before : List StoreEvent) (event : StoreEvent) (p : Nat) :
    Prop where
  scheduled : before[p]? = some (.step (.interleave i))
  call : event.kind? = some i.before
  waited : i.callsSince before p = i.skip

/-- Whether the action that event number `p` schedules has not been due in a run. -/
structure Waits (i : Interference) (events : List StoreEvent) (p : Nat) : Prop where
  scheduled : events[p]? = some (.step (.interleave i))
  waiting : i.callsSince events p ≤ i.skip

/-- The action after some calls of its kind. -/
def after (i : Interference) (calls : Nat) : Interference :=
  { i with skip := i.skip - calls }

end Interference

/-- Whether a list has the actions with a property, each with the number of the event that schedules
it, in the order in which they were scheduled. -/
structure InOrder (P : Interference → Nat → Prop) (actions : List (Nat × Interference)) :
    Prop where
  ordered : actions.Pairwise fun a b => a.1 < b.1
  mem_iff : ∀ p i, (p, i) ∈ actions ↔ P i p

/-! ### Calls since an action was scheduled -/

section CallsSince

variable {events events' : List StoreEvent} {event : StoreEvent} {i : Interference} {p : Nat}

/-- A further event counts if it is a call of the kind for which the action waits. -/
lemma callsSince_concat (hp : p < events.length) :
    i.callsSince (events ++ [event]) p =
      i.callsSince events p + if event.isCall i.before then 1 else 0 := by
  rw [Interference.callsSince, List.drop_append_of_le_length hp, List.countP_append,
    List.countP_singleton]
  rfl

/-- No calls are counted as long as no event comes after number `p`. -/
lemma callsSince_of_length_le (hp : events.length ≤ p + 1) : i.callsSince events p = 0 := by
  rw [Interference.callsSince, List.drop_eq_nil_of_le hp, List.countP_nil]

/-- The count does not fall as a run goes on. -/
lemma callsSince_mono (h : events <+: events') : i.callsSince events p ≤ i.callsSince events' p :=
  (h.drop (p + 1)).sublist.countP_le

/-- An event is a call of a kind precisely if that is the kind of call that it is. -/
lemma isCall_iff {kind : CallKind} : event.isCall kind = true ↔ event.kind? = some kind :=
  beq_iff_eq

/-- The number of an event is less than the number of events. -/
lemma lt_length_of_scheduled (h : events[p]? = some event) : p < events.length :=
  (List.getElem?_eq_some_iff.mp h).1

/-- An action is due once as many calls have come as it lets pass and one more. -/
lemma exists_due (h : i.skip < i.callsSince events p) :
    ∃ before event, before ++ [event] <+: events ∧ event.kind? = some i.before ∧
      i.callsSince before p = i.skip ∧ p < before.length := by
  induction events using List.reverseRecOn with
  | nil => exact absurd h (Nat.not_lt_zero _)
  | append_singleton events event ih =>
    by_cases hearlier : i.skip < i.callsSince events p
    · obtain ⟨before, first, hreached, hdue⟩ := ih hearlier
      exact ⟨before, first, hreached.trans (List.prefix_append _ _), hdue⟩
    · have hp : p < events.length := by
        by_contra hp
        rw [callsSince_of_length_le (by simp; omega)] at h
        exact absurd h (Nat.not_lt_zero _)
      rw [callsSince_concat hp] at h
      split at h
      case isTrue hcall =>
        exact ⟨events, event, List.prefix_rfl, isCall_iff.mp hcall, by omega, hp⟩
      case isFalse => exact absurd h hearlier

/-- The call before which an action is due is the first one that it does not let pass. -/
lemma Interference.DueBefore.callsSince_concat {before : List StoreEvent}
    (h : i.DueBefore before event p) : i.callsSince (before ++ [event]) p = i.skip + 1 := by
  rw [RecordGateway.callsSince_concat (lt_length_of_scheduled h.scheduled), h.waited,
    if_pos (isCall_iff.mpr h.call)]

/-- An action is due at one event at most. -/
lemma Interference.DueBefore.unique {before before' : List StoreEvent} {event' : StoreEvent}
    (h : i.DueBefore before event p) (h' : i.DueBefore before' event' p)
    (hreached : before ++ [event] <+: events) (hreached' : before' ++ [event'] <+: events) :
    before = before' := by
  have hnot {before before' : List StoreEvent} {event event' : StoreEvent}
      (h : i.DueBefore before event p) (h' : i.DueBefore before' event' p)
      (hreached : before ++ [event] <+: events) (hreached' : before' ++ [event'] <+: events) :
      ¬before.length < before'.length := by
    intro hlt
    have hle := callsSince_mono (i := i) (p := p) (List.prefix_of_prefix_length_le hreached
      ((List.prefix_append _ _).trans hreached') (by simpa using Nat.succ_le_of_lt hlt))
    rw [h.callsSince_concat, h'.waited] at hle
    omega
  have hlength : before.length = before'.length :=
    Nat.le_antisymm (Nat.not_lt.mp (hnot h' h hreached' hreached))
      (Nat.not_lt.mp (hnot h h' hreached hreached'))
  exact (List.prefix_of_prefix_length_le ((List.prefix_append _ _).trans hreached)
    ((List.prefix_append _ _).trans hreached') (Nat.le_of_eq hlength)).eq_of_length
    hlength

end CallsSince

/-! ### What waits -/

/-- Whether an action that waits is due right before an event. -/
def Interference.isDueBefore (i : Interference) (before : List StoreEvent) (event : StoreEvent)
    (p : Nat) : Bool :=
  event.isCall i.before && i.callsSince before p == i.skip

section Waiting

variable {events : List StoreEvent} {event : StoreEvent} {i : Interference} {p : Nat}

/-- An action is due precisely if it has waited up to the event and this is the call for which it
waits. -/
lemma waits_and_isDueBefore_iff :
    (i.Waits events p ∧ i.isDueBefore events event p = true) ↔ i.DueBefore events event p := by
  rw [Interference.isDueBefore, Bool.and_eq_true, isCall_iff, beq_iff_eq]
  constructor
  · rintro ⟨hwaits, hcall, hwaited⟩
    exact ⟨hwaits.scheduled, hcall, hwaited⟩
  · rintro ⟨hscheduled, hcall, hwaited⟩
    exact ⟨⟨hscheduled, Nat.le_of_eq hwaited⟩, hcall, hwaited⟩

/-- The only event that schedules an action is the step that does nothing else. -/
lemma scheduled?_eq_some_iff : event.scheduled? = some i ↔ event = .step (.interleave i) := by
  unfold StoreEvent.scheduled?
  split
  · rw [Option.some.injEq, StoreEvent.step.injEq, StoreStep.interleave.injEq]
  · next hnot => exact iff_of_false (fun h => nomatch h) (hnot i)

/-- An action waits after an event if it has waited and is not due, or if the event schedules it. -/
lemma waits_concat_iff : i.Waits (events ++ [event]) p ↔
    (i.Waits events p ∧ i.isDueBefore events event p = false) ∨
      (p = events.length ∧ event.scheduled? = some i) := by
  rw [scheduled?_eq_some_iff]
  rcases Nat.lt_trichotomy p events.length with hp | rfl | hp
  · have hiff : i.Waits (events ++ [event]) p ↔
        i.Waits events p ∧ i.isDueBefore events event p = false := by
      constructor
      · rintro ⟨hscheduled, hwaiting⟩
        rw [List.getElem?_append_left hp] at hscheduled
        rw [callsSince_concat hp] at hwaiting
        refine ⟨⟨hscheduled, by omega⟩, ?_⟩
        rw [Interference.isDueBefore, Bool.and_eq_false_imp, beq_eq_false_iff_ne]
        intro hcall
        rw [if_pos hcall] at hwaiting
        omega
      · rintro ⟨⟨hscheduled, hwaiting⟩, hnot⟩
        refine ⟨by rwa [List.getElem?_append_left hp], ?_⟩
        rw [callsSince_concat hp]
        rw [Interference.isDueBefore, Bool.and_eq_false_imp, beq_eq_false_iff_ne] at hnot
        split
        case isTrue hcall => have := hnot hcall; omega
        case isFalse => exact hwaiting
    rw [hiff, or_iff_left fun h => Nat.ne_of_lt hp h.1]
  · have hnot : ¬i.Waits events events.length := fun h =>
      Nat.lt_irrefl _ (lt_length_of_scheduled h.scheduled)
    rw [or_iff_right fun h => hnot h.1, eq_self, true_and]
    constructor
    · intro h
      simpa using h.scheduled
    · rintro rfl
      exact ⟨by simp, by rw [callsSince_of_length_le (by simp)]; exact Nat.zero_le _⟩
  · refine iff_of_false (fun h => ?_) ?_
    · have := lt_length_of_scheduled h.scheduled
      simp only [List.length_append, List.length_singleton] at this
      omega
    · rintro (⟨h, -⟩ | ⟨h, -⟩)
      · have := lt_length_of_scheduled h.scheduled
        omega
      · omega

/-- For the store an action that waits is due when it is due. -/
lemma isDue_after {kind : CallKind} (h : i.Waits events p) (hcall : event.kind? = some kind) :
    (i.after (i.callsSince events p)).isDue kind = i.isDueBefore events event p := by
  have hle := h.waiting
  rw [Bool.eq_iff_iff, Interference.isDue, Interference.isDueBefore, Bool.and_eq_true,
    Bool.and_eq_true, isCall_iff, hcall, Option.some.injEq, beq_iff_eq, beq_iff_eq, beq_iff_eq]
  simp only [Interference.after]
  rw [eq_comm, Nat.sub_eq_zero_iff_le]
  exact and_congr_right fun _ => ⟨fun hge => Nat.le_antisymm hle hge, fun heq => heq.ge⟩

/-- The store's countdown of an action goes on as calls of its kind come. -/
lemma wait_after {kind : CallKind} (hp : p < events.length) (hcall : event.kind? = some kind) :
    (i.after (i.callsSince events p)).wait kind =
      i.after (i.callsSince (events ++ [event]) p) := by
  rw [callsSince_concat hp, StoreEvent.isCall, hcall]
  unfold Interference.wait Interference.after
  by_cases hkind : i.before = kind
  · simp only [hkind, beq_self_eq_true, if_true, Nat.sub_sub]
  · have hne : ¬(some kind == some i.before) = true := fun h =>
      hkind (Option.some.inj (eq_of_beq h)).symm
    rw [if_neg hkind, if_neg hne, Nat.add_zero]

/-- An event that is no call is none of any kind. -/
lemma isCall_of_kind?_eq_none {kind : CallKind} (h : event.kind? = none) :
    event.isCall kind = false := by
  rw [StoreEvent.isCall, h]
  rfl

/-- Some of the actions in a list stay in order. -/
lemma InOrder.filter {P : Interference → Nat → Prop} {actions : List (Nat × Interference)}
    (h : InOrder P actions) (q : Nat × Interference → Bool) :
    InOrder (fun i p => P i p ∧ q (p, i) = true) (actions.filter q) where
  ordered := h.ordered.filter q
  mem_iff p i := by rw [List.mem_filter, h.mem_iff]

/-- What waits after an event: the actions that have waited and are not due, and the one that the
event schedules. -/
lemma InOrder.concat {waiting : List (Nat × Interference)}
    (h : InOrder (Interference.Waits · events) waiting) (event : StoreEvent) :
    InOrder (Interference.Waits · (events ++ [event]))
      (waiting.filter (fun w => !w.2.isDueBefore events event w.1) ++
        event.scheduled?.toList.map (events.length, ·)) where
  ordered := by
    refine List.pairwise_append.mpr ⟨h.ordered.filter _, ?_, ?_⟩
    · cases event.scheduled? <;> simp
    · intro a ha b hb
      obtain ⟨-, -, rfl⟩ := List.mem_map.mp hb
      exact lt_length_of_scheduled ((h.mem_iff a.1 a.2).mp (List.mem_filter.mp ha).1).scheduled
  mem_iff p i := by
    rw [waits_concat_iff, List.mem_append, List.mem_filter, h.mem_iff, Bool.not_eq_true']
    simp only [List.mem_map, Option.mem_toList, Prod.mk.injEq,
      exists_eq_right_right]
    tauto

/-- An action is due alike after two lists of events that schedule it alike and have as many calls
of its kind since then. -/
lemma dueBefore_congr {before before' : List StoreEvent} {p' : Nat}
    (hscheduled : before[p]? = before'[p']?)
    (hwaited : i.callsSince before p = i.callsSince before' p') :
    i.DueBefore before event p ↔ i.DueBefore before' event p' := by
  constructor
  · rintro ⟨h, hcall, h'⟩
    exact ⟨hscheduled ▸ h, hcall, hwaited ▸ h'⟩
  · rintro ⟨h, hcall, h'⟩
    exact ⟨hscheduled ▸ h, hcall, hwaited ▸ h'⟩

/-- The actions that were scheduled before another one are due when they would be due without it. -/
lemma dueBefore_insert_of_lt {front mid : List StoreEvent} {j : Interference}
    (hp : p < front.length) :
    i.DueBefore (front ++ .step (.interleave j) :: mid) event p ↔
      i.DueBefore (front ++ mid) event p := by
  have hscheduled : (front ++ .step (.interleave j) :: mid)[p]? = (front ++ mid)[p]? := by
    rw [List.getElem?_append_left hp, List.getElem?_append_left hp]
  have hwaited : i.callsSince (front ++ .step (.interleave j) :: mid) p =
      i.callsSince (front ++ mid) p := by
    unfold Interference.callsSince
    rw [List.drop_append_of_le_length hp, List.drop_append_of_le_length hp, List.countP_append,
      List.countP_append, List.countP_cons_of_neg]
    exact Bool.false_ne_true
  exact dueBefore_congr hscheduled hwaited

/-- The actions that were scheduled after another one are due when they would be due without it. -/
lemma dueBefore_insert_of_le {front mid : List StoreEvent} {j : Interference}
    (hp : front.length ≤ p) :
    i.DueBefore (front ++ .step (.interleave j) :: mid) event (p + 1) ↔
      i.DueBefore (front ++ mid) event p := by
  have hscheduled : (front ++ .step (.interleave j) :: mid)[p + 1]? = (front ++ mid)[p]? := by
    rw [List.getElem?_append_right (by omega), List.getElem?_append_right hp,
      Nat.succ_sub hp, List.getElem?_cons_succ]
  have hwaited : i.callsSince (front ++ .step (.interleave j) :: mid) (p + 1) =
      i.callsSince (front ++ mid) p := by
    unfold Interference.callsSince
    rw [List.drop_append, List.drop_append, List.drop_eq_nil_of_le (by omega : _ ≤ p + 1 + 1),
      List.drop_eq_nil_of_le (by omega : front.length ≤ p + 1), Nat.succ_sub (by omega),
      List.drop_succ_cons]
  exact dueBefore_congr hscheduled hwaited

end Waiting

namespace Store

variable {s t : Store} {events : List StoreEvent} {event : StoreEvent} {step : StoreStep}
  {kind : CallKind} {i : Interference} {p : Nat}

/-- The store with the given actions scheduled in place of its own. -/
def withPending (s : Store) (pending : List Interference) : Store :=
  { s with pending }

/-- The store with nothing scheduled. -/
def unscheduled (s : Store) : Store :=
  s.withPending []

/-- What an event tells who has made it: the answer to a step, and the records that are read. -/
def response (s : Store) : StoreEvent → StepAnswer × List Entity
  | .step step => ((s.perform step).2, s.shown (.step step))
  | event => (.nothing, s.shown event)

section WithPending

variable (s : Store) (pending : List Interference)

/-- Whether writes are rejected does not depend on what is scheduled. -/
@[simp] lemma rejectWrites_withPending :
    (s.withPending pending).rejectWrites = s.rejectWrites := rfl

/-- The record that is found does not depend on what is scheduled. -/
@[simp] lemma find?_withPending (logicalName : String) (id : Uuid) :
    (s.withPending pending).find? logicalName id = s.find? logicalName id := rfl

/-- The rows that are selected do not depend on what is scheduled. -/
@[simp] lemma select_withPending (q : NativeQuery) :
    (s.withPending pending).select q = s.select q := rfl

/-- A record is added without regard to what is scheduled. -/
@[simp] lemma add_withPending (e : Entity) (id : Uuid) :
    (s.withPending pending).add e id = (s.add e id).withPending pending := rfl

/-- A record is written without regard to what is scheduled. -/
@[simp] lemma write_withPending (logicalName : String) (id : Uuid) (f : Attributes → Attributes) :
    (s.withPending pending).write logicalName id f =
      (s.write logicalName id f).withPending pending := rfl

/-- A record is erased without regard to what is scheduled. -/
@[simp] lemma erase_withPending (logicalName : String) (id : Uuid) :
    (s.withPending pending).erase logicalName id =
      (s.erase logicalName id).withPending pending := rfl

end WithPending

/-! ### The start of a call -/

/-- Another writer takes no notice of the calls and of what is scheduled. -/
lemma foldl_interfere_counts (due : List Interference) (s : Store) (counts : CallCounts)
    (pending : List Interference) :
    due.foldl interfere { s with counts, pending } =
      { due.foldl interfere s with counts, pending } := by
  induction due generalizing s with
  | nil => rfl
  | cons i due ih =>
    have hfirst : interfere { s with counts, pending } i =
        { s.interfere i with counts, pending } := by
      unfold interfere
      cases i.action <;> rfl
    rw [List.foldl_cons, hfirst, ih, List.foldl_cons]

/-- Other writers leave the calls and what is scheduled as they are. -/
lemma counts_foldl_interfere (due : List Interference) (s : Store) :
    (due.foldl interfere s).counts = s.counts ∧ (due.foldl interfere s).pending = s.pending := by
  have hkept : due.foldl interfere s =
      { due.foldl interfere s with counts := s.counts, pending := s.pending } :=
    foldl_interfere_counts due s s.counts s.pending
  exact ⟨(congrArg Store.counts hkept :), (congrArg Store.pending hkept :)⟩

/-- What the start of a call leaves: the call counted, the actions that are due taken out, and the
others with one call less to wait for. -/
lemma enter_eq (s : Store) (kind : CallKind) : s.enter kind =
    { (s.pending.filter (·.isDue kind)).foldl interfere s with
      counts := s.counts.count kind
      pending := (s.pending.filter fun i => !i.isDue kind).map (·.wait kind) } :=
  foldl_interfere_counts _ s _ _

/-- Other writers do the same if nothing is scheduled. -/
lemma foldl_interfere_unscheduled (due : List Interference) (s : Store) :
    due.foldl interfere s.unscheduled = (due.foldl interfere s).unscheduled := by
  have hkept : due.foldl interfere s.unscheduled =
      { due.foldl interfere s with counts := s.counts, pending := [] } :=
    foldl_interfere_counts due s s.counts []
  rw [hkept, ← (counts_foldl_interfere due s).1]
  rfl

/-- A call finds what it would find if the actions that are due had been taken before and nothing
were scheduled. -/
lemma unscheduled_enter (s : Store) (kind : CallKind) {due : List Interference}
    (hdue : (s.pending.filter (·.isDue kind)).map Interference.change =
      due.map Interference.change) :
    (s.enter kind).unscheduled = ((due.foldl interfere s.unscheduled).enter kind).unscheduled := by
  have hsame : (s.pending.filter (·.isDue kind)).foldl interfere s = due.foldl interfere s := by
    rw [foldl_interfere, hdue, ← foldl_interfere]
  rw [enter_eq, enter_eq, hsame, foldl_interfere_unscheduled]
  change _ = Store.unscheduled { (due.foldl interfere s).unscheduled with
    counts := (due.foldl interfere s).counts.count kind, pending := [] }
  rw [(counts_foldl_interfere due s).1]
  rfl

/-! ### Calls -/

/-- A call keeps the numbers of calls and what is scheduled as its start leaves them. -/
lemma perform_kept (s : Store) (h : step.kind? = some kind) :
    (s.perform step).1.counts = (s.enter kind).counts ∧
      (s.perform step).1.pending = (s.enter kind).pending := by
  cases step <;> cases h
  case create e fresh =>
    change (s.create e fresh).1.counts = _ ∧ (s.create e fresh).1.pending = _
    unfold create
    dsimp only
    split
    · exact ⟨rfl, rfl⟩
    · split <;> exact ⟨rfl, rfl⟩
  case retrieve => exact ⟨rfl, rfl⟩
  case retrieveMultiple => exact ⟨rfl, rfl⟩
  case update e =>
    change (s.update e).1.counts = _ ∧ (s.update e).1.pending = _
    cases hresult : s.update e with
    | mk t result =>
      cases result with
      | ok _ =>
        obtain ⟨-, id, -, -, -, -, rfl⟩ := update_eq_ok.mp hresult
        exact ⟨rfl, rfl⟩
      | error _ =>
        rw [update_eq_error hresult]
        exact ⟨rfl, rfl⟩
  case delete logicalName id =>
    change (s.delete logicalName id).1.counts = _ ∧ (s.delete logicalName id).1.pending = _
    unfold delete
    dsimp only
    split <;> exact ⟨rfl, rfl⟩

/-- A call that starts on a store with other actions scheduled does the same to it, and leaves these
as they are. -/
lemma perform_withPending (pending : List Interference) (hcall : step.kind? = some kind)
    (h : s.enter kind = (t.enter kind).withPending pending) :
    (s.perform step).1 = (t.perform step).1.withPending pending ∧
      s.response (.step step) = t.response (.step step) := by
  -- after their start calls never look at what is scheduled, so each of them unfolds alike
  cases step <;> cases hcall
  case create e fresh =>
    have hcreate : s.create e fresh =
        ((t.create e fresh).1.withPending pending, (t.create e fresh).2) := by
      unfold create
      simp only [h, rejectWrites_withPending, find?_withPending, add_withPending]
      split
      · rfl
      · split <;> rfl
    simp only [perform, response, shown, hcreate, and_self]
  case retrieve logicalName id columns =>
    have hretrieve : s.retrieve logicalName id columns =
        ((t.retrieve logicalName id columns).1.withPending pending,
          (t.retrieve logicalName id columns).2) := by
      unfold retrieve
      simp only [h, find?_withPending]
    simp only [perform, response, shown, hretrieve, and_self]
  case retrieveMultiple q =>
    have hretrieve : s.retrieveMultiple q =
        ((t.retrieveMultiple q).1.withPending pending, (t.retrieveMultiple q).2) := by
      unfold retrieveMultiple
      simp only [h, select_withPending]
    simp only [perform, response, shown, hretrieve, and_self]
  case update e =>
    have hupdate : s.update e = ((t.update e).1.withPending pending, (t.update e).2) := by
      unfold update
      simp only [h, rejectWrites_withPending, find?_withPending, write_withPending]
      split
      · rfl
      · split
        · rfl
        · split
          · rfl
          · split <;> rfl
    simp only [perform, response, shown, hupdate, and_self]
  case delete logicalName id =>
    have hdelete : s.delete logicalName id =
        ((t.delete logicalName id).1.withPending pending, (t.delete logicalName id).2) := by
      unfold delete
      simp only [h, rejectWrites_withPending, find?_withPending, erase_withPending]
      split <;> rfl
    simp only [perform, response, shown, hdelete, and_self]

/-- An event that is no call does the same whether or not something is scheduled. -/
lemma happen_of_kind?_eq_none (s : Store) (h : event.kind? = none) :
    (s.happen event).unscheduled = (s.unscheduled.happen event).unscheduled ∧
      s.response event = s.unscheduled.response event := by
  cases event with
  | step action =>
    cases action with
    | setRejectWrites reject => exact ⟨rfl, rfl⟩
    | interleave i => exact ⟨rfl, rfl⟩
    | _ => cases h
  | _ => exact ⟨rfl, rfl⟩

/-- An event that is no call leaves what is scheduled, and may schedule one more action. -/
lemma pending_happen_of_kind?_eq_none (s : Store) (h : event.kind? = none) :
    (s.happen event).pending = s.pending ++ event.scheduled?.toList := by
  cases event with
  | step action =>
    cases action with
    | setRejectWrites reject => exact (List.append_nil _).symm
    | interleave i => rfl
    | _ => cases h
  | _ => exact (List.append_nil _).symm

/-! ### The store's list -/

/-- A call takes out the actions that are due and moves the others on. -/
lemma pending_happen_of_kind? (s : Store) (h : event.kind? = some kind) :
    (s.happen event).pending =
      (s.pending.filter fun i => !i.isDue kind).map (·.wait kind) := by
  cases event with
  | step action =>
    rw [happen, (perform_kept s h).2, enter_eq]
  | _ => cases h

/-- A run goes on with a further event from where the events before have left it. -/
lemma run_concat (s : Store) (events : List StoreEvent) (event : StoreEvent) :
    s.run (events ++ [event]) = (s.run events).happen event :=
  List.foldl_concat ..

/-- The store keeps the actions that wait, each with what is left of its number. -/
lemma exists_waiting (s : Store) (events : List StoreEvent) :
    ∃ waiting, InOrder (Interference.Waits · events) waiting ∧
      (s.unscheduled.run events).pending =
        waiting.map fun w => w.2.after (w.2.callsSince events w.1) := by
  induction events using List.reverseRecOn with
  | nil =>
    refine ⟨[], ⟨List.Pairwise.nil, fun p i => ?_⟩, rfl⟩
    exact iff_of_false List.not_mem_nil fun h => nomatch h.scheduled
  | append_singleton events event ih =>
    obtain ⟨waiting, hwaiting, hpending⟩ := ih
    refine ⟨_, hwaiting.concat event, ?_⟩
    have hwaits : ∀ w ∈ waiting, w.2.Waits events w.1 := fun w => (hwaiting.mem_iff w.1 w.2).mp
    rw [run_concat, List.map_append]
    cases hkind : event.kind? with
    | some kind =>
      -- a call takes out what is due, counts down the rest and schedules nothing
      have hnothing : event.scheduled? = none := by
        cases hscheduled : event.scheduled? with
        | none => rfl
        | some i =>
          rw [scheduled?_eq_some_iff.mp hscheduled] at hkind
          cases hkind
      rw [pending_happen_of_kind? _ hkind, hpending, hnothing, List.filter_map, List.map_map]
      have hfilter : waiting.filter
          ((fun i => !i.isDue kind) ∘ fun w => w.2.after (w.2.callsSince events w.1)) =
            waiting.filter fun w => !w.2.isDueBefore events event w.1 :=
        List.filter_congr fun w hw => congrArg not (isDue_after (hwaits w hw) hkind)
      rw [hfilter, Option.toList_none, List.map_nil, List.map_nil, List.append_nil]
      refine List.map_congr_left fun w hw => wait_after ?_ hkind
      exact lt_length_of_scheduled (hwaits w (List.mem_filter.mp hw).1).scheduled
    | none =>
      -- nothing is due or counted down, and one action may be scheduled behind the others
      have hfilter : waiting.filter (fun w => !w.2.isDueBefore events event w.1) = waiting := by
        refine List.filter_eq_self.mpr fun w _ => ?_
        rw [Interference.isDueBefore, isCall_of_kind?_eq_none hkind]
        rfl
      rw [pending_happen_of_kind?_eq_none _ hkind, hpending, hfilter, List.map_map]
      congr 1
      · refine List.map_congr_left fun w hw => ?_
        rw [callsSince_concat (lt_length_of_scheduled (hwaits w hw).scheduled),
          isCall_of_kind?_eq_none hkind, if_neg Bool.false_ne_true, Nat.add_zero]
      · refine (List.map_id'' (fun i => ?_) _).symm
        change i.after (i.callsSince (events ++ [event]) events.length) = i
        rw [callsSince_of_length_le (by simp)]
        rfl

/-! ### The counters -/

/-- The counters count the calls of a run. -/
lemma counts_run (s : Store) (events : List StoreEvent) :
    (s.run events).counts =
      (events.filterMap StoreEvent.kind?).foldl CallCounts.count s.counts := by
  induction events using List.reverseRecOn with
  | nil => rfl
  | append_singleton events event ih =>
    rw [run_concat, List.filterMap_append, List.foldl_append, ← ih]
    cases hkind : event.kind? with
    | some kind =>
      rw [List.filterMap_cons_some hkind]
      cases event with
      | step action =>
        rw [happen, (perform_kept _ hkind).1, enter_eq]
        rfl
      | _ => cases hkind
    | none =>
      rw [List.filterMap_cons_none hkind]
      cases event with
      | step action =>
        cases action with
        | setRejectWrites reject => rfl
        | interleave i => rfl
        | _ => cases hkind
      | _ => rfl

/-- A scheduled action is not counted. -/
lemma counts_run_insert (s : Store) (front back : List StoreEvent) (i : Interference) :
    (s.run (front ++ .step (.interleave i) :: back)).counts = (s.run (front ++ back)).counts := by
  rw [counts_run, counts_run, List.filterMap_append, List.filterMap_append,
    List.filterMap_cons_none rfl]

/-! ### When actions are taken -/

/-- Before an event the actions are taken that are due, in the order in which they were scheduled,
and then the event has the effect that it has when nothing is scheduled. -/
lemma exists_due_happen (s : Store) (before : List StoreEvent) (event : StoreEvent) :
    ∃ due, InOrder (fun i p => i.DueBefore before event p) due ∧
      ((s.unscheduled.run before).happen event).unscheduled =
        (((due.map Prod.snd).foldl interfere
          (s.unscheduled.run before).unscheduled).happen event).unscheduled ∧
      (s.unscheduled.run before).response event =
        ((due.map Prod.snd).foldl interfere (s.unscheduled.run before).unscheduled).response
          event := by
  obtain ⟨waiting, hwaiting, hpending⟩ := exists_waiting s before
  have hdue := hwaiting.filter fun w => w.2.isDueBefore before event w.1
  simp only [waits_and_isDueBefore_iff] at hdue
  refine ⟨_, hdue, ?_⟩
  cases hkind : event.kind? with
  | none =>
    have hnothing : waiting.filter (fun w => w.2.isDueBefore before event w.1) = [] := by
      refine List.filter_eq_nil_iff.mpr fun w _ => ?_
      rw [Interference.isDueBefore, isCall_of_kind?_eq_none hkind]
      exact Bool.false_ne_true
    rw [hnothing]
    exact happen_of_kind?_eq_none _ hkind
  | some kind =>
    have hchanges : (((s.unscheduled.run before).pending.filter (·.isDue kind)).map
        Interference.change) = ((waiting.filter fun w => w.2.isDueBefore before event w.1).map
          Prod.snd).map Interference.change := by
      rw [hpending, List.filter_map, List.map_map, List.map_map]
      have hfilter : waiting.filter
          ((·.isDue kind) ∘ fun w => w.2.after (w.2.callsSince before w.1)) =
            waiting.filter fun w => w.2.isDueBefore before event w.1 :=
        List.filter_congr fun w hw => isDue_after ((hwaiting.mem_iff w.1 w.2).mp hw) hkind
      rw [hfilter]
      rfl
    have hstart := unscheduled_enter (s.unscheduled.run before) kind hchanges
    cases event with
    | step action =>
      obtain ⟨hafter, hresponse⟩ := perform_withPending _ hkind
        (congrArg (·.withPending ((s.unscheduled.run before).enter kind).pending) hstart)
      exact ⟨(congrArg unscheduled hafter :), hresponse⟩
    | _ => cases hkind

/-- What is promised for the actions of other writers that are scheduled in a run. -/
structure FiresOnTime (s : Store) (events : List StoreEvent) : Prop where
  /-- Right before the effect of an event the actions are taken that are due then, in the order in
  which they were scheduled, and no others: the event does and answers what it does and answers in a
  store in which nothing is scheduled and these have just been taken. -/
  taken : ∀ before event, before ++ [event] <+: events →
    ∃ due, InOrder (fun i p => i.DueBefore before event p) due ∧
      (s.run (before ++ [event])).unscheduled =
        (((due.map Prod.snd).foldl interfere (s.run before).unscheduled).happen
          event).unscheduled ∧
      (s.run before).response event =
        ((due.map Prod.snd).foldl interfere (s.run before).unscheduled).response event
  /-- An action that is scheduled is due at some event if after it there are more calls of its kind
  than it lets pass, and only then. -/
  due_iff : ∀ (i : Interference) (p : Nat), events[p]? = some (.step (.interleave i)) →
    ((∃ before event, before ++ [event] <+: events ∧ i.DueBefore before event p) ↔
      i.skip < i.callsSince events p)
  /-- It is due at one event only. -/
  once : ∀ (i : Interference) p before event before' event',
    before ++ [event] <+: events → before' ++ [event'] <+: events →
    i.DueBefore before event p → i.DueBefore before' event' p → before = before'
  /-- The scheduling of an action changes no counter. -/
  counts : ∀ front i back, events = front ++ .step (.interleave i) :: back →
    (s.run events).counts = (s.run (front ++ back)).counts
  /-- Nor does it change when an action is due that is scheduled before. -/
  earlier : ∀ front i back, events = front ++ .step (.interleave i) :: back →
    ∀ mid event, mid ++ [event] <+: back → ∀ (j : Interference) p, p < front.length →
      (j.DueBefore (front ++ .step (.interleave i) :: mid) event p ↔
        j.DueBefore (front ++ mid) event p)
  /-- Nor does it change when an action is due that is scheduled after it. -/
  later : ∀ front i back, events = front ++ .step (.interleave i) :: back →
    ∀ mid event, mid ++ [event] <+: back → ∀ (j : Interference) p, front.length ≤ p →
      (j.DueBefore (front ++ .step (.interleave i) :: mid) event (p + 1) ↔
        j.DueBefore (front ++ mid) event p)

/-- **Scheduled actions are taken once and on time.** In every run on a store in which nothing is
scheduled at first, an action of another writer that is scheduled on the way is taken right before
the effect of the call of its kind that comes after as many as it lets pass, whatever that call is
answered, and at no other event. -/
theorem firesOnTime_run (s : Store) (events : List StoreEvent) :
    FiresOnTime s.unscheduled events where
  taken before event _ := by
    obtain ⟨due, hdue, hafter, hresponse⟩ := exists_due_happen s before event
    exact ⟨due, hdue, by rw [run_concat, hafter], hresponse⟩
  due_iff i p hscheduled := by
    constructor
    · rintro ⟨before, event, hreached, hdue⟩
      have hle := callsSince_mono (i := i) (p := p) hreached
      rw [hdue.callsSince_concat] at hle
      exact hle
    · intro hlt
      obtain ⟨before, event, hreached, hcall, hwaited, hp⟩ := exists_due hlt
      refine ⟨before, event, hreached, ?_, hcall, hwaited⟩
      rw [← hscheduled]
      obtain ⟨rest, rfl⟩ := (List.prefix_append _ _).trans hreached
      exact (List.getElem?_append_left hp).symm
  once i p before event before' event' hreached hreached' hdue hdue' :=
    hdue.unique hdue' hreached hreached'
  counts front i back hevents := by rw [hevents, counts_run_insert]
  earlier front i back _ mid event _ j p hp := dueBefore_insert_of_lt hp
  later front i back _ mid event _ j p hp := dueBefore_insert_of_le hp

example : (empty.run [.step (.interleave ⟨.retrieve, 1, "account", .nil, .delete⟩),
    .step (.create (.named "account") .nil), .step (.retrieve "account" .nil .all),
    .step (.delete "account" .nil), .step (.create (.named "account") .nil),
    .step (.retrieve "account" .nil .all)]).records = [] := by
  decide +kernel

end Store

end RecordGateway
