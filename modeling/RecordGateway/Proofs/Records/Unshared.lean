import RecordGateway.Proofs.Records.Undisturbed

/-!
# Operations with the records to themselves

What an operation that succeeds has done to the records, as long as no other writer has acted while
it ran.  Nothing else is asked: faults may be scheduled, other writers may be about to act before
later calls, and a session may be open or not.  While `Operation.Yields` says when operations
succeed, `Operation.Ensures` asks what follows if they do.
-/

namespace RecordGateway

namespace Store

/-- A write does not depend on the rest of the store. -/
lemma bare_write (s : Store) (logicalName : String) (id : Uuid) (f : Attributes → Attributes) :
    (s.write logicalName id f).bare = s.bare.write logicalName id f :=
  bare_apply s (.write logicalName id f)

end Store

namespace Turn

variable {S : Type} {x : Turn S}

/-- Unless another writer acts before a request, it finds the records as they are. -/
lemma bare_found_of_due (h : x.due = []) : x.found.bare = x.backend.store.bare := by
  rw [bare_found, h, List.foldl_nil]

/-- A turn before which nothing is due finds the records that the store has held. -/
lemma find?_found_of_due (h : x.due = []) (logicalName : String) (id : Uuid) :
    x.found.find? logicalName id = x.backend.store.bare.find? logicalName id := by
  rw [← bare_found_of_due h, Store.bare_find?]

end Turn

namespace Operation

variable {S α β ε : Type} [TokenSource S] {scope scope' : RequestScope} {b b' : Backend S}

/-- While both parts of a sequence run, the actions are taken that are taken while each of them
runs. -/
lemma fired_bind_of_ok {x : Operation α} {f : α → Operation β} {a : α}
    (h : x.outcome scope b = (b', .ok a, scope')) :
    (x >>= f).fired scope b = x.fired scope b ++ (f a).fired scope' b' := by
  have hrun : (x.inScope scope).run Backend.answer b = (b', .ok a, scope') := h
  unfold fired Script.fired
  rw [inScope_bind, Script.turns_bind, hrun, List.flatMap_append]

/-- While an operation that is caught runs, the actions are taken that are taken while the operation
runs, and then those that are taken while the handler does. -/
lemma fired_tryCatch (x : Operation α) (handle : RecordError → Operation α) :
    (tryCatch x handle).fired scope b = x.fired scope b ++
      match x.outcome scope b with
      | (_, .ok _, _) => []
      | (b', .error e, scope') => (handle e).fired scope' b' := by
  unfold fired Script.fired outcome
  rw [inScope_tryCatch, Script.turns_bind, List.flatMap_append]
  rcases (x.inScope scope).run Backend.answer b with ⟨b', result, scope'⟩
  cases result <;> rfl

/-- While an operation runs that is a script, the actions are taken that are taken while the script
runs. -/
lemma fired_ofScript (f : ε → RecordError) (x : Script (Except ε α)) :
    (ofScript f x).fired scope b = x.fired b := by
  have hlift : (liftM x : Operation (Except ε α)).fired scope b = x.fired b := by
    unfold fired Script.fired
    rw [inScope_lift, Script.turns_bind]
    exact congrArg (List.flatMap Turn.due) (List.append_nil _)
  have hresult (y : Except ε α) : (ofExcept f y).fired scope (x.run Backend.answer b).1 = [] := by
    cases y <;> rfl
  unfold ofScript
  rw [fired_bind_of_ok (outcome_lift x), hlift, hresult, List.append_nil]

/-! ### Steps -/

/-- Whether an operation that finds some records ensures `post` of its result and of the records
that it leaves, provided that it succeeds and that no other writer acts while it runs. -/
def Ensures (S : Type) [TokenSource S] (x : Operation α) (s : Store) (post : α → Store → Prop) :
    Prop :=
  ∀ (scope : RequestScope) (b : Backend S), b.store.bare = s → x.fired scope b = [] →
    ∀ b' a scope', x.outcome scope b = (b', .ok a, scope') → post a b'.store.bare

section Steps

variable {s : Store} {post post' : α → Store → Prop}

/-- What an operation ensures may be weakened. -/
lemma Ensures.imp {x : Operation α} (h : x.Ensures S s post)
    (hpost : ∀ a s', post a s' → post' a s') : x.Ensures S s post' :=
  fun scope b hs hfired b' a scope' houtcome =>
    hpost a _ (h scope b hs hfired b' a scope' houtcome)

/-- Returning a value leaves the store as it is. -/
lemma ensures_pure {a : α} (h : post a s) : (pure a : Operation α).Ensures S s post := by
  rintro scope b rfl - b' a' scope' houtcome
  cases houtcome
  exact h

/-- An operation that fails ensures nothing. -/
lemma ensures_throw (e : RecordError) : (throw e : Operation α).Ensures S s post := by
  intro scope b _ _ b' a scope' houtcome
  cases houtcome

/-- A result that is at hand leaves the store as it is. -/
lemma ensures_ofExcept {f : ε → RecordError} {x : Except ε α} (h : ∀ a, x = .ok a → post a s) :
    (ofExcept f x).Ensures S s post := by
  cases x with
  | ok a => exact ensures_pure (h a rfl)
  | error e => exact ensures_throw (f e)

/-- A sequence of operations: the second one finds what the first one leaves. -/
lemma ensures_bind {x : Operation β} {f : β → Operation α} (mid : β → Store → Prop)
    (hx : x.Ensures S s mid) (hf : ∀ c s', mid c s' → (f c).Ensures S s' post) :
    (x >>= f).Ensures S s post := by
  intro scope b hs hfired b'' a scope'' houtcome
  obtain ⟨b', c, scope', hfirst, hsecond⟩ := outcome_bind_eq_ok.mp houtcome
  rw [fired_bind_of_ok hfirst] at hfired
  obtain ⟨hfirst', hsecond'⟩ := List.append_eq_nil_iff.mp hfired
  have hmid := hx scope b hs hfirst' b' c scope' hfirst
  exact hf c _ hmid scope' b' rfl hsecond' b'' a scope'' hsecond

/-- A function of the result of an operation. -/
lemma ensures_map {x : Operation β} {f : β → α} (hx : x.Ensures S s fun c s' => post (f c) s') :
    (f <$> x).Ensures S s post := by
  rw [← bind_pure_comp]
  exact ensures_bind _ hx fun c s' h => ensures_pure h

/-- An operation that is caught: nothing is known about the records that a handler finds. -/
lemma ensures_tryCatch {x : Operation α} {handle : RecordError → Operation α}
    (hx : x.Ensures S s post) (hhandle : ∀ e s', (handle e).Ensures S s' post) :
    (tryCatch x handle).Ensures S s post := by
  intro scope b hs hfired b'' a scope'' houtcome
  rw [fired_tryCatch] at hfired
  rw [outcome_tryCatch] at houtcome
  obtain ⟨hfirst, hsecond⟩ := List.append_eq_nil_iff.mp hfired
  rcases hoc : x.outcome scope b with ⟨b', result, scope'⟩
  rw [hoc] at houtcome hsecond
  cases result with
  | ok c => exact hx scope b hs hfirst b'' a scope'' (hoc.trans houtcome)
  | error e => exact hhandle e _ scope' b' rfl hsecond b'' a scope'' houtcome

/-- A call of a script. -/
lemma ensures_ofScript {f : ε → RecordError} {x : Script (Except ε α)}
    (h : ∀ b : Backend S, b.store.bare = s → x.fired b = [] →
      ∀ a, (x.run Backend.answer b).2 = .ok a → post a (x.run Backend.answer b).1.store.bare) :
    (ofScript f x).Ensures S s post := by
  intro scope b hs hfired b' a scope' houtcome
  rw [fired_ofScript] at hfired
  rw [outcome_ofScript] at houtcome
  obtain ⟨rfl, hanswer, -⟩ := Prod.mk.inj houtcome |>.imp_right Prod.mk.inj
  exact h b hs hfired a (mapError_eq_ok.mp hanswer)

/-- An operation that only looks leaves the records as they are. -/
lemma ensures_of_asks {x : Operation α} (h : x.Asks fun r => r.looks = true) :
    x.Ensures S s fun _ s' => s' = s := by
  rintro scope b rfl hfired b' a scope' houtcome
  have hnone : ∀ reply ∈ ([] : List Reply), reply.changes = false := List.forall_mem_nil _
  have hquiet : ∀ reply ∈ [] ++ (x.inScope scope).replies b, reply.changes = false :=
    (h.forall_mem (fun _ => Reply.changes_of_looks) hnone scope).run b
  have hsame := Store.bare_eq_iff.mpr (records_outcome_of_changes hquiet)
  rw [houtcome, hfired] at hsame
  exact hsame

end Steps

end Operation

namespace Session

variable {S : Type} [TokenSource S] {s : Store}

/-- A record that is read is the one that the store has. -/
lemma ensures_retrieve (logicalName : String) (id : Uuid) (columns : ColumnSet) :
    (retrieve logicalName id columns).Ensures S s fun found s' => s' = s ∧
      ∀ e, found = some e → ∃ r, s.find? logicalName id = some r ∧ e = r.toEntity columns := by
  refine Operation.ensures_ofScript fun b hs hfired found hanswer => ?_
  obtain rfl := hs
  have hdue : (Turn.mk 0 b (.retrieve logicalName id columns)).due = [] :=
    (List.append_nil _).symm.trans hfired
  refine ⟨(Turn.quiet_iff.mp (Turn.quiet_of_looks rfl)).trans (Turn.bare_found_of_due hdue), ?_⟩
  rintro e rfl
  obtain ⟨r, hr, he⟩ := Turn.find?_of_retrieved (x := ⟨0, b, .retrieve logicalName id columns⟩)
    (congrArg (Reply.mk (.retrieve logicalName id columns)) hanswer)
  exact ⟨r, (Turn.find?_found_of_due hdue logicalName id).symm.trans hr, he⟩

/-- A record that is updated had the version that was expected, and is written. -/
lemma ensures_update (e : Entity) :
    (update e).Ensures S s fun _ s' => ∃ id r, e.id = some id ∧
      s.find? e.logicalName id = some r ∧
      (∀ v, e.rowVersion = some v → v = versionToken r.version) ∧
      s' = s.write e.logicalName id (Store.merged e) := by
  refine Operation.ensures_ofScript fun b hs hfired _ hanswer => ?_
  obtain rfl := hs
  have hdue : (Turn.mk 0 b (.update e)).due = [] := (List.append_nil _).symm.trans hfired
  have hupdated : (Turn.mk 0 b (.update e)).updated? = some e :=
    Reply.updated?_eq_some.mpr (congrArg (Reply.mk (.update e)) hanswer)
  obtain ⟨id, r, hid, hr, hversion, hleft⟩ := Turn.left_of_updated? hupdated
  refine ⟨id, r, hid, (Turn.find?_found_of_due hdue e.logicalName id).symm.trans hr, hversion, ?_⟩
  refine (congrArg Store.bare hleft).trans ((Store.bare_write _ _ _ _).trans ?_)
  rw [Turn.bare_found_of_due hdue]

end Session

/-! ### Operations of a manager -/

namespace Manager

variable {D P S : Type} [TokenSource S] {m : Manager D} {s : Store}

/-- To connect leaves the store as it is. -/
lemma ensures_connect : m.connect.Ensures S s fun _ s' => s' = s :=
  Operation.ensures_of_asks (asks_connect fun _ => Request.looks_of_opensSession)

/-- A data object that is read is the one of a record. -/
lemma ensures_fetch (id : Uuid) :
    (m.fetch id).Ensures S s fun found s' => s' = s ∧
      ∀ d, found = some d → m.reading s id = .ok (some d) := by
  refine Operation.ensures_bind _ (Session.ensures_retrieve m.logicalName id .all) ?_
  rintro found _ ⟨rfl, hfound⟩
  cases found with
  | none => exact Operation.ensures_pure ⟨rfl, by simp⟩
  | some e =>
    obtain ⟨r, hr, rfl⟩ := hfound e rfl
    refine Operation.ensures_map (Operation.ensures_ofExcept fun d hd => ⟨rfl, ?_⟩)
    intro d' hd'
    cases hd'
    exact reading_eq_some.mpr ⟨r, hr, dataOf_eq_ok.mp hd⟩

/-- A data object that is looked up is the one of the record that is named. -/
lemma ensures_lookup (idText : String) :
    (m.lookup idText).Ensures S s fun found s' => s' = s ∧ ∀ d, found = some d →
      ∃ id, idOfText? idText = some id ∧ m.reading s id = .ok (some d) := by
  unfold lookup
  cases hid : idOfText? idText with
  | none => exact Operation.ensures_pure ⟨rfl, by simp⟩
  | some id =>
    refine Operation.ensures_bind _ ensures_connect ?_
    rintro _ _ rfl
    refine (ensures_fetch id).imp fun found s' hfound => ?_
    exact ⟨hfound.1, fun d hd => ⟨id, rfl, hfound.2 d hd⟩⟩

variable [DataObject D P]

/-- A replacement that succeeds has written the entity of its data object over the record that is
named. -/
lemma ensures_replace (idText : String) (data : D) :
    (m.replace idText data).Ensures S s fun _ s' => ∃ id r version entity,
      m.replacement idText data = .ok (id, version, entity) ∧
      s.find? m.logicalName id = some r ∧ s' = s.write m.logicalName id (Store.merged entity) := by
  refine Operation.ensures_bind (fun c s' => s' = s ∧ m.replacement idText data = .ok c)
    (Operation.ensures_ofExcept fun c hc => ⟨rfl, hc⟩) ?_
  rintro ⟨id, version, entity⟩ _ ⟨rfl, hreplacement⟩
  obtain ⟨-, -, hname, hid, -⟩ := replacement_eq_ok hreplacement
  refine Operation.ensures_bind _ ensures_connect ?_
  rintro _ _ rfl
  refine Operation.ensures_bind _ (Session.ensures_retrieve m.logicalName id (.only [])) ?_
  rintro found _ ⟨rfl, -⟩
  cases found with
  | none => exact Operation.ensures_throw _
  | some current =>
    dsimp only
    split
    · exact Operation.ensures_throw _
    · refine Operation.ensures_bind _ (Session.ensures_update entity) ?_
      rintro _ _ ⟨id', r, hid', hr, -, rfl⟩
      obtain rfl : id = id' := Option.some.inj (hid.symm.trans hid')
      rw [hname] at hr ⊢
      refine Operation.ensures_bind _ (ensures_fetch id) ?_
      rintro updated _ ⟨rfl, -⟩
      cases updated with
      | none => exact Operation.ensures_throw _
      | some d => exact Operation.ensures_pure ⟨id, r, version, entity, hreplacement, hr, rfl⟩

/-- A partial update that returns a record has read the record that is named, and has written the
entity of what it makes of the data object over it. -/
theorem ensures_patch (idText : String) (update : P) :
    (m.patch idText update).Ensures S s fun found s' => ∀ d, found = some d →
      ∃ id current r version entity, m.reading s id = .ok (some current) ∧
        m.replacement idText (DataObject.applyPatch current update) =
          .ok (id, version, entity) ∧
        s.find? m.logicalName id = some r ∧
        s' = s.write m.logicalName id (Store.merged entity) := by
  refine Operation.ensures_bind _ (ensures_lookup idText) ?_
  rintro found _ ⟨rfl, hfound⟩
  cases found with
  | none => exact Operation.ensures_pure (by simp)
  | some current =>
    obtain ⟨id, hid, hread⟩ := hfound current rfl
    refine Operation.ensures_tryCatch (Operation.ensures_map ?_) fun e s' => ?_
    · refine (ensures_replace idText _).imp ?_
      rintro _ s' ⟨id', r, version, entity, hreplacement, hr, hleft⟩ _ _
      obtain ⟨hid', -⟩ := replacement_eq_ok hreplacement
      obtain rfl : id = id' := Option.some.inj (hid.symm.trans hid')
      exact ⟨id, current, r, version, entity, hread, hreplacement, hr, hleft⟩
    · cases e with
      | notFound name text => exact Operation.ensures_pure (by simp)
      | _ => exact Operation.ensures_throw _

end Manager

end RecordGateway
