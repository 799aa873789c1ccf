import RecordGateway.Credential.Counted
import RecordGateway.Proofs.Sharing.System

/-!
# Partial updates under concurrent writes

A partial update reads a record whole, changes the data object that it gets, and replaces the
record by it.  The token that the replacement checks is the one that the changed object carries,
and nothing compares it with the version that was read.  As long as it is the token that was read,
a write that comes in between is noticed.  An update that brings the token of a version that is
given out only in between passes both comparisons, and writes over what it has not seen.
-/

namespace RecordGateway

/-- Whether a partial update carries the token of a version that a record has got only after it was
read: `seen` is the store when the record is read whole, and `found` when it is updated. -/
def CarriesLaterToken {D P : Type} [DataObject D P] (m : Manager D) (update : P) (id : Uuid)
    (seen found : Store) : Prop :=
  ∃ r d r', seen.find? m.logicalName id = some r ∧ m.dataOf (r.toEntity .all) = .ok d ∧
    found.find? m.logicalName id = some r' ∧ seen.lastVersion < r'.version ∧
    DataObject.version (DataObject.applyPatch d update) = some (versionToken r'.version)

/-- An update that keeps the token of what it changes carries no later one. -/
theorem not_carriesLaterToken {D P : Type} [DataObject D P] {m : Manager D} {update : P} {id : Uuid}
    {seen found : Store} (hseen : seen.Versioned)
    (hkept : ∀ entity d, m.dataOf entity = .ok d →
      DataObject.version (DataObject.applyPatch d update) = entity.rowVersion) :
    ¬CarriesLaterToken m update id seen found := by
  rintro ⟨r, d, r', hr, hd, -, hlater, htoken⟩
  have hsame : versionToken r.version = versionToken r'.version :=
    Option.some.inj ((hkept _ d hd).symm.trans htoken)
  have hle := hseen.bounded r (List.mem_of_find?_eq_some hr)
  rw [versionToken_injective hsame] at hle
  exact absurd hlater (Nat.not_lt.mpr hle)

/-- A partial update of a company without a token carries no later one. -/
theorem Account.not_carriesLaterToken {m : Manager Account} {p : Account.Patch} {id : Uuid}
    {seen found : Store} (hm : m.mapper = mapper) (hp : p.version = none)
    (hseen : seen.Versioned) : ¬CarriesLaterToken m p id seen found := by
  refine RecordGateway.not_carriesLaterToken hseen fun entity d hd => ?_
  have hdata := Manager.dataOf_eq_ok.mp hd
  have hversion : d.version = entity.rowVersion := by
    rw [hm] at hdata
    simp only [mapper, ofEntity] at hdata
    split at hdata
    · cases hdata
    · cases hdata
    · cases hdata
      rfl
  simpa [DataObject.version, DataObject.applyPatch, applyPatch, hp] using hversion

/-- A partial update of a person without a token carries no later one. -/
theorem Contact.not_carriesLaterToken {m : Manager Contact} {p : Contact.Patch} {id : Uuid}
    {seen found : Store} (hm : m.mapper = mapper) (hp : p.version = none)
    (hseen : seen.Versioned) : ¬CarriesLaterToken m p id seen found := by
  refine RecordGateway.not_carriesLaterToken hseen fun entity d hd => ?_
  have hdata := Manager.dataOf_eq_ok.mp hd
  rw [hm] at hdata
  obtain rfl : ofEntity entity = d := Except.ok.inj hdata
  simp [DataObject.version, DataObject.applyPatch, applyPatch, ofEntity, hp]

/-- In a history in which one request has read a record whole, every other reply is to a request
that has not. -/
lemma mem_fetched {opened history : List Reply} {fetch reply : Reply}
    (hopen : Extends Request.opensSession [] opened)
    (hprobe : Extends Request.probes (opened ++ [fetch]) history) (h : reply ∈ history) :
    reply = fetch ∨ reply.request.probes = true := by
  obtain ⟨opening, rfl, hopening⟩ := hopen
  obtain ⟨probing, rfl, hprobing⟩ := hprobe
  rcases List.mem_append.mp h with h | h
  · rcases List.mem_append.mp h with h | h
    · exact .inr (Request.probes_of_opensSession (hopening reply h))
    · exact .inl (List.mem_singleton.mp h)
  · exact .inr (hprobing reply h)

namespace System

variable {S : Type} [TokenSource S] {tokens : S} {actions : List Action} {k : Nat} {c : Client}
  {idText : String} {update : c.job.P} {id : Uuid} {e : Entity} {before after : List (Turn S)}
  {x y : Turn S}

/-! ### The update of a partial update -/

section Update

variable (hc : (run tokens actions).clients[k]? = some c)
  (hcall : c.job.call = .patch idText update)
  (hlog : (run tokens actions).log = before ++ y :: after) (hyk : y.client = k)
  (hupdate : y.request = .update e)

include hc hcall hlog hyk hupdate

/-- What a partial update has done when it asks for its update: it has read the record whole once,
and the update is the one of the data object that it has made of that. -/
lemma fetched_of_patch :
    ∃ id entity d version, idOfText? idText = some id ∧ c.job.manager.dataOf entity = .ok d ∧
      c.job.manager.replacement idText (DataObject.applyPatch d update) = .ok (id, version, e) ∧
      ∀ z ∈ before, z.client = k →
        z.reply = ⟨.retrieve c.job.manager.logicalName id .all, .ok (some entity)⟩ ∨
          z.request.probes = true := by
  obtain ⟨c', hc', hallows⟩ := (keeps_perform_run tokens actions).asked before y after hlog
  obtain rfl : c = c' := Option.some.inj (hc.symm.trans (hyk ▸ hc'))
  rw [hcall, hupdate] at hallows
  obtain hlooks | ⟨opened, id, entity, d, version, _, ⟨⟩, hid, hdata, hreplacement, hopen,
    hprobe⟩ := hallows
  · cases hlooks
  · refine ⟨id, entity, d, version, hid, hdata, hreplacement, fun z hz hzk => ?_⟩
    exact mem_fetched hopen hprobe (mem_repliesTo.mpr ⟨z, hz, hzk.trans hyk.symm, rfl⟩)

/-- Before its update a partial update has asked for no other one. -/
lemma ne_update_of_patch {z : Turn S} (hz : z ∈ before) (hzk : z.client = k) (e' : Entity) :
    z.request ≠ .update e' := by
  obtain ⟨id, entity, d, version, -, -, -, hfetched⟩ :=
    fetched_of_patch hc hcall hlog hyk hupdate
  intro hrequest
  rcases hfetched z hz hzk with hreply | hprobes
  · exact absurd (hrequest.symm.trans (congrArg Reply.request hreply)) nofun
  · rw [hrequest] at hprobes
    cases hprobes

end Update

/-- A partial update takes effect when its update is applied, for it asks for no other one. -/
lemma takesEffect_iff_of_patch (hc : (run tokens actions).clients[k]? = some c)
    (hcall : c.job.call = .patch idText update)
    (hlog : (run tokens actions).log = before ++ y :: after) (hyk : y.client = k)
    (hupdate : y.request = .update e) :
    (run tokens actions).TakesEffect k ↔ y.updated? = some e := by
  constructor
  · rintro ⟨z, hz, hzk, e', hupdated⟩
    have hrequest := Turn.request_of_updated? hupdated
    rw [hlog] at hz
    rcases List.mem_append.mp hz with hz | hz
    · exact absurd hrequest (ne_update_of_patch hc hcall hlog hyk hupdate hz hzk e')
    · rcases List.mem_cons.mp hz with rfl | hz
      · obtain rfl : e = e' := Request.update.inj (hupdate.symm.trans hrequest)
        exact hupdated
      · obtain ⟨between, after', rfl⟩ := List.append_of_mem hz
        have hlog' : (run tokens actions).log = (before ++ y :: between) ++ z :: after' := by
          rw [hlog, List.append_assoc, List.cons_append]
        exact absurd hupdate
          (ne_update_of_patch hc hcall hlog' hzk hrequest (by simp) hyk e)
  · exact fun h => ⟨y, hlog ▸ by simp, hyk, e, h⟩

/-- When the update of a partial update is applied to a record that has been written since it was
read. -/
lemma updated?_iff_of_patch (hc : (run tokens actions).clients[k]? = some c)
    (hcall : c.job.call = .patch idText update)
    (hlog : (run tokens actions).log = before ++ y :: after) (hyk : y.client = k)
    (hupdate : y.request = .update e) (hx : x ∈ before) (hxk : x.client = k)
    (hfetch : x.request = .retrieve c.job.manager.logicalName id .all)
    (hwritten : y.found.find? c.job.manager.logicalName id ≠
      x.found.find? c.job.manager.logicalName id) :
    y.updated? = some e ↔ y.backend.reaches (.call .update) = true ∧
      y.found.rejectWrites = false ∧
      CarriesLaterToken c.job.manager update id x.found y.found := by
  obtain ⟨id', entity, d, version, hid, hdata, hreplacement, hfetched⟩ :=
    fetched_of_patch hc hcall hlog hyk hupdate
  -- the one request that has read a record whole is `x`
  have hreply : x.reply = ⟨.retrieve c.job.manager.logicalName id' .all, .ok (some entity)⟩ := by
    refine (hfetched x hx hxk).resolve_right fun hprobes => ?_
    rw [hfetch] at hprobes
    cases hprobes
  obtain rfl : id = id' :=
    (Request.retrieve.inj (hfetch.symm.trans (congrArg Reply.request hreply))).2.1
  obtain ⟨r, hr, rfl⟩ := Turn.find?_of_retrieved hreply
  obtain ⟨-, hversion, hname, hentity, hrow⟩ := Manager.replacement_eq_ok hreplacement
  -- a record with an old version would be the one that has been read
  have hdevelops : x.found.Develops y.found := by
    have hordered := ordered_run tokens actions
    have hbetween := hordered.between
    rw [hlog] at hbetween
    exact (x.develops_left.trans ((List.pairwise_append.mp hbetween).2.2 x hx y (by simp))).trans
      y.develops_found
  have hlater (r' : StoredRecord) (hr' : y.found.find? c.job.manager.logicalName id = some r') :
      x.found.lastVersion < r'.version := by
    by_contra hle
    have hseen := hdevelops.before.find?_of_find? hr' (Nat.not_lt.mp hle)
    exact hwritten (hr'.trans hseen.symm)
  rw [Turn.updated?_eq_some hupdate, hname]
  refine and_congr_right fun _ => and_congr_right fun _ => ?_
  constructor
  · rintro ⟨id', r', hid', hr', htoken⟩
    obtain rfl : id = id' := Option.some.inj (hentity.symm.trans hid')
    exact ⟨r, d, r', hr, hdata, hr', hlater r' hr',
      hversion.trans (congrArg some (htoken version hrow))⟩
  · rintro ⟨r₀, d₀, r', hr₀, hdata₀, hr', -, hversion₀⟩
    obtain rfl : r = r₀ := Option.some.inj (hr.symm.trans hr₀)
    obtain rfl : d = d₀ := Except.ok.inj (hdata.symm.trans hdata₀)
    refine ⟨id, r', hentity, hr', fun v hv => ?_⟩
    exact Option.some.inj (((hv.symm.trans hrow).trans hversion.symm).trans hversion₀)

/-- **When a partial update spares a write that it has not seen.**  A record is read whole by `x`
and updated by `y` in a partial update, and in between it has been written or deleted.  Then the
partial update writes nothing and returns no record, exactly if its update does not reach the
store, or writing is disabled, or it does not carry the token of a version that the record has got
only in between. -/
theorem spares_unseen_write_iff (hc : (run tokens actions).clients[k]? = some c)
    (hcall : c.job.call = .patch idText update)
    (hlog : (run tokens actions).log = before ++ y :: after) (hx : x ∈ before)
    (hxk : x.client = k) (hyk : y.client = k)
    (hfetch : x.request = .retrieve c.job.manager.logicalName id .all)
    (hupdate : y.request = .update e)
    (hwritten : y.found.find? c.job.manager.logicalName id ≠
      x.found.find? c.job.manager.logicalName id) :
    (¬(run tokens actions).TakesEffect k ∧
        (∀ z ∈ (run tokens actions).log, z.client = k → z.Quiet) ∧
        ∀ result scope, c.rest = .done (result, scope) → c.job.call.rewritten? result = none) ↔
      ¬(y.backend.reaches (.call .update) = true ∧ y.found.rejectWrites = false ∧
        CarriesLaterToken c.job.manager update id x.found y.found) := by
  rw [← updated?_iff_of_patch hc hcall hlog hyk hupdate hx hxk hfetch hwritten,
    ← takesEffect_iff_of_patch hc hcall hlog hyk hupdate]
  refine ⟨And.left, fun hnone => ⟨hnone, fun z hz hzk => ?_, fun _ _ hdone => ?_⟩⟩
  · exact quiet_of_not_takesEffect hc (hcall ▸ rfl) hnone hz hzk
  · exact rewritten?_eq_none hc hnone hdone

end System

/-! ### A write that is lost -/

namespace LostWrite

/-- The record that is at stake. -/
def key : Uuid :=
  .ofNat 1

/-- A company in Berlin, at version 1. -/
def company : Entity where
  logicalName := Account.logicalName
  id := some key
  rowVersion := none
  attributes := (Attributes.empty.set "name" (.string "Acme")).set "address1_city"
    (.string "Berlin")

/-- The move of the company to Oslo, which gets version 2, by another writer. -/
def move (before : CallKind) (skip : Nat) : Interference where
  before
  skip
  logicalName := Account.logicalName
  id := key
  action := .write "address1_city" (.string "Oslo")

/-- A new name for the company, with the given token. -/
def rename (version : Option String) : Job where
  manager := Account.manager
  call := .patch "00000000-0000-0000-0000-000000000001" {
    version
    name := some "Acme Corp"
    phone := none
    employees := none
    city := none : Account.Patch }
  scope := .ofCaller .anonymous

/-- The system after the company has been renamed while it moved. -/
def final (version : Option String) (before : CallKind) (skip : Nat) : System CountedTokens :=
  .run (.ofToken "token") ([.seed company .nil, .interleave (move before skip),
    .start (rename version)] ++ List.replicate 6 (.advance 0))

/-- The city of the company in a store. -/
def city? (s : Store) : Option Value :=
  (s.find? Account.logicalName key).bind (·.attributes.get? "address1_city")

/-- The renaming takes five turns. -/
lemma length_log : (final none .update 0).log.length = 5 := by decide +kernel

/-- A turn of the renaming without a token of its own, during which the company moves right
before the update. -/
def turn (i : Fin 5) : Turn CountedTokens :=
  (final none .update 0).log.get (i.cast length_log.symm)

/-- Without a token of its own, the renaming does not take effect if the company moves right before
the update. -/
theorem rename_spares_move : ¬(final none .update 0).TakesEffect 0 := by
  have hlog : (final none .update 0).log = (final none .update 0).log.take 4 ++
      turn 4 :: (final none .update 0).log.drop 5 := by
    have hdrop : (final none .update 0).log.drop 4 =
        turn 4 :: (final none .update 0).log.drop 5 :=
      List.drop_eq_getElem_cons (by rw [length_log]; decide)
    rw [← hdrop, List.take_append_drop]
  have hmem : turn 2 ∈ (final none .update 0).log.take 4 :=
    List.mem_take_iff_getElem.mpr ⟨2, by rw [length_log]; decide, rfl⟩
  have hwritten : (turn 4).found.find? Account.logicalName key ≠
      (turn 2).found.find? Account.logicalName key := by decide +kernel
  have hseen : (turn 2).found.Versioned :=
    (System.ordered_run _ _).versioned_found (List.mem_of_mem_take hmem)
  refine ((System.spares_unseen_write_iff (c := ⟨rename none, .done (.error (.conflict "account"
    "00000000-0000-0000-0000-000000000001" "row version changed before the update was applied"),
    ⟨.anonymous, true⟩)⟩) rfl rfl hlog hmem rfl rfl rfl rfl hwritten).mpr ?_).1
  exact fun h => Account.not_carriesLaterToken rfl rfl hseen h.2.2

/-- With the token that the move is going to get, the renaming reads the company in Berlin, finds
it in Oslo when it updates it, and leaves it in Berlin. -/
theorem move_overwritten :
    ((final (some "2") .retrieve 1).log[2]?.map fun x => (x.request.readsWhole, city? x.found)) =
        some (true, some (.string "Berlin")) ∧
      ((final (some "2") .retrieve 1).log[4]?.map fun y =>
        (y.updated?.isSome, city? y.found, city? y.left)) =
        some (true, some (.string "Oslo"), some (.string "Berlin")) := by
  decide +kernel

end LostWrite

end RecordGateway
