import Mathlib.Data.List.Pairwise
import RecordGateway.Proofs.Sharing.System

/-!
# No lost updates

The manager compares the version of a record when it reads it, and the store compares it once more
when it applies the update; only the second comparison counts, because other clients may come in
between.  It is enough: a version that has been written over never comes back, so that of all
updates with one token at most one is ever applied, whatever happens to the records in between.
-/

namespace RecordGateway

namespace System

variable {S : Type} [TokenSource S]

/-! ### Tokens of applied updates -/

/-- A version-checked update finds its record at the version of its token, and uses it up. -/
lemma spent_of_checkedToken? {x : Turn S} {token : String}
    (hversioned : x.found.Versioned) (h : x.checkedToken? = some token) :
    ∃ version, token = versionToken version ∧ (∃ r ∈ x.found.records, r.version = version) ∧
      x.left.Spent version := by
  obtain ⟨e, hupdated, htoken⟩ := Option.bind_eq_some_iff.mp h
  obtain ⟨id, r, -, hfind, hversion, hleft⟩ := Turn.left_of_updated? hupdated
  refine ⟨r.version, hversion token htoken, ⟨r, List.mem_of_find?_eq_some hfind, rfl⟩, ?_⟩
  exact hleft ▸ Store.spent_write hversioned hfind _

/-- Of two turns of a run not both apply an update with the same token. -/
theorem checkedToken?_ne (tokens : S) (actions : List Action) :
    (run tokens actions).log.Pairwise fun x y =>
      ∀ token, x.checkedToken? = some token → y.checkedToken? ≠ some token := by
  have hordered := ordered_run tokens actions
  refine hordered.between.imp_of_mem fun {x y} hx hy hxy token htoken htoken' => ?_
  obtain ⟨version, rfl, -, hspent⟩ := spent_of_checkedToken? (hordered.versioned_found hx) htoken
  obtain ⟨version', heq, ⟨r, hr, hversion⟩, -⟩ :=
    spent_of_checkedToken? (hordered.versioned_found hy) htoken'
  refine (hspent.develops (hxy.trans y.develops_found)).2 r hr ?_
  rw [hversion, versionToken_injective heq]

/-! ### The updates of replacements -/

/-- An update that is applied is the one of a replacement. -/
lemma replaces_of_updated? {tokens : S} {actions : List Action} {x : Turn S} {e : Entity}
    (hx : x ∈ (run tokens actions).log) (hupdated : x.updated? = some e) :
    ∃ (c : Client) (idText : String) (data : c.job.D) (id : Uuid) (version : String),
      (run tokens actions).clients[x.client]? = some c ∧ c.job.call.Replaces idText data ∧
        c.job.manager.replacement idText data = .ok (id, version, e) := by
  obtain ⟨before, after, hlog⟩ := List.append_of_mem hx
  obtain ⟨c, hc, hallows⟩ := (keeps_perform_run tokens actions).asked before x after hlog
  rw [Turn.request_of_updated? hupdated] at hallows
  obtain ⟨idText, data, id, version, hreplaces, hreplacement⟩ :=
    Manager.replaces_of_allows hallows
  exact ⟨c, idText, data, id, version, hc, hreplaces, hreplacement⟩

/-- What a shared store guarantees to the clients that replace records. -/
structure NoLostUpdate (s : System S) : Prop where
  /-- Whenever an update is applied, the record is at the version of the token that the replacing
  data object carries. -/
  at_token : ∀ x ∈ s.log, ∀ e, x.updated? = some e →
    ∃ (c : Client) (idText : String) (data : c.job.D) (id : Uuid) (r : StoredRecord),
      s.clients[x.client]? = some c ∧ c.job.call.Replaces idText data ∧
        idOfText? idText = some id ∧ x.found.find? c.job.manager.logicalName id = some r ∧
        DataObject.version data = some (versionToken r.version)
  /-- No token occurs twice among the version-checked updates that have been applied. -/
  tokens_nodup : (s.log.filterMap Turn.checkedToken?).Nodup
  /-- Of several replacements with one token at most one takes effect. -/
  one_takes_effect : ∀ (k k' : Nat) (c c' : Client) (idText idText' : String) (data : c.job.D)
    (data' : c'.job.D), s.clients[k]? = some c → s.clients[k']? = some c' →
    c.job.call = .replace idText data → c'.job.call = .replace idText' data' →
    DataObject.version data = DataObject.version data' →
    s.TakesEffect k → s.TakesEffect k' → k = k'
  /-- A replacement that does not take effect writes nothing and ends in an error. -/
  without_effect : ∀ (k : Nat) (c : Client) (idText : String) (data : c.job.D),
    s.clients[k]? = some c → c.job.call = .replace idText data → ¬s.TakesEffect k →
    (∀ x ∈ s.log, x.client = k → x.Quiet) ∧
      ∀ result scope, c.rest = .done (result, scope) → ∃ e, result = .error e

variable {tokens : S} {actions : List Action} {c : Client} {idText : String} {data : c.job.D}

/-- The token of the update of a replacement is the one that its data object carries. -/
lemma checkedToken?_of_replace {x : Turn S} {e : Entity}
    (hx : x ∈ (run tokens actions).log) (hupdated : x.updated? = some e)
    (hc : (run tokens actions).clients[x.client]? = some c)
    (hcall : c.job.call = .replace idText data) :
    ∃ token, DataObject.version data = some token ∧ x.checkedToken? = some token := by
  obtain ⟨c', idText', data', id, version, hc', hreplaces, hreplacement⟩ :=
    replaces_of_updated? hx hupdated
  obtain rfl : c = c' := Option.some.inj (hc.symm.trans hc')
  rw [hcall] at hreplaces
  cases hreplaces
  obtain ⟨-, hversion, -, -, hrow⟩ := Manager.replacement_eq_ok hreplacement
  exact ⟨version, hversion, by rw [Turn.checkedToken?, hupdated]; exact hrow⟩

/-- **No lost update through replacement.**  In every run of clients that share a store, with the
requests of the clients interleaved in any order, and with any actions of other writers between
them, an update is applied only at the version of the token that the replacing data object
carries, no token serves for two updates, and so of several replacements with one token at most
one takes effect, while each other one fails without having written. -/
theorem noLostUpdate_run (tokens : S) (actions : List Action) :
    (run tokens actions).NoLostUpdate where
  at_token x hx e hupdated := by
    obtain ⟨c, idText, data, id, version, hc, hreplaces, hreplacement⟩ :=
      replaces_of_updated? hx hupdated
    obtain ⟨hid, hversion, hname, hentity, hrow⟩ := Manager.replacement_eq_ok hreplacement
    obtain ⟨id', r, hid', hfind, htoken, -⟩ := Turn.left_of_updated? hupdated
    obtain rfl : id = id' := Option.some.inj (hentity.symm.trans hid')
    exact ⟨c, idText, data, id, r, hc, hreplaces, hid, hname ▸ hfind,
      hversion.trans (congrArg some (htoken version hrow))⟩
  tokens_nodup := by
    refine List.pairwise_filterMap.mpr ((checkedToken?_ne tokens actions).imp ?_)
    exact fun h token htoken token' htoken' heq => h token htoken (heq ▸ htoken')
  one_takes_effect k k' c c' idText idText' data data' hc hc' hcall hcall' hsame := by
    rintro ⟨x, hx, rfl, e, hupdated⟩ ⟨y, hy, rfl, e', hupdated'⟩
    obtain ⟨token, hversion, htoken⟩ := checkedToken?_of_replace hx hupdated hc hcall
    obtain ⟨token', hversion', htoken'⟩ := checkedToken?_of_replace hy hupdated' hc' hcall'
    obtain rfl : token = token' := Option.some.inj (hversion.symm.trans (hsame.trans hversion'))
    have hsymm : Std.Symm fun x y : Turn S =>
        ∀ token, x.checkedToken? = some token → y.checkedToken? ≠ some token :=
      ⟨fun _ _ h token hy hx => h token hx hy⟩
    by_contra hne
    exact (checkedToken?_ne tokens actions).forall hx hy (fun hxy => hne (hxy ▸ rfl)) token htoken
      htoken'
  without_effect k c idText data hc hcall hnone :=
    ⟨fun _ hx hk => quiet_of_not_takesEffect hc (hcall ▸ rfl) hnone hx hk, fun _ _ hdone =>
      ManagerCall.error_of_rewritten?_eq_none hcall (rewritten?_eq_none hc hnone hdone)⟩

end System

end RecordGateway
