import RecordGateway.Proofs.Grant.Ledger
import RecordGateway.Proofs.Script.Runs

/-!
# Tokens in runs of scripts

What a script does with tokens that has a backend to itself: the requests for tokens and what
becomes of them, and the sessions that are asked for with tokens.  The store sees the tokens of no
other sessions, and every request for a token takes the next exchange of the token source.
-/

namespace RecordGateway

/-! ### Requests -/

/-- The token with which a request asks for a session. -/
def Request.presented? : Request → Option AccessToken
  | connect t => some t
  | _ => none

/-- What becomes of a request for a token. -/
def Turn.acquisition? (t : Turn GrantedTokens) : Option Acquisition :=
  match t.request with
  | .token endpoint mode => some (t.backend.tokens.acquisition endpoint mode)
  | _ => none

/-- A request that opens no session presents no token. -/
lemma Request.presented?_eq_none {r : Request} (h : r.opensSession = false) :
    r.presented? = none := by
  cases r <;> first | rfl | cases h

/-- A turn that opens no session obtains no token. -/
lemma Turn.acquisition?_eq_none {t : Turn GrantedTokens} (h : t.request.opensSession = false) :
    t.acquisition? = none := by
  unfold acquisition?
  split
  · rename_i hrequest
    rw [hrequest] at h
    cases h
  · rfl

namespace Store

/-- The start of a call shows the store no token. -/
lemma tokensSeen_enter (s : Store) (kind : CallKind) :
    (s.enter kind).tokensSeen = s.tokensSeen := by
  have hfold (due : List Interference) (t : Store) :
      (due.foldl interfere t).tokensSeen = t.tokensSeen := by
    induction due generalizing t with
    | nil => rfl
    | cons i due ih =>
      rw [List.foldl_cons, ih]
      unfold interfere
      cases i.action <;> rfl
  exact hfold _ _

/-- A session that is opened is seen with its token. -/
lemma tokensSeen_connect (s : Store) (secret : String) :
    (s.connect secret).1.tokensSeen = s.tokensSeen ∨
      (s.connect secret).1.tokensSeen = s.tokensSeen ++ [secret] := by
  unfold connect
  split
  · exact .inl rfl
  · exact .inr rfl

/-- A creation shows the store no token. -/
lemma tokensSeen_create (s : Store) (e : Entity) (fresh : Uuid) :
    (s.create e fresh).1.tokensSeen = s.tokensSeen := by
  rw [← s.tokensSeen_enter .create]
  unfold create
  dsimp only
  split
  · rfl
  · split <;> rfl

/-- An update shows the store no token. -/
lemma tokensSeen_update (s : Store) (e : Entity) :
    (s.update e).1.tokensSeen = s.tokensSeen := by
  rw [← s.tokensSeen_enter .update]
  unfold update
  dsimp only
  split
  · rfl
  · split
    · rfl
    · split
      · rfl
      · split <;> rfl

/-- A deletion shows the store no token. -/
lemma tokensSeen_delete (s : Store) (logicalName : String) (id : Uuid) :
    (s.delete logicalName id).1.tokensSeen = s.tokensSeen := by
  rw [← s.tokensSeen_enter .delete]
  unfold delete
  dsimp only
  split <;> rfl

end Store

namespace Backend

variable {S : Type}

/-- A request to the store does not reach the token source. -/
lemma tokens_call {α : Type} (b : Backend S) (point : FaultPoint)
    (f : Store → Store × Except StoreError α) : (b.call point f).1.tokens = b.tokens := by
  unfold call meet
  cases b.faults.find? (·.isDue point) <;> rfl

variable [TokenSource S]

/-- The store sees no other tokens than those of the sessions that are asked for. -/
lemma tokensSeen_answer (b : Backend S) (r : Request) :
    ∃ opened : List AccessToken, opened.Sublist r.presented?.toList ∧
      (b.answer r).1.store.tokensSeen =
        b.store.tokensSeen ++ opened.map AccessToken.secret := by
  have hcall {α : Type} {point : FaultPoint} {f : Store → Store × Except StoreError α}
      (hf : (f b.store).1.tokensSeen = b.store.tokensSeen) :
      (b.call point f).1.store.tokensSeen = b.store.tokensSeen ++ [] := by
    rw [store_call, List.append_nil]
    split
    · exact hf
    · rfl
  cases r with
  | token endpoint mode => exact ⟨[], .slnil, (List.append_nil _).symm⟩
  | connect token =>
    rcases b.store.tokensSeen_connect token.secret with hnone | hseen
    · exact ⟨[], List.nil_sublist _, hcall (f := fun s => s.connect token.secret) hnone⟩
    · have hstore := b.store_call .connect fun s => s.connect token.secret
      by_cases hreaches : b.reaches .connect = true
      · refine ⟨[token], .refl _, ?_⟩
        rw [if_pos hreaches] at hstore
        exact (congrArg Store.tokensSeen hstore).trans hseen
      · refine ⟨[], List.nil_sublist _, ?_⟩
        rw [if_neg hreaches] at hstore
        exact (congrArg Store.tokensSeen hstore).trans (List.append_nil _).symm
  | create e fresh =>
    exact ⟨[], .slnil, hcall (f := fun s => s.create e fresh) (b.store.tokensSeen_create e fresh)⟩
  | retrieve logicalName id columns =>
    exact ⟨[], .slnil, hcall (f := fun s => s.retrieve logicalName id columns)
      (b.store.tokensSeen_enter .retrieve)⟩
  | retrieveMultiple q =>
    exact ⟨[], .slnil, hcall (f := fun s => s.retrieveMultiple q)
      (b.store.tokensSeen_enter .retrieveMultiple)⟩
  | update e =>
    exact ⟨[], .slnil, hcall (f := fun s => s.update e) (b.store.tokensSeen_update e)⟩
  | delete logicalName id =>
    exact ⟨[], .slnil, hcall (f := fun s => s.delete logicalName id)
      (b.store.tokensSeen_delete logicalName id)⟩

/-- A request for a token takes the first exchange of the token source, and no other request takes
one. -/
lemma exchanges_answer (b : Backend GrantedTokens) (r : Request) :
    (b.answer r).1.tokens.exchanges =
        b.tokens.exchanges.drop (Turn.mk 0 b r).acquisition?.toList.length ∧
      (Turn.mk 0 b r).acquisition?.toList.map Acquisition.exchange =
        (List.range (Turn.mk 0 b r).acquisition?.toList.length).map
          (b.tokens.exchanges.getD · .unreachable) := by
  cases r with
  | token endpoint mode =>
    refine ⟨List.drop_one.symm, congrArg (List.cons · []) ?_⟩
    exact List.headD_eq_getD
  | _ => exact ⟨congrArg GrantedTokens.exchanges (b.tokens_call _ _), rfl⟩

end Backend

/-- Requests that take exchanges in order, after others that have done so. -/
lemma map_exchange_append {first later : List Acquisition} {exchanges : List Exchange}
    (hfirst : first.map Acquisition.exchange =
      (List.range first.length).map (exchanges.getD · .unreachable))
    (hlater : later.map Acquisition.exchange =
      (List.range later.length).map ((exchanges.drop first.length).getD · .unreachable)) :
    (first ++ later).map Acquisition.exchange =
      (List.range (first ++ later).length).map (exchanges.getD · .unreachable) := by
  rw [List.map_append, List.length_append, List.range_add, List.map_append, List.map_map, hfirst,
    hlater]
  refine congrArg _ (List.map_congr_left fun k _ => ?_)
  rw [Function.comp_apply, List.getD_eq_getElem?_getD, List.getElem?_drop,
    List.getD_eq_getElem?_getD]

/-! ### Runs -/

namespace Script

variable {α : Type}

/-- The tokens with which a script asks for sessions. -/
def presented {S : Type} [TokenSource S] (x : Script α) (b : Backend S) : List AccessToken :=
  (x.turns b).filterMap (·.request.presented?)

/-- What becomes of the requests of a script for tokens. -/
def acquisitions (x : Script α) (b : Backend GrantedTokens) : List Acquisition :=
  (x.turns b).filterMap Turn.acquisition?

/-- During a run the store sees no other tokens than those of the sessions that are asked for. -/
theorem tokensSeen_run {S : Type} [TokenSource S] (x : Script α) (b : Backend S) :
    ∃ opened : List AccessToken, opened.Sublist (x.presented b) ∧
      (x.run Backend.answer b).1.store.tokensSeen =
        b.store.tokensSeen ++ opened.map AccessToken.secret := by
  induction x generalizing b with
  | done a => exact ⟨[], .slnil, (List.append_nil _).symm⟩
  | ask r next ih =>
    obtain ⟨first, hfirst, hseen⟩ := b.tokensSeen_answer r
    obtain ⟨later, hlater, hrest⟩ := ih (b.answer r).2 (b.answer r).1
    refine ⟨first ++ later, ?_, ?_⟩
    · have hpresented : (ask r next).presented b =
          r.presented?.toList ++ (next (b.answer r).2).presented (b.answer r).1 := by
        unfold presented
        rw [turns, List.filterMap_cons]
        cases r.presented? <;> rfl
      rw [hpresented]
      exact hfirst.append hlater
    · rw [List.map_append, ← List.append_assoc, ← hseen]
      exact hrest

/-- The requests for tokens of a run take the exchanges of the token source in order, each one
once. -/
theorem exchanges_run (x : Script α) (b : Backend GrantedTokens) :
    (x.run Backend.answer b).1.tokens.exchanges =
        b.tokens.exchanges.drop (x.acquisitions b).length ∧
      (x.acquisitions b).map Acquisition.exchange =
        (List.range (x.acquisitions b).length).map (b.tokens.exchanges.getD · .unreachable) := by
  induction x generalizing b with
  | done a => exact ⟨rfl, rfl⟩
  | ask r next ih =>
    obtain ⟨hfirst, htaken⟩ := b.exchanges_answer r
    obtain ⟨hleft, hrest⟩ := ih (b.answer r).2 (b.answer r).1
    have hcons : (ask r next).acquisitions b = (Turn.mk 0 b r).acquisition?.toList ++
        (next (b.answer r).2).acquisitions (b.answer r).1 := by
      unfold acquisitions
      rw [turns, List.filterMap_cons]
      cases (Turn.mk 0 b r).acquisition? <;> rfl
    rw [hfirst] at hleft hrest
    rw [hcons]
    refine ⟨?_, map_exchange_append htaken hrest⟩
    rw [List.length_append, ← List.drop_drop]
    exact hleft

end Script

end RecordGateway
