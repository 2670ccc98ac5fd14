import Mathlib.Data.List.Basic
import TableSync.Proofs.Batch.Loop

/-!
What a batched write owes every write handed to it: each is pending, resolved or skipped in exactly
one place, and a round posts exactly the pending ones. `Between` collects the coordinators between
rounds, each of them ready.
-/

namespace TableSync

namespace Coordinator

def settledIds (c : Coordinator) : List String := c.resolved ++ c.skipped.map (·.requestId)

/-- The coordinator accounts for every write of `input`: each is pending or settled, in exactly
one place. -/
structure Accounts (input : List WriteEnvelope) (c : Coordinator) : Prop where
  distinct : (input.map (·.id)).Nodup
  order : c.order = input.map (·.id)
  pending : c.pending = (input.filter fun e => e.id ∉ c.settledIds).map fun e => (e.id, e)
  settledDistinct : c.settledIds.Nodup
  settledInput : ∀ id ∈ c.settledIds, id ∈ input.map (·.id)

variable {input : List WriteEnvelope}

theorem Accounts.isPending_iff {c : Coordinator} (accounts : Accounts input c) (id : String) :
    c.isPending id = true ↔ id ∈ input.map (·.id) ∧ id ∉ c.settledIds := by
  simp only [isPending, accounts.pending, List.any_map, List.any_filter, List.any_eq_true,
    Bool.and_eq_true, decide_eq_true_eq, beq_iff_eq, Function.comp, List.mem_map]
  constructor
  · rintro ⟨e, member, notSettled, rfl⟩
    exact ⟨⟨e, member, rfl⟩, notSettled⟩
  · rintro ⟨⟨e, member, rfl⟩, notSettled⟩
    exact ⟨e, member, notSettled, rfl⟩

theorem Accounts.isPending_eq {c : Coordinator} (accounts : Accounts input c)
    {id : String} (inInput : id ∈ input.map (·.id)) : c.isPending id = !decide (id ∈ c.settledIds) := by
  cases pending : c.isPending id with
  | true =>
    have notSettled := ((accounts.isPending_iff id).mp pending).2
    simp [notSettled]
  | false =>
    have settled : id ∈ c.settledIds := by
      by_contra notSettled
      have := (accounts.isPending_iff id).mpr ⟨inInput, notSettled⟩
      rw [pending] at this
      cases this
    simp [settled]

theorem Accounts.settleOne {c c' : Coordinator} {id : String}
    (accounts : Accounts input c) (pending : c.isPending id = true) (order : c'.order = c.order)
    (pendingEq : c'.pending = c.pending.filter (·.1 != id))
    (settled : c'.settledIds.Perm (c.settledIds ++ [id])) : Accounts input c' := by
  obtain ⟨inInput, notSettled⟩ := (accounts.isPending_iff id).mp pending
  have settledMem : ∀ x, x ∈ c'.settledIds ↔ x ∈ c.settledIds ∨ x = id := by
    intro x
    rw [settled.mem_iff, List.mem_append, List.mem_singleton]
  refine ⟨accounts.distinct, order.trans accounts.order, ?_, ?_, ?_⟩
  · rw [pendingEq, accounts.pending, List.filter_map, List.filter_filter]
    congr 1
    apply List.filter_congr
    intro e _
    simp only [Function.comp_apply, settledMem, not_or]
    by_cases named : e.id = id <;> simp [named]
  · rw [settled.nodup_iff, List.nodup_append]
    refine ⟨accounts.settledDistinct, List.nodup_cons.mpr ⟨List.not_mem_nil, List.nodup_nil⟩, ?_⟩
    intro x member y same
    rw [List.mem_singleton] at same
    subst same
    intro equal
    subst equal
    exact notSettled member
  · intro x member
    rcases (settledMem x).mp member with earlier | rfl
    · exact accounts.settledInput x earlier
    · exact inInput

theorem Accounts.frame {c c' : Coordinator} (accounts : Accounts input c)
    (order : c'.order = c.order) (pending : c'.pending = c.pending) (resolved : c'.resolved = c.resolved)
    (skipped : c'.skipped = c.skipped) : Accounts input c' := by
  have settled : c'.settledIds = c.settledIds := by rw [settledIds, settledIds, resolved, skipped]
  refine ⟨accounts.distinct, order.trans accounts.order, ?_, settled ▸ accounts.settledDistinct,
    settled ▸ accounts.settledInput⟩
  rw [pending, settled]
  exact accounts.pending

theorem Settles.accounts {c c' : Coordinator} (settles : Settles c c')
    (accounts : Accounts input c) : Accounts input c' := by
  induction settles with
  | refl => exact accounts
  | @resolve c c' id pending _ ih =>
    have moved : (c.resolved ++ [id] ++ c.skipped.map (·.requestId)).Perm (c.settledIds ++ [id]) := by
      simp only [settledIds, List.append_assoc]
      exact List.Perm.append_left _ List.perm_append_comm
    exact ih (accounts.settleOne pending rfl rfl moved)
  | @skip c c' id record pending named _ ih =>
    have moved : (c.resolved ++ (c.skipped ++ [record]).map (·.requestId)).Perm (c.settledIds ++ [id]) := by
      simp only [settledIds, List.map_append, List.map_cons, List.map_nil, named, List.append_assoc]
      exact List.Perm.refl _
    exact ih (accounts.settleOne pending rfl rfl moved)

theorem Accounts.filter_isPending {c : Coordinator} (accounts : Accounts input c) :
    (input.filter fun e => c.isPending e.id) = input.filter fun e => e.id ∉ c.settledIds := by
  apply List.filter_congr
  intro e member
  have inInput : e.id ∈ input.map (·.id) := List.mem_map_of_mem member
  simp [accounts.isPending_eq inInput]

theorem Accounts.pending_eq {c : Coordinator} (accounts : Accounts input c) :
    c.pending = (input.filter fun e => c.isPending e.id).map fun e => (e.id, e) := by
  rw [accounts.pending, accounts.filter_isPending]

theorem Accounts.pendingIds_eq {c : Coordinator} (accounts : Accounts input c) :
    c.pendingIds = (input.filter fun e => e.id ∉ c.settledIds).map (·.id) := by
  rw [pendingIds, accounts.order, List.filter_map, ← accounts.filter_isPending]
  rfl

theorem Accounts.partition {c : Coordinator} (accounts : Accounts input c) :
    (c.pendingIds ++ c.settledIds).Nodup ∧ (c.pendingIds ++ c.settledIds).Perm (input.map (·.id)) := by
  have pendingSub : List.Sublist ((input.filter fun e => e.id ∉ c.settledIds).map (·.id))
      (input.map (·.id)) :=
    (List.filter_sublist).map _
  have distinct : (c.pendingIds ++ c.settledIds).Nodup := by
    rw [accounts.pendingIds_eq, List.nodup_append]
    refine ⟨pendingSub.nodup accounts.distinct, accounts.settledDistinct, ?_⟩
    intro x pendingMember y settledMember same
    subst same
    simp only [List.mem_map, List.mem_filter, decide_eq_true_eq] at pendingMember
    obtain ⟨e, ⟨_, notSettled⟩, rfl⟩ := pendingMember
    exact notSettled settledMember
  refine ⟨distinct, (List.perm_ext_iff_of_nodup distinct accounts.distinct).mpr ?_⟩
  intro x
  rw [accounts.pendingIds_eq, List.mem_append]
  constructor
  · rintro (pendingMember | settledMember)
    · exact pendingSub.subset pendingMember
    · exact accounts.settledInput x settledMember
  · intro inInput
    by_cases settled : x ∈ c.settledIds
    · exact Or.inr settled
    · left
      obtain ⟨e, member, rfl⟩ := List.mem_map.mp inInput
      exact List.mem_map_of_mem (List.mem_filter.mpr ⟨member, by simpa using settled⟩)

theorem filterMap_find_filter (input : List WriteEnvelope) (distinct : (input.map (·.id)).Nodup)
    (keep pending : WriteEnvelope → Bool) (covers : ∀ e ∈ input, pending e = true → keep e = true) :
    ((input.filter keep).map (·.id)).filterMap (fun id =>
      (((input.filter pending).map fun e => (e.id, e)).find? (·.1 == id)).map (·.2)) =
      input.filter pending := by
  -- the head's id is fresh, so it finds nothing among the rest and the rest's ids never find it
  induction input with
  | nil => rfl
  | cons e rest ih =>
    rw [List.map_cons, List.nodup_cons] at distinct
    obtain ⟨fresh, restDistinct⟩ := distinct
    have restCovers : ∀ r ∈ rest, pending r = true → keep r = true :=
      fun r member => covers r (List.mem_cons_of_mem e member)
    have others : ∀ id ∈ (rest.filter keep).map (·.id), id ≠ e.id := by
      intro id member same
      subst same
      exact fresh ((List.filter_sublist.map _).subset member)
    have absent : ((rest.filter pending).map fun r => (r.id, r)).find? (·.1 == e.id) = none := by
      rw [List.find?_eq_none]
      intro entry member
      simp only [List.mem_map, List.mem_filter] at member
      obtain ⟨r, ⟨restMember, _⟩, rfl⟩ := member
      intro same
      exact fresh (List.mem_map.mpr ⟨r, restMember, by simpa using same⟩)
    have restLookup : ((rest.filter keep).map (·.id)).filterMap (fun id =>
        ((((e :: rest).filter pending).map fun r => (r.id, r)).find? (·.1 == id)).map (·.2)) =
        rest.filter pending := by
      rw [← ih restDistinct restCovers]
      apply List.filterMap_congr
      intro id member
      by_cases pendingHead : pending e = true
      · have differs : (e.id == id) = false := by
          simpa using (others id member).symm
        simp [pendingHead, differs]
      · simp [pendingHead]
    by_cases keptHead : keep e = true
    · by_cases pendingHead : pending e = true
      · have headLookup : ((((e :: rest).filter pending).map fun r => (r.id, r)).find?
            (·.1 == e.id)).map (·.2) = some e := by
          simp [List.filter_cons_of_pos pendingHead]
        rw [List.filter_cons_of_pos keptHead, List.map_cons]
        simp only [List.filterMap_cons, headLookup, restLookup]
        rw [List.filter_cons_of_pos pendingHead]
      · have headLookup : ((((e :: rest).filter pending).map fun r => (r.id, r)).find?
            (·.1 == e.id)).map (·.2) = none := by
          simp [List.filter_cons_of_neg pendingHead, absent]
        rw [List.filter_cons_of_pos keptHead, List.map_cons]
        simp only [List.filterMap_cons, headLookup, restLookup]
        rw [List.filter_cons_of_neg pendingHead]
    · have pendingHead : ¬pending e = true :=
        fun headPending => keptHead (covers e List.mem_cons_self headPending)
      rw [List.filter_cons_of_neg keptHead, restLookup, List.filter_cons_of_neg pendingHead]

structure Ready (input : List WriteEnvelope) (c : Coordinator) (ids : List String) : Prop where
  accounts : Accounts input c
  chosen : ∃ keep : String → Bool, ids = c.order.filter keep ∧
    ∀ id ∈ c.order, c.isPending id = true → keep id = true

theorem Accounts.ready {c : Coordinator} (accounts : Accounts input c) :
    Ready input c c.pendingIds :=
  ⟨accounts, c.isPending, rfl, fun _ _ pending => pending⟩

theorem Ready.envelopesOf_eq {c : Coordinator} {ids : List String}
    (ready : Ready input c ids) : c.envelopesOf ids = input.filter fun e => c.isPending e.id := by
  obtain ⟨keep, rfl, covers⟩ := ready.chosen
  rw [envelopesOf, ready.accounts.order, List.filter_map, ready.accounts.pending_eq]
  apply filterMap_find_filter input ready.accounts.distinct
  intro e member pending
  exact covers e.id (by rw [ready.accounts.order]; exact List.mem_map_of_mem member) pending

theorem Ready.round {c c' : Coordinator} {ids next : List String}
    {ex ex' : Exchange} (ready : Ready input c ids)
    (ran : (runRound ids).exec { c with rounds := c.rounds + 1 } ex = ((.ok next, c'), ex')) :
    Ready input c' next := by
  obtain ⟨settles, -, answered⟩ := runRound_spec ran
  obtain ⟨chosen, rfl, keepsPending⟩ := answered next rfl
  have counted : Accounts input { c with rounds := c.rounds + 1 } := ready.accounts.frame rfl rfl rfl rfl
  obtain ⟨keep, idsEq, covers⟩ := ready.chosen
  have sameOrder : c'.order = c.order := settles.frame.1
  refine ⟨settles.accounts counted, chosen, rfl, ?_⟩
  -- a write still pending after the round was pending before it, so the round submitted it
  intro id member pending
  have wasPending : c.isPending id = true := settles.isPending pending
  rw [sameOrder] at member
  have inRound : id ∈ ids := by
    rw [idsEq]
    exact List.mem_filter.mpr ⟨member, covers id member wasPending⟩
  exact keepsPending id inRound pending


theorem Ready.rounds {n : Nat} {c c' : Coordinator} {ids ids' : List String} {ex ex' : Exchange}
    (ready : Ready input c ids) (rounds : Rounds n c ids ex c' ids' ex') : Ready input c' ids' := by
  induction rounds with
  | none => exact ready
  | round _ ran _ ih => exact ih (ready.round ran)

theorem Ready.round_requests {c : Coordinator} {ids : List String} (ready : Ready input c ids)
    (ex : Exchange) :
    ∀ req ∈ ((runRound ids).exec { c with rounds := c.rounds + 1 } ex).2.sent.toList.drop ex.sent.size,
      req.url = c.client.endpoint.batchUrl →
      ∃ batchId, req.body = .json (BatchEnvelope.toJson ⟨batchId, input.filter fun e => c.isPending e.id⟩) := by
  intro req member toBatch
  rcases ran : (runRound ids).exec { c with rounds := c.rounds + 1 } ex with ⟨⟨result, c'⟩, ex'⟩
  obtain ⟨k, batch, -, -, sent, -, carries, -⟩ := runRound_traffic ran
  rw [ran] at member
  dsimp only at member
  rw [sent, List.append_assoc, ← Array.length_toList, List.drop_left] at member
  rcases List.mem_append.mp member with grant | posted
  · have grantUrl : c.client.tokens.grantRequest.url = c.client.tokens.endpoint.tokenUrl := rfl
    rw [List.eq_of_mem_replicate grant, grantUrl] at toBatch
    exact absurd toBatch (Endpoint.tokenUrl_ne_batchUrl _ _)
  · have envelopes : ({ c with rounds := c.rounds + 1 } : Coordinator).envelopesOf ids =
        input.filter fun e => c.isPending e.id := ready.envelopesOf_eq
    obtain ⟨-, batchId, body⟩ := carries req posted
    exact ⟨batchId, by rw [body, envelopes]⟩

theorem addUnique_fresh {pre : List WriteEnvelope} {e : WriteEnvelope} (fresh : e.id ∉ pre.map (·.id)) :
    addUnique (pre.map fun e => (e.id, e)) e = .ok ((pre ++ [e]).map fun e => (e.id, e)) := by
  have notAny : (pre.map fun e => (e.id, e)).any (·.1 == e.id) = false := by
    simpa [List.any_eq_false] using fun x member same => fresh (List.mem_map.mpr ⟨x, member, same⟩)
  rw [addUnique, notAny, List.map_append]
  rfl

theorem addUnique_repeat {pre : List WriteEnvelope} {e : WriteEnvelope} (repeated : e.id ∈ pre.map (·.id)) :
    addUnique (pre.map fun e => (e.id, e)) e = .error (.duplicateRequestId e.id) := by
  have isAny : (pre.map fun e => (e.id, e)).any (·.1 == e.id) = true := by
    obtain ⟨x, member, same⟩ := List.mem_map.mp repeated
    exact List.any_eq_true.mpr ⟨(x.id, x), List.mem_map_of_mem member, by simp [same]⟩
  rw [addUnique, isAny]
  rfl

theorem nodup_append_fresh {pre : List WriteEnvelope} {e : WriteEnvelope} (distinct : (pre.map (·.id)).Nodup)
    (fresh : e.id ∉ pre.map (·.id)) : ((pre ++ [e]).map (·.id)).Nodup := by
  rw [List.map_append, List.nodup_append]
  refine ⟨distinct, by simp, ?_⟩
  intro x member y same equal
  subst equal
  simp only [List.map_cons, List.map_nil, List.mem_singleton] at same
  exact fresh (same ▸ member)

theorem foldlM_addUnique_ok :
    ∀ (rest pre : List WriteEnvelope), ((pre ++ rest).map (·.id)).Nodup →
      rest.foldlM addUnique (pre.map fun e => (e.id, e)) = .ok ((pre ++ rest).map fun e => (e.id, e)) := by
  intro rest
  induction rest with
  | nil =>
    intro pre _
    rw [List.append_nil]
    rfl
  | cons e rest ih =>
    intro pre distinct
    have fresh : e.id ∉ pre.map (·.id) := by
      intro member
      rw [List.map_append, List.nodup_append] at distinct
      exact distinct.2.2 _ member _ (List.mem_map_of_mem List.mem_cons_self) rfl
    have moved : pre ++ e :: rest = (pre ++ [e]) ++ rest := List.append_cons pre e rest
    rw [List.foldlM_cons, addUnique_fresh fresh, moved]
    exact ih (pre ++ [e]) (moved ▸ distinct)

theorem foldlM_addUnique_nodup :
    ∀ (rest pre : List WriteEnvelope) (acc : List (String × WriteEnvelope)), (pre.map (·.id)).Nodup →
      rest.foldlM addUnique (pre.map fun e => (e.id, e)) = .ok acc → ((pre ++ rest).map (·.id)).Nodup := by
  intro rest
  induction rest with
  | nil =>
    intro pre acc distinct _
    rwa [List.append_nil]
  | cons e rest ih =>
    intro pre acc distinct added
    by_cases repeated : e.id ∈ pre.map (·.id)
    · rw [List.foldlM_cons, addUnique_repeat repeated] at added
      cases added
    · rw [List.foldlM_cons, addUnique_fresh repeated] at added
      have moved : pre ++ e :: rest = (pre ++ [e]) ++ rest := List.append_cons pre e rest
      rw [moved]
      exact ih (pre ++ [e]) acc (nodup_append_fresh distinct repeated) added

theorem foldlM_addUnique_error :
    ∀ (rest pre : List WriteEnvelope), (pre.map (·.id)).Nodup → ∀ err,
      rest.foldlM addUnique (pre.map fun e => (e.id, e)) = .error err ↔
        ∃ before e after, rest = before ++ e :: after ∧ ((pre ++ before).map (·.id)).Nodup ∧
          e.id ∈ (pre ++ before).map (·.id) ∧ err = .duplicateRequestId e.id := by
  intro rest
  induction rest with
  | nil =>
    intro pre _ err
    constructor
    · intro failed
      cases failed
    · rintro ⟨before, e, after, split, -⟩
      exact absurd split.symm (by simp)
  | cons e rest ih =>
    intro pre distinct err
    by_cases repeated : e.id ∈ pre.map (·.id)
    · rw [List.foldlM_cons, addUnique_repeat repeated]
      constructor
      · intro failed
        cases failed
        exact ⟨[], e, rest, rfl, by simpa using distinct, by simpa using repeated, rfl⟩
      · rintro ⟨before, e', after, split, prefixDistinct, found, rfl⟩
        cases before with
        | nil =>
          cases split
          rfl
        | cons b before =>
          cases split
          rw [List.map_append, List.nodup_append] at prefixDistinct
          exact absurd rfl (prefixDistinct.2.2 _ repeated _ (List.mem_map_of_mem List.mem_cons_self))
    · rw [List.foldlM_cons, addUnique_fresh repeated]
      show rest.foldlM addUnique ((pre ++ [e]).map fun e => (e.id, e)) = .error err ↔ _
      rw [ih (pre ++ [e]) (nodup_append_fresh distinct repeated) err]
      constructor
      · rintro ⟨before, e', after, split, prefixDistinct, found, rfl⟩
        refine ⟨e :: before, e', after, by rw [split]; rfl, ?_, ?_, rfl⟩
        · simpa using prefixDistinct
        · simpa using found
      · rintro ⟨before, e', after, split, prefixDistinct, found, rfl⟩
        cases before with
        | nil =>
          cases split
          exact absurd (by simpa using found) repeated
        | cons b before =>
          cases split
          exact ⟨before, e', after, rfl, by simpa using prefixDistinct, by simpa using found, rfl⟩

theorem make_of_nodup (client : ServiceClient) (table : String) (distinct : (input.map (·.id)).Nodup) :
    make client table input =
      .ok { client := client, table := table, retry := RetryPolicy.forBatch,
            maxRounds := defaultMaxRounds, order := input.map (·.id),
            pending := input.map fun e => (e.id, e), resolved := [], skipped := [], rounds := 0 } := by
  have added := foldlM_addUnique_ok input [] distinct
  rw [List.map_nil, List.nil_append] at added
  rw [make, added]
  simp [List.map_map, Function.comp_def]

theorem make_ok_iff (client : ServiceClient) (table : String) :
    (∃ c, make client table input = .ok c) ↔ (input.map (·.id)).Nodup := by
  constructor
  · rintro ⟨c, made⟩
    rw [make] at made
    cases added : input.foldlM addUnique [] with
    | error err =>
      rw [added] at made
      cases made
    | ok pending =>
      have distinct := foldlM_addUnique_nodup input [] pending List.nodup_nil added
      rwa [List.nil_append] at distinct
  · intro distinct
    exact ⟨_, make_of_nodup client table distinct⟩

theorem make_error_iff (client : ServiceClient) (table : String) (err : BatchError) :
    make client table input = .error err ↔
      ∃ before e after, input = before ++ e :: after ∧ (before.map (·.id)).Nodup ∧
        e.id ∈ before.map (·.id) ∧ err = .duplicateRequestId e.id := by
  have refused := foldlM_addUnique_error input [] List.nodup_nil err
  simp only [List.map_nil, List.nil_append] at refused
  rw [← refused, make]
  cases input.foldlM addUnique [] with
  | error e =>
    constructor
    · intro made
      cases made
      rfl
    · intro added
      cases added
      rfl
  | ok pending => exact ⟨(fun made => nomatch made), (fun added => nomatch added)⟩

theorem make_accounts {client : ServiceClient} {table : String} {c : Coordinator}
    (made : make client table input = .ok c) : Accounts input c := by
  have distinct := (make_ok_iff client table).mp ⟨c, made⟩
  rw [make_of_nodup client table distinct] at made
  cases made
  refine ⟨distinct, rfl, by simp [settledIds], List.nodup_nil, ?_⟩
  intro id settled
  cases settled

/-- The coordinators a batched write of `input` passes through between rounds, with the ids each
submits next. -/
inductive Between (input : List WriteEnvelope) : Coordinator → List String → Prop
  | made {client : ServiceClient} {table : String} {c : Coordinator} :
      make client table input = .ok c → Between input c c.pendingIds
  | withRetry {c : Coordinator} {ids : List String} (retry : RetryPolicy) :
      Between input c ids → Between input (c.withRetry retry) ids
  | withMaxRounds {c : Coordinator} {ids : List String} (maxRounds : Nat) :
      Between input c ids → Between input (c.withMaxRounds maxRounds) ids
  | round {c c' : Coordinator} {ids next : List String} {ex ex' : Exchange} :
      Between input c ids →
      (runRound ids).exec { c with rounds := c.rounds + 1 } ex = ((.ok next, c'), ex') →
      Between input c' next
  | resumed {c c' : Coordinator} {ex ex' : Exchange} {e : BatchError} :
      Between input c c.pendingIds → submit.exec c ex = ((.error e, c'), ex') → e.isRetryable = true →
      Between input c' c'.pendingIds

theorem Between.ready {c : Coordinator} {ids : List String} (between : Between input c ids) :
    Ready input c ids := by
  induction between with
  | made made => exact (make_accounts made).ready
  | withRetry retry _ ih =>
    exact ⟨ih.accounts.frame rfl rfl rfl rfl, ih.chosen⟩
  | withMaxRounds maxRounds _ ih =>
    exact ⟨ih.accounts.frame rfl rfl rfl rfl, ih.chosen⟩
  | round _ ran ih => exact ih.round ran
  | resumed _ submitted retryable ih =>
    -- a retryable failure ends in a round that did not complete: what is left is the
    -- coordinator of the last completed round, only counted once more
    obtain ⟨n, c', ids', ex', rounds, -, -, rfl⟩ := (submit_failed submitted).1 retryable
    have resumable : Accounts input { c' with rounds := c'.rounds + 1 } :=
      (ih.rounds rounds).accounts.frame rfl rfl rfl rfl
    exact resumable.ready

/-- No write is lost or duplicated by a batched write, from `make` through every round. -/
theorem batch_write_loses_and_repeats_nothing :
    (∀ (client : ServiceClient) (table : String) (input : List WriteEnvelope),
      (∃ c, make client table input = .ok c) ↔ (input.map (·.id)).Nodup) ∧
    (∀ (client : ServiceClient) (table : String) (input : List WriteEnvelope) (err : BatchError),
      make client table input = .error err ↔
        ∃ before e after, input = before ++ e :: after ∧ (before.map (·.id)).Nodup ∧
          e.id ∈ before.map (·.id) ∧ err = .duplicateRequestId e.id) ∧
    ∀ (input : List WriteEnvelope) (c : Coordinator) (ids : List String), Between input c ids →
      (c.pendingIds ++ c.resolved ++ c.skipped.map (·.requestId)).Nodup ∧
      (c.pendingIds ++ c.resolved ++ c.skipped.map (·.requestId)).Perm (input.map (·.id)) ∧
      c.pending = (input.filter fun e => c.isPending e.id).map (fun e => (e.id, e)) ∧
      ∀ (ex : Exchange),
        ∀ req ∈ ((runRound ids).exec { c with rounds := c.rounds + 1 } ex).2.sent.toList.drop ex.sent.size,
          req.url = c.client.endpoint.batchUrl →
          ∃ batchId, req.body = .json (BatchEnvelope.toJson ⟨batchId, input.filter fun e => c.isPending e.id⟩) := by
  refine ⟨fun client table _ => make_ok_iff client table, fun client table _ err => make_error_iff client table err, ?_⟩
  intro input c ids between
  have ready := between.ready
  obtain ⟨distinct, partition⟩ := ready.accounts.partition
  rw [settledIds, ← List.append_assoc] at distinct partition
  exact ⟨distinct, partition, ready.accounts.pending_eq, ready.round_requests⟩

theorem two_writes_accounted_for_after_unserviced_round :
    let client := ServiceClient.make (Endpoint.make "dev") ⟨"client", "secret", "user", "password"⟩
      RetryPolicy.forBatch
    let input : List WriteEnvelope :=
      [⟨"r1", "/api/now/table/incident", .post, [], "first", true⟩,
       ⟨"r2", "/api/now/table/incident", .post, [], "second", true⟩]
    let unserviced := Exchange.make [] [.fixed (.ok (HttpResponse.make 200
      "\x7b\"batch_request_id\":\"b\",\"serviced_requests\":[],\"unserviced_requests\":[\"r1\",\"r2\"]\x7d"))]
    ∃ c c' next ex', make client "incident" input = .ok c ∧
      (runRound c.pendingIds).exec { c with rounds := c.rounds + 1 } unserviced = ((.ok next, c'), ex') ∧
      (c'.pendingIds ++ c'.resolved ++ c'.skipped.map (·.requestId)).Nodup ∧
      (c'.pendingIds ++ c'.resolved ++ c'.skipped.map (·.requestId)).Perm (input.map (·.id)) ∧
      c'.pending = (input.filter fun e => c'.isPending e.id).map (fun e => (e.id, e)) ∧
      ∀ (ex : Exchange),
        ∀ req ∈ ((runRound next).exec { c' with rounds := c'.rounds + 1 } ex).2.sent.toList.drop
            ex.sent.size,
          req.url = c'.client.endpoint.batchUrl →
          ∃ batchId, req.body = .json (BatchEnvelope.toJson ⟨batchId, input.filter fun e => c'.isPending e.id⟩) := by
  intro client input unserviced
  have distinct : (input.map (·.id)).Nodup := by decide
  have made := make_of_nodup client "incident" distinct
  -- the coordinator `make` builds, with its first round counted
  obtain ⟨start, started⟩ : ∃ c : Coordinator, c =
      { client := client, table := "incident", retry := RetryPolicy.forBatch, maxRounds := defaultMaxRounds,
        order := input.map (·.id), pending := input.map fun e => (e.id, e), resolved := [], skipped := [],
        rounds := 1 } := ⟨_, rfl⟩
  have answered : ((runRound (input.map (·.id))).exec start unserviced).1.1.isOk = true := by
    rw [started]
    decide +kernel
  rcases run : (runRound (input.map (·.id))).exec start unserviced with ⟨⟨result, c'⟩, ex'⟩
  rw [run] at answered
  subst started
  cases result with
  | error e => cases answered
  | ok next =>
    have between : Between input c' next := Between.round (Between.made made) run
    exact ⟨_, c', next, ex', made, run, batch_write_loses_and_repeats_nothing.2.2 input c' next between⟩

end Coordinator

end TableSync
