/-
# ChunkVault.Proofs.Operations -- the four operations and the calls that they make

Saving and deleting are one transaction each; opening and annotating make point calls and no others. What
the four have in common is said by `Operation.nextCall`: whatever an operation has called so far, its next
call is one that `NextCall` allows. In particular it commits nothing but a whole upload or a whole
removal.
-/
import ChunkVault.Proofs.Transacted

namespace ChunkVault

open Program

/-- One of the four operations, with its arguments. -/
inductive Operation where
  | save (token : Token) (source : Source)
  | «open» (token : Token) (id : Uuid)
  | setMetadata (id : Uuid) (data : Bytes)
  | delete (id : Uuid)

namespace Operation

/-- What an operation that succeeds answers. -/
@[reducible] def Value : Operation → Type
  | save .. => Uuid
  | «open» .. => StoredFile
  | setMetadata .. | delete _ => Unit

/-- The operation as a program. -/
def program : (op : Operation) → Program (Except StorageError op.Value)
  | save token source => Storage.save token source
  | «open» token id => Storage.open token id
  | setMetadata id data => Storage.setMetadata id data
  | delete id => Storage.delete id

end Operation

/-- A whole change of the committed rows: an upload or a removal. -/
def WholeChange (tx : TxId) (l : List CallRecord) : Prop :=
  (∃ source, WholeUpload source tx l) ∨ ∃ id, WholeRemoval id tx l

/-! ## Operations without a transaction -/

/-- Whether a query, if it is a call, is a point call. -/
def Query.IsPoint : Query → Prop
  | .call q | .race _ q => q.isPoint = true
  | .fired _ | .wait _ | .fire _ | .count .. => True

theorem Exchange.isPoint_of_call? {x : Exchange} {c : CallRecord} (hx : x.query.IsPoint)
    (hc : x.call? = some c) : c.request.isPoint = true := by
  obtain ⟨query, answer⟩ := x
  cases query with
  | call q =>
    obtain rfl := Option.some.inj hc
    exact hx
  | race token q =>
    cases answer with
    | refused => cases hc
    | abandoned =>
      obtain rfl := Option.some.inj hc
      exact hx
    | finished o =>
      obtain rfl := Option.some.inj hc
      exact hx
  | fired token => cases hc
  | wait token => cases hc
  | fire names => cases hc
  | count method failed => cases hc

/-- **Opening a file asks for its row**, and nothing else. -/
theorem open_asks_only {Q : Query → Prop} {token : Token} {id : Uuid} (hfind : Q (.race token (.findFile id)))
    (hcount : ∀ failed, Q (.count .open failed)) : (Storage.open token id).Asks Q := by
  refine Asks.counted ((Asks.race hfind).bind fun o => ?_) hcount
  split <;> exact trivial

/-- **Annotating a file asks for one call**, and nothing else. -/
theorem setMetadata_asks_only {Q : Query → Prop} {id : Uuid} {data : Bytes}
    (hcall : Q (.call (.updateMetadata id (some data)))) (hcount : ∀ failed, Q (.count .setMetadata failed)) :
    (Storage.setMetadata id data).Asks Q := by
  refine Asks.counted ((Asks.call hcall).bind fun o => ?_) hcount
  split
  · exact trivial
  · split <;> exact trivial

theorem open_asks (token : Token) (id : Uuid) : (Storage.open token id).Asks Query.IsPoint :=
  open_asks_only rfl fun _ => trivial

theorem setMetadata_asks (id : Uuid) (data : Bytes) : (Storage.setMetadata id data).Asks Query.IsPoint :=
  setMetadata_asks_only rfl fun _ => trivial

/-- All calls of a run that asks nothing but point calls are point calls. -/
theorem isPoint_of_calls {es : List Exchange} (hes : ∀ x ∈ es, x.query.IsPoint) {c : CallRecord}
    (hc : c ∈ calls es) : c.request.isPoint = true := by
  obtain ⟨x, hx, hcall⟩ := List.mem_filterMap.mp hc
  exact Exchange.isPoint_of_call? (hes x hx) hcall

/-! ## What a delete asks -/

theorem abandon_asks {Q : Query → Prop} {tx : TxId} (hrollback : Q (.call (.rollback tx))) :
    (Storage.abandon tx).Asks Q := (Asks.call hrollback).bind fun _ => trivial

theorem settle_asks {Q : Query → Prop} {α : Type} {tx : TxId} {value : α} (hcommit : Q (.call (.commit tx))) :
    (Storage.settle tx value).Asks Q := by
  refine (Asks.call hcommit).bind fun o => ?_
  cases o <;> exact trivial

theorem removeRows_asks {Q : Query → Prop} {tx : TxId} {id : Uuid} (hchunks : Q (.call (.deleteChunks tx id)))
    (hfile : Q (.call (.deleteFile tx id))) : (Storage.removeRows tx id).Asks Q := by
  refine (Asks.call hchunks).bind fun o => ?_
  cases o with
  | error e => exact trivial
  | ok chunks =>
    refine (Asks.call hfile).bind fun o => ?_
    cases o <;> exact trivial

/-- Whether a query can come from a delete: a call of its one transaction, or the counting of the run. -/
def Query.Removes : Query → Prop
  | .call .begin | .call (.deleteChunks ..) | .call (.deleteFile ..) | .call (.commit _) | .call (.rollback _)
  | .count .. => True
  | _ => False

theorem delete_asks (id : Uuid) : (Storage.delete id).Asks Query.Removes := by
  refine Asks.counted ((Asks.call trivial).bind fun o => ?_) fun _ => trivial
  cases o with
  | error e => exact trivial
  | ok tx =>
    refine (removeRows_asks trivial trivial).bind fun w => ?_
    cases w with
    | error e => exact (abandon_asks trivial).bind fun _ => trivial
    | ok u => exact settle_asks trivial

/-! ## The next call of an operation -/

/-- **What an operation may call next**, after the calls that it has made. -/
theorem Operation.nextCall {op : Operation} {es fs : List Exchange} {x : Exchange} {c : CallRecord}
    {r : Except StorageError op.Value} (h : op.program.Ends (es ++ x :: fs) r)
    (hc : x.call? = some c) : NextCall WholeChange (calls es) c := by
  have hcalls : calls (es ++ x :: fs) = calls es ++ c :: calls fs := by
    rw [calls_append, calls_cons, hc]
    rfl
  -- an operation that asks nothing else makes point calls only, the next one included
  have hpoint : op.program.Asks Query.IsPoint → NextCall WholeChange (calls es) c := fun hasks => by
    have hall := fun d => @isPoint_of_calls _ (hasks.queries h) d
    rw [hcalls] at hall
    exact .point (fun d hd => hall d (List.mem_append_left _ hd))
      (hall c (List.mem_append_right _ List.mem_cons_self))
  cases op with
  | save token source =>
    have htransacted := save_transacted h
    rw [hcalls] at htransacted
    exact (htransacted.mono fun tx l hl => .inl ⟨source, hl⟩).next
  | «open» token id => exact hpoint (open_asks token id)
  | setMetadata id data => exact hpoint (setMetadata_asks id data)
  | delete id =>
    have htransacted := delete_transacted h
    rw [hcalls] at htransacted
    exact (htransacted.mono fun tx l hl => .inr ⟨id, hl⟩).next

end ChunkVault
