/-
# ChunkVault.Proofs.Deciding -- the call that decides an operation

Each of the four operations makes one call that settles what comes of it: the commit or the rollback of a
transaction, the look-up of a file, the update of its metadata. Until then nothing is settled, and
afterwards nothing is left but to count the run (`Operation.decidesLast`). So the answer of an operation is
known when that call has been answered, and no operation decides twice.
-/
import ChunkVault.Proofs.Operations

namespace ChunkVault

open Program

/-! ## One deciding call -/

/-- Whether a call settles what comes of its operation. -/
def Request.decides : Request → Bool
  | commit _ | rollback _ | findFile _ | updateMetadata .. => true
  | _ => false

/-- Whether a query is such a call. -/
def Query.decides : Query → Bool
  | call q | race _ q => q.decides
  | fired _ | wait _ | fire _ | count .. => false

namespace Program

variable {α β : Type} {p : Program α} {q : Query} {resume : q.Answer → Program α}

/-- Nothing is left but to count, and the operation ends with `v`. -/
inductive Concludes (v : α) : Program α → Prop
  | done : Concludes v (.done v)
  | count {method : Method} {failed : Bool} {resume : Unit → Program α} (h : Concludes v (resume ())) :
      Concludes v (.ask (.count method failed) resume)

/-- After the first deciding query nothing is left but to count. -/
def DecidesLast : Program α → Prop
  | done _ => True
  | ask q resume =>
    if q.decides then ∀ a, ∃ v, Concludes v (resume a) else ∀ a, (resume a).DecidesLast

theorem Concludes.next {v : α} (h : Concludes v (ask q resume)) (a : q.Answer) : Concludes v (resume a) := by
  cases h with
  | count h => exact h

/-- What is concluded ends in one way only, and without a call. -/
theorem Concludes.ends {v r : α} {es : List Exchange} (h : Concludes v p) (hrun : p.Ends es r) :
    r = v ∧ ∀ x ∈ es, ∃ method failed, x = ⟨.count method failed, ()⟩ := by
  induction h generalizing es with
  | done =>
    obtain ⟨rfl, rfl⟩ := hrun
    exact ⟨rfl, fun x hx => absurd hx List.not_mem_nil⟩
  | @count method failed resume h ih =>
    obtain ⟨a, rest, rfl, hrun⟩ := hrun
    obtain ⟨hr, hrest⟩ := ih hrun
    refine ⟨hr, fun x hx => ?_⟩
    rcases List.mem_cons.mp hx with rfl | hx
    · exact ⟨method, failed, rfl⟩
    · exact hrest x hx

theorem Concludes.counted {method : Method} {r : Except StorageError α}
    {p : Program (Except StorageError α)} (h : Concludes r p) : Concludes r (counted method p) := by
  unfold Program.counted
  induction h with
  | done => exact .count .done
  | count _ ih => exact .count ih

/-- **Counting comes after the decision.** -/
theorem DecidesLast.counted {method : Method} {p : Program (Except StorageError α)} (h : p.DecidesLast) :
    (counted method p).DecidesLast := by
  induction p with
  | done r => exact fun _ => trivial
  | ask q resume ih =>
    show DecidesLast (ask q fun a => Program.counted method (resume a))
    unfold DecidesLast at h ⊢
    split
    · next hq =>
      rw [if_pos hq] at h
      intro a
      obtain ⟨v, hv⟩ := h a
      exact ⟨v, hv.counted⟩
    · next hq =>
      rw [if_neg hq] at h
      exact fun a => ih a (h a)

/-- **A sequence decides last** if its first part decides nothing and its second part decides last. -/
theorem DecidesLast.bind {f : α → Program β} (hp : p.Asks fun q => q.decides = false)
    (hf : ∀ a, (f a).DecidesLast) : (p.bind f).DecidesLast := by
  induction p with
  | done a => exact hf a
  | ask q resume ih =>
    show DecidesLast (ask q fun a => (resume a).bind f)
    unfold DecidesLast
    rw [if_neg (ne_true_of_eq_false hp.1)]
    exact fun a => ih a (hp.2 a)

end Program

/-! ## The upload decides nothing -/

/-- What an upload with this token asks, from a source that ends like this: how things stand with the token,
calls that decide nothing and are raced against it, and whatever its source fires. It waits for the token only if
the source stalls. -/
inductive Query.Uploads (token : Token) (ending : SourceEnd) : Query → Prop
  | race {q : Request} (hq : q.decides = false) : Uploads token ending (.race token q)
  | fired : Uploads token ending (.fired token)
  | wait (hstalled : ending = .stalled) : Uploads token ending (.wait token)
  | fire (names : List String) : Uploads token ending (.fire names)

theorem Query.Uploads.decides {token : Token} {ending : SourceEnd} {q : Query} (h : q.Uploads token ending) :
    q.decides = false := by
  cases h with
  | race hq => exact hq
  | fired => rfl
  | wait hstalled => rfl
  | fire names => rfl

section Asks

/-! What the taking of a fill asks, by the queries that it is made of. -/

variable {Q : Query → Prop}

theorem fire_asks (hfire : ∀ names, Q (.fire names)) (names : List String) : (fire names).Asks Q := by
  unfold fire
  split
  · exact trivial
  · exact ⟨hfire names, fun _ => trivial⟩

variable (token : Token)

theorem waitOut_asks (hfired : Q (.fired token)) (hfire : ∀ names, Q (.fire names))
    (pauses : List (List String)) : (waitOut token pauses).Asks Q := by
  induction pauses with
  | nil => exact trivial
  | cons fires pauses ih =>
    refine (fire_asks hfire fires).bind fun _ => ⟨hfired, fun b => ?_⟩
    cases b with
    | true => exact trivial
    | false => exact ih

theorem pull_asks (hfired : Q (.fired token)) (hfire : ∀ names, Q (.fire names)) {fill : Fill}
    (hwait : fill.result = .stalled → Q (.wait token)) : (pull token fill).Asks Q := by
  refine ⟨hfired, fun b => ?_⟩
  cases b with
  | true => exact trivial
  | false =>
    refine (waitOut_asks token hfired hfire fill.pauses).bind fun w => ?_
    cases w with
    | error e => exact trivial
    | ok u =>
      refine (fire_asks hfire fill.fires).bind fun _ => ?_
      cases hresult : fill.result with
      | filled content => exact trivial
      | failed e => exact trivial
      | stalled => exact ⟨hwait hresult, fun _ => trivial⟩

theorem writeChunks_asks {ending : SourceEnd} (tx : TxId) (file : Uuid) {fills : List Fill}
    (hfills : ∀ fill ∈ fills, fill.result = .stalled → ending = .stalled) (written : Written) :
    (writeChunks token tx file fills written).Asks (Query.Uploads token ending) := by
  induction fills generalizing written with
  | nil => exact trivial
  | cons fill rest ih =>
    have hwait (hstalled : fill.result = .stalled) : Query.Uploads token ending (.wait token) :=
      .wait (hfills fill List.mem_cons_self hstalled)
    refine (pull_asks token .fired .fire hwait).bind fun taken => ?_
    cases taken with
    | error e => exact trivial
    | ok content =>
      dsimp only
      split
      · exact trivial
      · refine (Asks.race (.race rfl)).bind fun o => ?_
        cases o with
        | error e => exact trivial
        | ok id =>
          dsimp only
          split
          · exact trivial
          · exact ih (fun f hf => hfills f (List.mem_cons_of_mem _ hf)) _

theorem writeFile_asks (tx : TxId) (source : Source) :
    (writeFile token tx source).Asks (Query.Uploads token source.ending) := by
  refine (Asks.race (.race rfl)).bind fun o => ?_
  cases o with
  | error e => exact trivial
  | ok file =>
    refine (writeChunks_asks token tx file (fun _ => Source.ending_of_stalled) .empty).bind fun w => ?_
    cases w with
    | error e => exact trivial
    | ok written =>
      refine (Asks.race (.race rfl)).bind fun o => ?_
      cases o <;> exact trivial

end Asks

/-! ## The operations decide once -/

theorem abandon_decidesLast {α : Type} (tx : TxId) (v : α) :
    ((Storage.abandon tx).bind fun _ => .done v).DecidesLast := by
  unfold DecidesLast
  exact fun o => ⟨v, .done⟩

theorem settle_decidesLast {α : Type} (tx : TxId) (value : α) : (Storage.settle tx value).DecidesLast := by
  refine fun o => ?_
  cases o with
  | ok u => exact ⟨_, .done⟩
  | error e => exact ⟨_, .done⟩

theorem save_decidesLast (token : Token) (source : Source) : (Storage.save token source).DecidesLast := by
  refine DecidesLast.counted (DecidesLast.bind (Asks.race rfl) fun o => ?_)
  cases o with
  | error e => exact trivial
  | ok tx =>
    refine DecidesLast.bind ((writeFile_asks token tx source).mono fun _ hq => hq.decides) fun w => ?_
    cases w with
    | error e => exact abandon_decidesLast tx _
    | ok file =>
      refine fun b => ?_
      cases b with
      | true => exact abandon_decidesLast tx _
      | false => exact settle_decidesLast tx file

theorem open_decidesLast (token : Token) (id : Uuid) : (Storage.open token id).DecidesLast := by
  refine DecidesLast.counted fun race => ?_
  cases race with
  | refused => exact ⟨_, .done⟩
  | abandoned => exact ⟨_, .done⟩
  | finished o =>
    cases o with
    | error e => exact ⟨_, .done⟩
    | ok found => cases found <;> exact ⟨_, .done⟩

theorem setMetadata_decidesLast (id : Uuid) (data : Bytes) : (Storage.setMetadata id data).DecidesLast := by
  refine DecidesLast.counted fun o => ?_
  cases o with
  | error e => exact ⟨_, .done⟩
  | ok rows =>
    simp only [done_bind]
    split <;> exact ⟨_, .done⟩

theorem delete_decidesLast (id : Uuid) : (Storage.delete id).DecidesLast := by
  refine DecidesLast.counted (DecidesLast.bind (Asks.call rfl) fun o => ?_)
  cases o with
  | error e => exact trivial
  | ok tx =>
    refine DecidesLast.bind (removeRows_asks rfl rfl) fun w => ?_
    cases w with
    | error e => exact abandon_decidesLast tx _
    | ok u => exact settle_decidesLast tx ()

/-- **Every operation decides once**, and does nothing but count after that. -/
theorem Operation.decidesLast (op : Operation) : op.program.DecidesLast := by
  cases op with
  | save token source => exact save_decidesLast token source
  | «open» token id => exact open_decidesLast token id
  | setMetadata id data => exact setMetadata_decidesLast id data
  | delete id => exact delete_decidesLast id

end ChunkVault
