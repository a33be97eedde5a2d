import ClassSync.Basic

/-!
# Task — a producer task, its output channel and what it does

Every streaming function of the sync runs as a task (`tokio::spawn`, `spawn_blocking`) that
pulls from its inputs, queries storage and sends into a bounded `mpsc` channel whose
receiving end a later stage owns. We record a run of such a task as the list of its
observable actions and the way it ended.

The consumer may drop the receiving end at any moment. From the producer's side that is
one number: how many more items its sends deliver before every later send fails. A
`Sender` holds that number (`none` while the receiver is never dropped); quantifying over
it quantifies over every point at which the receiver can go away.
-/

namespace ClassSync

/-- The sending half of an `mpsc` channel, from the producer's side. -/
structure Sender where
  accepts : Option Nat
  deriving DecidableEq, Repr

namespace Sender

/-- A channel whose receiver is never dropped. -/
def alive : Sender := ⟨none⟩

/-- `send` / `blocking_send`: whether the item reached the receiver, and the sender after. -/
def send : Sender → Bool × Sender
  | ⟨none⟩ => (true, ⟨none⟩)
  | ⟨some (n + 1)⟩ => (true, ⟨some n⟩)
  | ⟨some 0⟩ => (false, ⟨some 0⟩)

@[simp] theorem send_alive : alive.send = (true, alive) := rfl

end Sender

/-- One observable action of a producer task. -/
inductive Event (α : Type)
  /-- `next()` on one of its input streams. -/
  | pull
  /-- `declared_classes_at(b)` on its database transaction. -/
  | query (b : BlockNumber)
  /-- A send of `x`; `delivered` is false once the receiver is gone. -/
  | send (x : α) (delivered : Bool)
  deriving DecidableEq

/-- How a task ended. -/
inductive Outcome
  /-- It returned `()` (or `Ok(())`). -/
  | ok
  /-- It returned an `anyhow` error. -/
  | err (e : AnyhowError)
  /-- It panicked with this message. -/
  | panic (msg : String)
  deriving DecidableEq, Repr

/-- A whole run of a task. -/
structure Run (α : Type) where
  trace : List (Event α)
  outcome : Outcome

namespace Event

variable {α : Type}

/-- The item a delivered send hands to the receiver. -/
def delivered? : Event α → Option α
  | send x true => some x
  | _ => none

@[simp] theorem delivered?_pull : (pull : Event α).delivered? = none := rfl
@[simp] theorem delivered?_query (b : BlockNumber) : (query b : Event α).delivered? = none := rfl
@[simp] theorem delivered?_send (x : α) (d : Bool) :
    (send x d).delivered? = if d then some x else none := by
  cases d <;> rfl

/-- The block a query asks about. -/
def query? : Event α → Option BlockNumber
  | query b => some b
  | _ => none

@[simp] theorem query?_pull : (pull : Event α).query? = none := rfl
@[simp] theorem query?_query (b : BlockNumber) : (query b : Event α).query? = some b := rfl
@[simp] theorem query?_send (x : α) (d : Bool) : (send x d).query? = none := rfl

/-- A send that found the receiver gone. -/
def IsFailedSend : Event α → Prop
  | send _ false => True
  | _ => False

@[simp] theorem isFailedSend_pull : ¬ (pull : Event α).IsFailedSend := not_false
@[simp] theorem isFailedSend_query (b : BlockNumber) : ¬ (query b : Event α).IsFailedSend :=
  not_false
@[simp] theorem isFailedSend_send (x : α) (d : Bool) : (send x d).IsFailedSend ↔ d = false := by
  cases d <;> simp [IsFailedSend]

end Event

namespace Run

variable {α : Type}

/-- What the receiving end gets: the items of the delivered sends, in order. -/
def output (r : Run α) : List α := r.trace.filterMap Event.delivered?

/-- The blocks the task queried, in order. -/
def queries (r : Run α) : List BlockNumber := r.trace.filterMap Event.query?

end Run

/-! ## Meeting a dropped receiver -/

section StopsAtFailedSend

variable {α : Type}

/-- The first send among the actions `t` that fails, if one does, is the last of them, and
then `ended` holds. A task whose run satisfies this stops at the failed send: it queries,
pulls and sends nothing after it. -/
def StopsAtFailedSend (t : List (Event α)) (ended : Prop) : Prop :=
  (∀ e ∈ t, ¬ e.IsFailedSend) ∨
    ∃ pre x, t = pre ++ [.send x false] ∧ (∀ e ∈ pre, ¬ e.IsFailedSend) ∧ ended

theorem StopsAtFailedSend.append_left {t₁ t : List (Event α)} {ended : Prop}
    (h₁ : ∀ e ∈ t₁, ¬ e.IsFailedSend) (h : StopsAtFailedSend t ended) :
    StopsAtFailedSend (t₁ ++ t) ended := by
  have hall : ∀ {t₂ : List (Event α)}, (∀ e ∈ t₂, ¬ e.IsFailedSend) →
      ∀ e ∈ t₁ ++ t₂, ¬ e.IsFailedSend := fun h₂ e he =>
    (List.mem_append.mp he).elim (h₁ e) (h₂ e)
  rcases h with h | ⟨pre, x, rfl, hpre, hend⟩
  · exact .inl (hall h)
  · exact .inr ⟨t₁ ++ pre, x, (List.append_assoc _ _ _).symm, hall hpre, hend⟩

theorem StopsAtFailedSend.cons {e : Event α} {t : List (Event α)} {ended : Prop}
    (he : ¬ e.IsFailedSend) (h : StopsAtFailedSend t ended) :
    StopsAtFailedSend (e :: t) ended :=
  @StopsAtFailedSend.append_left _ [e] t ended (by simpa using he) h

theorem StopsAtFailedSend.mono {t : List (Event α)} {P Q : Prop} (h : StopsAtFailedSend t P)
    (hPQ : P → Q) : StopsAtFailedSend t Q :=
  h.imp_right fun ⟨pre, x, ht, hpre, hP⟩ => ⟨pre, x, ht, hpre, hPQ hP⟩

/-- A run stops at its first failed send, and then ends with `onFail`. -/
def Run.StopsAtFailedSend (r : Run α) (onFail : Outcome) : Prop :=
  ClassSync.StopsAtFailedSend r.trace (r.outcome = onFail)

end StopsAtFailedSend

@[simp] theorem filterMap_delivered_send_true {α : Type} (x : α) (t : List (Event α)) :
    (Event.send x true :: t).filterMap Event.delivered? = x :: t.filterMap Event.delivered? :=
  rfl

@[simp] theorem filterMap_delivered_pull {α : Type} (t : List (Event α)) :
    (Event.pull :: t).filterMap Event.delivered? = t.filterMap Event.delivered? := rfl

@[simp] theorem filterMap_delivered_query {α : Type} (b : BlockNumber) (t : List (Event α)) :
    (Event.query b :: t).filterMap Event.delivered? = t.filterMap Event.delivered? := rfl

end ClassSync
