import ClassSync.Task
import ClassSync.Matcher.Cursor

/-!
# Stream — `verify_declared_at`

The task behind `verify_declared_at`, as the source writes it: an outer `while let` over the
expectations, an inner `loop` over the classes of one block through the dechunker, a send
of each checked class, and a return after the first error. A run records every pull, every
send and how the task ended.

Two places are modelled as they execute rather than as they read. On an error pulled from
`expected_declarations` the source writes `_ = tx.send(Err(e.into()))`: that builds the
send's future and drops it unpolled, so nothing is sent. On the class path,
`tx.send(res).await.expect(..)` panics when the receiver is gone.

`verifyDeclaredAt_output` connects this model to `Cursor.run`: with a receiver that stays,
and chunks that are non-empty, the task sends exactly the cursor's output over the
flattened class stream and returns normally. `whileLoop_stopsAtFailedSend` covers every other
receiver: the task stops at its first failed send.
-/

namespace ClassSync

/-- The closure given to `maybe_class.and_then`: the item to send, and `declared` after its
`remove`. -/
def checkDeclared (declaredAt : BlockNumber) (declared : Finset ClassHash) :
    Item → Item × Finset ClassHash
  | .error e => (.error e, declared)
  | .ok cls =>
    match declaredCheck declaredAt declared cls.data.blockNumber cls.data.hash with
    | some declared' => (.ok cls, declared')
    | none => (.error (.unexpectedClass cls.peer), declared)

/-- How the inner `loop` is left: the task ends, or the `while let` goes on from here. -/
abbrev LoopExit := Outcome ⊕ (ClassDechunker × ClassStream × Sender)

/-- The inner `loop` of `verify_declared_at` for the block `declaredAt`. -/
def declaredLoop (declaredAt : BlockNumber) (declared : Finset ClassHash)
    (dechunker : ClassDechunker) (classes : ClassStream) (tx : Sender) :
    List (Event Item) × LoopExit :=
  if declared = ∅ then ([], .inr (dechunker, classes, tx))
  else
    let pulled : List (Event Item) := if dechunker.buffer = [] then [.pull] else []
    match h : dechunker.next classes with
    | .none => (pulled, .inl .ok)
    | .panic msg => (pulled, .inl (.panic msg))
    | .some maybeClass dechunker' classes' =>
      let (res, declared') := checkDeclared declaredAt declared maybeClass
      match tx.send with
      | (false, _) => (pulled ++ [.send res false], .inl (.panic "Receiver not to be dropped"))
      | (true, tx') =>
        match res with
        | .error _ => (pulled ++ [.send res true], .inl .ok)
        | .ok _ =>
          let (t, exit) := declaredLoop declaredAt declared' dechunker' classes' tx'
          (pulled ++ .send res true :: t, exit)
termination_by dechunker.pending classes
decreasing_by exact ClassDechunker.next_pending_lt h

/-- The outer `while let Some(expected) = expected_declarations.next().await`. -/
def whileLoop : ExpectedStream → ClassDechunker → ClassStream → Sender → Run Item
  | [], _, _, _ => ⟨[.pull], .ok⟩
  -- `_ = tx.send(Err(e.into()))`: the future is dropped unpolled, nothing is sent
  | .error _ :: _, _, _, _ => ⟨[.pull], .ok⟩
  | .ok (declaredAt, declared) :: rest, dechunker, classes, tx =>
    match declaredLoop declaredAt declared dechunker classes tx with
    | (t, .inl outcome) => ⟨.pull :: t, outcome⟩
    | (t, .inr (dechunker', classes', tx')) =>
      let r := whileLoop rest dechunker' classes' tx'
      ⟨.pull :: t ++ r.trace, r.outcome⟩

/-- `verify_declared_at(expected_declarations, classes)`, its output channel's receiver
behaving as `tx` says. -/
def verifyDeclaredAt (expectedDeclarations : ExpectedStream) (classes : ClassStream)
    (tx : Sender) : Run Item :=
  whileLoop expectedDeclarations ClassDechunker.new classes tx

/-- An error among the expectations ends the outer loop as the end of the expectations does:
it is not sent, and nothing after it is pulled. -/
theorem whileLoop_append_error (e : AnyhowError) (rest : ExpectedStream) :
    ∀ (expected : ExpectedStream) (d : ClassDechunker) (classes : ClassStream) (tx : Sender),
      whileLoop (expected ++ .error e :: rest) d classes tx = whileLoop expected d classes tx
  | [], _, _, _ => rfl
  | .error _ :: _, _, _, _ => rfl
  | .ok (declaredAt, declared) :: expected, d, classes, tx => by
    simp only [List.cons_append, whileLoop, List.append_eq, whileLoop_append_error e rest expected]

/-! ## With a receiver that stays, the task computes `Cursor.run` -/

section Alive

variable (expected : ExpectedStream) (declaredAt : BlockNumber)

/-- `pulled` events carry no item. -/
@[simp] theorem filterMap_pulled (d : ClassDechunker) :
    (if d.buffer = [] then [Event.pull] else []).filterMap (@Event.delivered? Item) = [] := by
  split <;> rfl

/-- One block's inner loop, alive receiver and non-empty chunks: it either ends the task
normally having sent the cursor's whole output, or breaks with the cursor's output so far and
a state whose remaining output is the rest. -/
theorem declaredLoop_alive (declared : Finset ClassHash) (d : ClassDechunker)
    (classes : ClassStream) (hne : ChunksNonEmpty classes) :
    (∃ t, declaredLoop declaredAt declared d classes .alive = (t, .inl .ok) ∧
      t.filterMap Event.delivered? =
        Cursor.run ⟨declaredAt, declared, expected⟩ (d.remaining classes)) ∨
    (∃ t d' cs', declaredLoop declaredAt declared d classes .alive = (t, .inr (d', cs', .alive)) ∧
      ChunksNonEmpty cs' ∧
      t.filterMap Event.delivered? ++ Cursor.run ⟨declaredAt, ∅, expected⟩ (d'.remaining cs') =
        Cursor.run ⟨declaredAt, declared, expected⟩ (d.remaining classes)) := by
  induction' hm : d.pending classes using Nat.strong_induction_on with n ih
    generalizing declared d classes
  rw [declaredLoop]
  by_cases hS : declared = ∅
  · subst hS
    exact .inr ⟨[], d, classes, by simp, hne, rfl⟩
  have hcur : Cursor.refill ⟨declaredAt, declared, expected⟩ = some ⟨declaredAt, declared, expected⟩ :=
    Cursor.refill_of_ne_empty hS
  rcases hrem : d.remaining classes with _ | ⟨x, rest⟩
  · have hnext := ClassDechunker.next_of_remaining_nil hne hrem
    refine .inl ⟨if d.buffer = [] then [.pull] else [], ?_, ?_⟩
    · simp only [hS, if_false]
      split
      · rfl
      · simp_all
      · simp_all
    · simp [Cursor.run]
  obtain ⟨d', cs', hnext, rfl, hne'⟩ := ClassDechunker.next_of_remaining_cons hne hrem
  have hlt : d'.pending cs' < n := hm ▸ ClassDechunker.next_pending_lt hnext
  simp only [hS, if_false]
  split
  · simp_all
  · simp_all
  rename_i x' d'' cs'' heq
  rw [hnext] at heq
  cases heq
  rcases x with e | c
  · refine .inl ⟨_, rfl, ?_⟩
    simp [checkDeclared, Cursor.run, hcur]
  set pulled : List (Event Item) := if d.buffer = [] then [.pull] else []
  rcases hd : declaredCheck declaredAt declared c.data.blockNumber c.data.hash with _ | S'
  · refine .inl ⟨pulled ++ [.send (.error (.unexpectedClass c.peer)) true], ?_, ?_⟩
    · simp [checkDeclared, hd]
    · simp [pulled, Cursor.run, Cursor.check, hcur, hd]
  have hacc : checkDeclared declaredAt declared (.ok c) = (.ok c, S') := by
    simp [checkDeclared, hd]
  have hrun : Cursor.run ⟨declaredAt, declared, expected⟩ (.ok c :: d'.remaining cs') =
      .ok c :: Cursor.run ⟨declaredAt, S', expected⟩ (d'.remaining cs') := by
    simp [Cursor.run, Cursor.check, hcur, hd]
  rcases ih _ hlt S' d' cs' hne' rfl with ⟨t, ht, hout⟩ | ⟨t, d'', cs'', ht, hne'', hout⟩
  · refine .inl ⟨pulled ++ .send (.ok c) true :: t, by simp [hacc, ht], ?_⟩
    simp [pulled, hrun, hout]
  · refine .inr ⟨pulled ++ .send (.ok c) true :: t, d'', cs'', by simp [hacc, ht], hne'', ?_⟩
    simp [pulled, hrun, hout]

/-- The outer loop, alive receiver and non-empty chunks: it sends the output of the cursor
that has nothing left to expect at its current block, and returns normally. -/
theorem whileLoop_alive (d : ClassDechunker) (classes : ClassStream)
    (hne : ChunksNonEmpty classes) :
    (whileLoop expected d classes .alive).output =
        Cursor.run ⟨declaredAt, ∅, expected⟩ (d.remaining classes) ∧
      (whileLoop expected d classes .alive).outcome = .ok := by
  induction expected generalizing declaredAt d classes with
  | nil => simp [whileLoop, Run.output, Cursor.run_of_refill_none, advance]
  | cons e rest ih =>
    rcases e with err | ⟨b, S⟩
    · simp [whileLoop, Run.output, Cursor.run_of_refill_none, advance]
    have hpull : Cursor.run ⟨declaredAt, ∅, .ok (b, S) :: rest⟩ = Cursor.run ⟨b, S, rest⟩ :=
      funext (Cursor.run_congr_refill Cursor.refill_pull)
    rcases declaredLoop_alive rest b S d classes hne with
      ⟨t, ht, hout⟩ | ⟨t, d', cs', ht, hne', hout⟩
    · simp [whileLoop, ht, Run.output, hpull, hout]
    · obtain ⟨ih₁, ih₂⟩ := ih b d' cs' hne'
      simp only [Run.output] at ih₁
      simp [whileLoop, ht, Run.output, hpull, ih₁, ih₂, ← hout]

end Alive

/-- With a receiver that stays and non-empty chunks, `verify_declared_at` sends the cursor's
output over the flattened class stream, and its task returns normally. -/
theorem verifyDeclaredAt_output (expected : ExpectedStream) (classes : ClassStream)
    (hne : ChunksNonEmpty classes) :
    (verifyDeclaredAt expected classes .alive).output =
        (Cursor.initial expected).run (flatten classes) ∧
      (verifyDeclaredAt expected classes .alive).outcome = .ok := by
  simpa using whileLoop_alive expected default ClassDechunker.new classes hne

/-! ## With any receiver, the task stops at the first failed send -/

/-- `pulled` events are pulls. -/
theorem pulled_not_failed (d : ClassDechunker) :
    ∀ e ∈ (if d.buffer = [] then [Event.pull] else [] : List (Event Item)), ¬ e.IsFailedSend := by
  split <;> simp

/-- One block's inner loop stops at its first failed send, by panicking. -/
theorem declaredLoop_stopsAtFailedSend (declaredAt : BlockNumber) (declared : Finset ClassHash)
    (d : ClassDechunker) (classes : ClassStream) (tx : Sender) :
    StopsAtFailedSend (declaredLoop declaredAt declared d classes tx).1
      ((declaredLoop declaredAt declared d classes tx).2 =
        .inl (.panic "Receiver not to be dropped")) := by
  induction' hm : d.pending classes using Nat.strong_induction_on with n ih
    generalizing declared d classes tx
  rw [declaredLoop]
  by_cases hS : declared = ∅
  · simp [hS, StopsAtFailedSend]
  simp only [hS, if_false]
  split
  · exact .inl (pulled_not_failed d)
  · exact .inl (pulled_not_failed d)
  rename_i x d' cs' hnext
  rcases hsend : tx.send with ⟨_ | _, tx'⟩
  · -- the send fails: it is the last action, and `expect` panics
    exact .inr ⟨_, _, rfl, pulled_not_failed d, rfl⟩
  dsimp only
  rcases (checkDeclared declaredAt declared x).1 with e | c
  · exact .append_left (pulled_not_failed d) (.inl (by simp))
  · exact ((ih _ (hm ▸ ClassDechunker.next_pending_lt hnext) _ d' cs' tx' rfl).cons
      (by simp)).append_left (pulled_not_failed d)

/-- The outer loop stops at its first failed send, by panicking. -/
theorem whileLoop_stopsAtFailedSend (expected : ExpectedStream) (d : ClassDechunker)
    (classes : ClassStream) (tx : Sender) :
    (whileLoop expected d classes tx).StopsAtFailedSend (.panic "Receiver not to be dropped") := by
  induction expected generalizing d classes tx with
  | nil => exact .inl (by simp [whileLoop])
  | cons e rest ih =>
    rcases e with err | ⟨b, S⟩
    · exact .inl (by simp [whileLoop])
    have hloop := declaredLoop_stopsAtFailedSend b S d classes tx
    rcases hl : declaredLoop b S d classes tx with ⟨t, outcome | ⟨d', cs', tx'⟩⟩ <;>
      rw [hl] at hloop <;> simp only [whileLoop, hl, Run.StopsAtFailedSend]
    · exact (hloop.mono Sum.inl.inj).cons (by simp)
    · have ht : ∀ e ∈ t, ¬ e.IsFailedSend := hloop.resolve_right (by simp)
      exact ((ih d' cs' tx').append_left ht).cons (by simp)

end ClassSync
