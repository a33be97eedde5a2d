import Mathlib.Data.List.Sort
import ClassSync.Task

/-!
# Expected — the producers of expected declarations

`expected_declarations_stream` and `ExpectedDeclarationsSource::spawn` walk the blocks
`start..=stop` inside one read transaction, query the classes declared at each block, skip
the blocks that declare none, and stop at the first failed query or missing header. They
differ in what they do with a failure (the stream sends the error, the source returns it and
so closes its channel) and with a failed send (the stream ignores it, the source returns).

The loop cursor is the `u64` inside `start`; `start += 1` is taken modulo `2^64`. Because a
`BlockNumber` is at most `i64::MAX`, the increment never wraps while `start <= stop`, which
is what makes both loops terminate; `streamLoop_eq_streamTrace` and `spawnLoop_eq_spawnTrace`
turn each loop into a walk over the list `blocksFrom stop start` of the blocks in range.
-/

namespace ClassSync

/-! ## Storage -/

/-- A read transaction, as what `declared_classes_at` answers on it: the hashes declared at
a block, `None` when the block header is missing. -/
structure ReadTransaction where
  declaredClassesAt : BlockNumber → Except AnyhowError (Option (List ClassHash))

/-- `pathfinder_storage::Connection`, as the transaction it opens. -/
structure Connection where
  transaction : Except AnyhowError ReadTransaction

/-- `pathfinder_storage::Storage`, as the connection it hands out. -/
structure Storage where
  connection : Except AnyhowError Connection

/-- The query both loops make at block `b`, with the contexts they attach. -/
def queryDeclared (db : ReadTransaction) (b : BlockNumber) : Except AnyhowError (Finset ClassHash) :=
  ((Except.context (db.declaredClassesAt b) "Querying declared classes at block").bind
    fun x => Option.context x "Block header not found").map List.toFinset

/-- The blocks `start..=stop` in ascending order, `start` given as its `u64`. -/
def blocksFrom (stop : BlockNumber) (start : Nat) : List BlockNumber :=
  if h : start ≤ stop.get then ⟨start, by have := stop.get_lt; omega⟩ :: blocksFrom stop (start + 1)
  else []
termination_by stop.get + 1 - start

/-- `start += 1` does not wrap while `start <= stop`: the next cursor is `start + 1`. -/
theorem succ_mod_u64 {start : Nat} {stop : BlockNumber} (h : start ≤ stop.get) :
    (start + 1) % 2 ^ 64 = start + 1 :=
  Nat.mod_eq_of_lt (by have := stop.get_lt; omega)

theorem blocksFrom_get (stop : BlockNumber) (start : Nat) :
    (blocksFrom stop start).map (·.get) = List.range' start (stop.get + 1 - start) := by
  induction' hn : stop.get + 1 - start with n ih generalizing start
  · rw [blocksFrom, dif_neg (by omega)]; rfl
  · rw [blocksFrom, dif_pos (by omega), List.range'_succ, List.map_cons,
      ih (start + 1) (by omega)]

/-- `next_missing(storage, head)`: the first block missing a class definition, when it is at or
below `head`. `firstBlockWithMissingClassDefinitions` is that query of `pathfinder_storage` on
a read transaction. -/
def nextMissing (firstBlockWithMissingClassDefinitions :
      ReadTransaction → Except AnyhowError (Option BlockNumber))
    (storage : Storage) (head : BlockNumber) : Except AnyhowError (Option BlockNumber) := do
  let connection ← Except.context storage.connection "Creating database connection"
  let db ← Except.context connection.transaction "Creating database transaction"
  let nextMissing ← Except.context (firstBlockWithMissingClassDefinitions db)
    "Querying first block number with missing class definitions"
  match nextMissing with
  | some nextMissing => if nextMissing ≤ head then pure (some nextMissing) else pure none
  | none => pure none

/-- `next_missing` returns `Ok` exactly when the connection, the transaction and the query
succeed, and then with the block the query names when it is at or below `head`. -/
theorem nextMissing_eq_ok {query : ReadTransaction → Except AnyhowError (Option BlockNumber)}
    {storage : Storage} {head : BlockNumber} {r : Option BlockNumber} :
    nextMissing query storage head = .ok r ↔
      ∃ connection db first, storage.connection = .ok connection ∧
        connection.transaction = .ok db ∧ query db = .ok first ∧
        r = first.filter fun b => decide (b ≤ head) := by
  rcases hc : storage.connection with e | connection
  · simp [nextMissing, hc, bind, Except.bind]
  rcases ht : connection.transaction with e | db
  · simp [nextMissing, hc, ht, bind, Except.bind]
  rcases hq : query db with e | _ | b
  · simp [nextMissing, hc, ht, hq, bind, Except.bind]
  · simp [nextMissing, hc, ht, hq, bind, Except.bind, pure, Except.pure, eq_comm]
  · by_cases hle : b.get ≤ head.get <;>
      simp [nextMissing, hc, ht, hq, hle, bind, Except.bind, pure, Except.pure, Option.filter,
        eq_comm]

/-! ## `expected_declarations_stream` -/

/-- An item of the expectation stream. -/
abbrev Expectation := Except AnyhowError (BlockNumber × Finset ClassHash)

/-- The `while start <= stop` loop of `expected_declarations_stream`. The result of
`blocking_send` is dropped. -/
def streamLoop (db : ReadTransaction) (stop : BlockNumber) (tx : Sender) (start : Nat) :
    List (Event Expectation) × Outcome :=
  if h : start ≤ stop.get then
    let b : BlockNumber := ⟨start, by have := stop.get_lt; omega⟩
    let res : Expectation := (queryDeclared db b).map fun x => (b, x)
    let isErr := match res with | .error _ => true | .ok _ => false
    let isEmpty := match res with | .ok (_, x) => decide (x = ∅) | .error _ => false
    let (sent, tx') := if !isEmpty then ([Event.send res tx.send.1], tx.send.2) else ([], tx)
    if isErr then (.query b :: sent, .ok)
    else
      let (t, o) := streamLoop db stop tx' ((start + 1) % 2 ^ 64)
      (.query b :: sent ++ t, o)
  else ([], .ok)
termination_by stop.get + 1 - start
decreasing_by rw [succ_mod_u64 h]; omega

/-- `expected_declarations_stream(storage, start, stop)`, its receiver behaving as `tx`
says. -/
def expectedDeclarationsStream (storage : Storage) (start stop : BlockNumber) (tx : Sender) :
    Run Expectation :=
  match Except.context storage.connection "Creating database connection" with
  | .error e => ⟨[.send (.error e) tx.send.1], .ok⟩
  | .ok connection =>
    match Except.context connection.transaction "Creating database transaction" with
    | .error e => ⟨[.send (.error e) tx.send.1], .ok⟩
    | .ok db =>
      let (t, o) := streamLoop db stop tx start.get
      ⟨t, o⟩

/-! ## `ExpectedDeclarationsSource::spawn` -/

/-- `ExpectedDeclarationsSource`. -/
structure ExpectedDeclarationsSource where
  dbConnection : Connection
  start : BlockNumber
  stop : BlockNumber

/-- The error `blocking_send` returns once the receiver is gone, with the source's
context. -/
def sendFailed : AnyhowError :=
  (AnyhowError.msg "channel closed").context "Sending expected declarations"

/-- The `while start <= stop` loop of the task `ExpectedDeclarationsSource::spawn` starts;
each `?` returns the error from the task. -/
def spawnLoop (db : ReadTransaction) (stop : BlockNumber) (tx : Sender) (start : Nat) :
    List (Event ExpectedDeclarations) × Outcome :=
  if h : start ≤ stop.get then
    let b : BlockNumber := ⟨start, by have := stop.get_lt; omega⟩
    match queryDeclared db b with
    | .error e => ([.query b], .err e)
    | .ok declared =>
      if declared = ∅ then
        let (t, o) := spawnLoop db stop tx ((start + 1) % 2 ^ 64)
        (.query b :: t, o)
      else
        match tx.send with
        | (false, _) => ([.query b, .send ⟨b, declared⟩ false], .err sendFailed)
        | (true, tx') =>
          let (t, o) := spawnLoop db stop tx' ((start + 1) % 2 ^ 64)
          (.query b :: .send ⟨b, declared⟩ true :: t, o)
  else ([], .ok)
termination_by stop.get + 1 - start
decreasing_by all_goals rw [succ_mod_u64 h]; omega

/-- The task of `ExpectedDeclarationsSource::spawn`, its receiver behaving as `tx` says. -/
def ExpectedDeclarationsSource.spawn (self : ExpectedDeclarationsSource) (tx : Sender) :
    Run ExpectedDeclarations :=
  match Except.context self.dbConnection.transaction "Creating database transaction" with
  | .error e => ⟨[], .err e⟩
  | .ok db =>
    let (t, o) := spawnLoop db self.stop tx self.start.get
    ⟨t, o⟩

/-! ## Each loop is a walk over the blocks in range -/

/-- What the stream's loop does over the blocks `bs`. -/
def streamTrace (db : ReadTransaction) : Sender → List BlockNumber → List (Event Expectation)
  | _, [] => []
  | tx, b :: bs =>
    match queryDeclared db b with
    | .error e => [.query b, .send (.error e) tx.send.1]
    | .ok s =>
      if s = ∅ then .query b :: streamTrace db tx bs
      else .query b :: .send (.ok (b, s)) tx.send.1 :: streamTrace db tx.send.2 bs

/-- What the source's loop does over the blocks `bs`. -/
def spawnTrace (db : ReadTransaction) :
    Sender → List BlockNumber → List (Event ExpectedDeclarations) × Outcome
  | _, [] => ([], .ok)
  | tx, b :: bs =>
    match queryDeclared db b with
    | .error e => ([.query b], .err e)
    | .ok s =>
      if s = ∅ then (.query b :: (spawnTrace db tx bs).1, (spawnTrace db tx bs).2)
      else
        match tx.send with
        | (false, _) => ([.query b, .send ⟨b, s⟩ false], .err sendFailed)
        | (true, tx') =>
          (.query b :: .send ⟨b, s⟩ true :: (spawnTrace db tx' bs).1, (spawnTrace db tx' bs).2)

theorem blocksFrom_of_le {stop : BlockNumber} {start : Nat} (h : start ≤ stop.get) :
    blocksFrom stop start = ⟨start, by have := stop.get_lt; omega⟩ :: blocksFrom stop (start + 1) := by
  rw [blocksFrom, dif_pos h]

theorem blocksFrom_of_gt {stop : BlockNumber} {start : Nat} (h : ¬start ≤ stop.get) :
    blocksFrom stop start = [] := by
  rw [blocksFrom, dif_neg h]

theorem streamLoop_eq_streamTrace (db : ReadTransaction) (stop : BlockNumber) (tx : Sender)
    (start : Nat) : streamLoop db stop tx start = (streamTrace db tx (blocksFrom stop start), .ok) := by
  induction' hn : stop.get + 1 - start with n ih generalizing start tx
  · rw [streamLoop, dif_neg (by omega), blocksFrom_of_gt (by omega)]; rfl
  · have h : start ≤ stop.get := by omega
    rw [streamLoop, dif_pos h, blocksFrom_of_le h, succ_mod_u64 h]
    rcases hq : queryDeclared db ⟨start, by have := stop.get_lt; omega⟩ with e | s
    · simp [hq, streamTrace, Except.map]
    · by_cases hs : s = ∅ <;> simp [hq, hs, streamTrace, Except.map, ih _ (start + 1) (by omega)]

theorem spawnLoop_eq_spawnTrace (db : ReadTransaction) (stop : BlockNumber) (tx : Sender)
    (start : Nat) : spawnLoop db stop tx start = spawnTrace db tx (blocksFrom stop start) := by
  induction' hn : stop.get + 1 - start with n ih generalizing start tx
  · rw [spawnLoop, dif_neg (by omega), blocksFrom_of_gt (by omega)]; rfl
  · have h : start ≤ stop.get := by omega
    rw [spawnLoop, dif_pos h, blocksFrom_of_le h, succ_mod_u64 h]
    rcases hq : queryDeclared db ⟨start, by have := stop.get_lt; omega⟩ with e | s
    · simp [hq, spawnTrace]
    · by_cases hs : s = ∅
      · simp [hq, hs, spawnTrace, ih _ (start + 1) (by omega)]
      · rcases hsend : tx.send with ⟨_ | _, tx'⟩ <;>
          simp [hq, hs, hsend, spawnTrace, ih _ (start + 1) (by omega)]

/-! ## What both producers send -/

/-- The entry block `b` contributes to the expectations: the set of hashes
`declared_classes_at(b)` reads, when the block has a header and the set is not empty. -/
def declaredEntry (db : ReadTransaction) (b : BlockNumber) : Option (BlockNumber × Finset ClassHash) :=
  match db.declaredClassesAt b with
  | .ok (some hashes) => if hashes.toFinset = ∅ then none else some (b, hashes.toFinset)
  | _ => none

/-- How the query of block `b` fails with `e`: `declared_classes_at(b)` fails, or finds no
header, each with the context the loops attach. -/
def QueryFails (db : ReadTransaction) (b : BlockNumber) (e : AnyhowError) : Prop :=
  (∃ e', db.declaredClassesAt b = .error e' ∧ e = e'.context "Querying declared classes at block") ∨
    db.declaredClassesAt b = .ok none ∧ e = .msg "Block header not found"

/-- What the two producers do over the blocks `blocks` of one read transaction. They query
the blocks of `pre`, each of which has a header, then the first block of `rest`, whose query
fails, and no more. The stream sends the non-empty declared sets of `pre` in order, then that
failure; the source sends the same sets and returns the failure, closing its channel. -/
def WalksRange (db : ReadTransaction) (blocks : List BlockNumber) (stream : Run Expectation)
    (source : Run ExpectedDeclarations) : Prop :=
  ∃ pre rest, blocks = pre ++ rest ∧
    (∀ b ∈ pre, ∃ hashes, db.declaredClassesAt b = .ok (some hashes)) ∧
    stream.queries = pre ++ rest.take 1 ∧ source.queries = pre ++ rest.take 1 ∧
    source.output = (pre.filterMap (declaredEntry db)).map (fun e => ⟨e.1, e.2⟩) ∧
    ((rest = [] ∧ stream.output = (pre.filterMap (declaredEntry db)).map .ok ∧
        source.outcome = .ok) ∨
      ∃ b e, rest.head? = some b ∧ QueryFails db b e ∧
        stream.output = (pre.filterMap (declaredEntry db)).map .ok ++ [.error e] ∧
        source.outcome = .err e)

/-- A query succeeds exactly when the block has a header, with the set of its hashes. -/
theorem queryDeclared_eq_ok_iff {db : ReadTransaction} {b : BlockNumber} {s : Finset ClassHash} :
    queryDeclared db b = .ok s ↔
      ∃ hashes, db.declaredClassesAt b = .ok (some hashes) ∧ s = hashes.toFinset := by
  rcases hd : db.declaredClassesAt b with e | _ | hashes <;>
    simp [queryDeclared, hd, Except.map, Except.bind, eq_comm]

/-- A query fails exactly in the ways `QueryFails` lists. -/
theorem queryDeclared_eq_error_iff {db : ReadTransaction} {b : BlockNumber} {e : AnyhowError} :
    queryDeclared db b = .error e ↔ QueryFails db b e := by
  rcases hd : db.declaredClassesAt b with e' | _ | hashes <;>
    simp [queryDeclared, QueryFails, hd, Except.map, Except.bind, eq_comm]

/-- The entry of a block whose query succeeds: its set, unless empty. -/
theorem declaredEntry_of_queryDeclared {db : ReadTransaction} {b : BlockNumber}
    {s : Finset ClassHash} (h : queryDeclared db b = .ok s) :
    declaredEntry db b = if s = ∅ then none else some (b, s) := by
  obtain ⟨hashes, hd, rfl⟩ := queryDeclared_eq_ok_iff.mp h
  simp [declaredEntry, hd]

theorem walksRange_trace (db : ReadTransaction) (bs : List BlockNumber) :
    WalksRange db bs ⟨streamTrace db .alive bs, .ok⟩
      ⟨(spawnTrace db .alive bs).1, (spawnTrace db .alive bs).2⟩ := by
  induction bs with
  | nil => exact ⟨[], [], rfl, by simp, rfl, rfl, rfl, .inl ⟨rfl, rfl, rfl⟩⟩
  | cons b bs ih =>
    rcases hq : queryDeclared db b with e | s
    · -- the first query fails
      refine ⟨[], b :: bs, rfl, by simp, ?_, ?_, ?_,
        .inr ⟨b, e, rfl, queryDeclared_eq_error_iff.mp hq, ?_, ?_⟩⟩ <;>
        simp [Run.queries, Run.output, streamTrace, spawnTrace, hq]
    · obtain ⟨pre, rest, hbs, hok, hsq, hpq, hpo, hend⟩ := ih
      simp only [Run.queries, Run.output] at hsq hpq hpo hend
      have hentry := declaredEntry_of_queryDeclared hq
      refine ⟨b :: pre, rest, by rw [hbs]; rfl, ?_, ?_, ?_, ?_, ?_⟩
      · obtain ⟨hashes, hd, -⟩ := queryDeclared_eq_ok_iff.mp hq
        simpa [hd] using hok
      all_goals by_cases hs : s = ∅ <;>
        simp_all [Run.queries, Run.output, streamTrace, spawnTrace]

/-- Both producers, receiver kept, over any storage and any range: a storage that cannot open
a connection or a transaction gives the stream one error, and the source that error as its
result; otherwise both walk exactly the blocks `start..=stop` in ascending order, as
`WalksRange` says: the non-empty sets `declared_classes_at` reads, up to the first block whose
query fails or whose header is missing, which ends both with that error. The stream's task
always ends normally. -/
theorem expectedDeclarations_walksRange (storage : Storage) (start stop : BlockNumber) :
    (blocksFrom stop start.get).map (·.get) = List.range' start.get (stop.get + 1 - start.get) ∧
    (expectedDeclarationsStream storage start stop .alive).outcome = .ok ∧
    match Except.context storage.connection "Creating database connection" with
    | .error e => (expectedDeclarationsStream storage start stop .alive).output = [.error e]
    | .ok connection =>
      match Except.context connection.transaction "Creating database transaction" with
      | .error e => (expectedDeclarationsStream storage start stop .alive).output = [.error e] ∧
          ExpectedDeclarationsSource.spawn ⟨connection, start, stop⟩ .alive = ⟨[], .err e⟩
      | .ok db => WalksRange db (blocksFrom stop start.get)
          (expectedDeclarationsStream storage start stop .alive)
          (ExpectedDeclarationsSource.spawn ⟨connection, start, stop⟩ .alive) := by
  refine ⟨blocksFrom_get stop start.get, ?_⟩
  rcases hc : Except.context storage.connection "Creating database connection" with e | connection
  · simp [expectedDeclarationsStream, hc, Run.output]
  rcases ht : Except.context connection.transaction "Creating database transaction" with e | db
  · simp [expectedDeclarationsStream, ExpectedDeclarationsSource.spawn, hc, ht, Run.output]
  simp only [expectedDeclarationsStream, ExpectedDeclarationsSource.spawn, hc, ht,
    streamLoop_eq_streamTrace, spawnLoop_eq_spawnTrace]
  exact ⟨trivial, walksRange_trace db _⟩

/-! ## A dropped receiver -/

/-- The source's loop stops at its first failed send, returning the send error. -/
theorem spawnTrace_stopsAtFailedSend (db : ReadTransaction) (tx : Sender) (bs : List BlockNumber) :
    StopsAtFailedSend (spawnTrace db tx bs).1 ((spawnTrace db tx bs).2 = .err sendFailed) := by
  induction bs generalizing tx with
  | nil => exact .inl (by simp [spawnTrace])
  | cons b bs ih =>
    rcases hq : queryDeclared db b with e | s
    · exact .inl (by simp [spawnTrace, hq])
    by_cases hs : s = ∅
    · simpa only [spawnTrace, hq, hs, if_true] using (ih tx).cons (by simp)
    rcases hsend : tx.send with ⟨_ | _, tx'⟩ <;> simp only [spawnTrace, hq, hs, hsend, if_false]
    · exact .inr ⟨[.query b], _, rfl, by simp, trivial⟩
    · exact ((ih tx').cons (by simp)).cons (by simp)

/-- The source's loop never panics: it ends normally or with an error. -/
theorem spawnTrace_ne_panic (db : ReadTransaction) (tx : Sender) (bs : List BlockNumber)
    (msg : String) : (spawnTrace db tx bs).2 ≠ .panic msg := by
  induction bs generalizing tx with
  | nil => simp [spawnTrace]
  | cons b bs ih =>
    rcases hq : queryDeclared db b with e | s
    · simp [spawnTrace, hq]
    by_cases hs : s = ∅
    · simpa [spawnTrace, hq, hs] using ih tx
    rcases hsend : tx.send with ⟨_ | _, tx'⟩ <;> simp [spawnTrace, hq, hs, hsend, ih]

/-- What the stream's loop queries does not depend on its receiver: the result of
`blocking_send` is never looked at. -/
theorem streamTrace_queries (db : ReadTransaction) (tx : Sender) (bs : List BlockNumber) :
    (streamTrace db tx bs).filterMap Event.query? =
      (streamTrace db .alive bs).filterMap Event.query? := by
  induction bs generalizing tx with
  | nil => rfl
  | cons b bs ih =>
    rcases hq : queryDeclared db b with e | s
    · simp [streamTrace, hq]
    · by_cases hs : s = ∅ <;> simp [streamTrace, hq, hs, ih]

/-! ## What the source sends, its receiver kept -/

theorem mem_blocksFrom {stop b : BlockNumber} {start : Nat} (h : b ∈ blocksFrom stop start) :
    start ≤ b.get ∧ b.get ≤ stop.get := by
  have := List.mem_map_of_mem BlockNumber.get h
  rw [blocksFrom_get, List.mem_range'_1] at this
  omega

theorem declaredEntry_eq_some {db : ReadTransaction} {b : BlockNumber}
    {e : BlockNumber × Finset ClassHash} (h : declaredEntry db b = some e) :
    e.1 = b ∧ ∃ hashes, db.declaredClassesAt b = .ok (some hashes) ∧ e.2 = hashes.toFinset := by
  unfold declaredEntry at h
  split at h
  · split at h
    · cases h
    · cases h; exact ⟨rfl, _, ‹_›, rfl⟩
  · cases h

/-- The entries are taken from the blocks in their order. -/
theorem filterMap_declaredEntry_sublist (db : ReadTransaction) (bs : List BlockNumber) :
    List.Sublist ((bs.filterMap (declaredEntry db)).map (·.1)) bs := by
  induction bs with
  | nil => exact .slnil
  | cons b bs ih =>
    rcases h : declaredEntry db b with _ | e
    · simpa [List.filterMap_cons, h] using ih.cons b
    · simpa [List.filterMap_cons, h, (declaredEntry_eq_some h).1] using ih.cons₂ b

/-- The entries both producers take from a first stretch `pre` of the range: in strictly
ascending block order, each at a block of the range, with the set `declared_classes_at`
reads there. -/
theorem declaredEntries_of_prefix (db : ReadTransaction) {start stop : BlockNumber}
    {pre rest : List BlockNumber} (hbs : blocksFrom stop start.get = pre ++ rest) :
    ((pre.filterMap (declaredEntry db)).map (·.1.get)).Sorted (· < ·) ∧
    ∀ e ∈ pre.filterMap (declaredEntry db), start ≤ e.1 ∧ e.1 ≤ stop ∧
      ∃ hashes, db.declaredClassesAt e.1 = .ok (some hashes) ∧ e.2 = hashes.toFinset := by
  refine ⟨?_, fun e he => ?_⟩
  · have hsub : List.Sublist (((pre.filterMap (declaredEntry db)).map (·.1)).map (·.get))
        ((blocksFrom stop start.get).map (·.get)) :=
      ((filterMap_declaredEntry_sublist db pre).trans
        (hbs ▸ List.sublist_append_left pre rest)).map _
    rw [blocksFrom_get] at hsub
    simpa [List.map_map] using (List.pairwise_lt_range' _ _).sublist hsub
  · obtain ⟨b, hb, hbe⟩ := List.mem_filterMap.mp he
    obtain ⟨rfl, hq⟩ := declaredEntry_eq_some hbe
    have hr := mem_blocksFrom (hbs ▸ List.mem_append_left rest hb)
    exact ⟨hr.1, hr.2, hq⟩

/-- With its receiver kept, the source sends blocks of `start..=stop` in strictly ascending
order, each with the set `declared_classes_at` reads there on its transaction. -/
theorem spawn_output_alive (source : ExpectedDeclarationsSource) :
    ((source.spawn .alive).output.map (·.blockNumber.get)).Sorted (· < ·) ∧
    ∀ e ∈ (source.spawn .alive).output,
      source.start ≤ e.blockNumber ∧ e.blockNumber ≤ source.stop ∧
      ∃ db hashes, source.dbConnection.transaction = .ok db ∧
        db.declaredClassesAt e.blockNumber = .ok (some hashes) ∧ e.classes = hashes.toFinset := by
  unfold ExpectedDeclarationsSource.spawn
  rcases ht : Except.context source.dbConnection.transaction "Creating database transaction"
    with e | db
  · simp [Run.output]
  obtain ⟨pre, rest, hbs, -, -, -, hout, -⟩ :=
    walksRange_trace db (blocksFrom source.stop source.start.get)
  simp only [Run.output] at hout
  simp only [spawnLoop_eq_spawnTrace, Run.output, hout, List.map_map]
  obtain ⟨hsorted, hmem⟩ := declaredEntries_of_prefix db hbs
  refine ⟨by simpa [List.map_map] using hsorted, ?_⟩
  simp only [List.mem_map]
  rintro _ ⟨e, he, rfl⟩
  obtain ⟨hstart, hstop, hashes, hd, hs⟩ := hmem e he
  exact ⟨hstart, hstop, db, hashes, (Except.context_eq_ok _).mp ht, hd, hs⟩

/-- What the stream sends over any storage and range, its receiver kept: the non-empty
declared sets of a first stretch of the range, in strictly ascending block order, each as
`declared_classes_at` reads it on the storage's transaction, then at most one error. -/
theorem expectedDeclarationsStream_output_cases (storage : Storage) (start stop : BlockNumber) :
    ∃ (entries : List (BlockNumber × Finset ClassHash)) (tail : List Expectation),
      (expectedDeclarationsStream storage start stop .alive).output = entries.map .ok ++ tail ∧
      (tail = [] ∨ ∃ e, tail = [.error e]) ∧
      (entries.map (·.1.get)).Sorted (· < ·) ∧
      ∀ e ∈ entries, start ≤ e.1 ∧ e.1 ≤ stop ∧
        ∃ connection db hashes, storage.connection = .ok connection ∧
          connection.transaction = .ok db ∧
          db.declaredClassesAt e.1 = .ok (some hashes) ∧ e.2 = hashes.toFinset := by
  rcases hc : storage.connection with e | connection
  · exact ⟨[], [.error (e.context "Creating database connection")],
      by simp [expectedDeclarationsStream, hc, Run.output], .inr ⟨_, rfl⟩, by simp, by simp⟩
  rcases ht : connection.transaction with e | db
  · exact ⟨[], [.error (e.context "Creating database transaction")],
      by simp [expectedDeclarationsStream, hc, ht, Run.output], .inr ⟨_, rfl⟩, by simp, by simp⟩
  obtain ⟨pre, rest, hbs, -, -, -, -, hend⟩ := walksRange_trace db (blocksFrom stop start.get)
  obtain ⟨hsorted, hmem⟩ := declaredEntries_of_prefix db hbs
  have hout : (expectedDeclarationsStream storage start stop .alive).output =
      Run.output ⟨streamTrace db .alive (blocksFrom stop start.get), .ok⟩ := by
    simp [expectedDeclarationsStream, hc, ht, streamLoop_eq_streamTrace, Run.output]
  obtain ⟨tail, hso, htail⟩ : ∃ tail,
      Run.output ⟨streamTrace db .alive (blocksFrom stop start.get), .ok⟩ =
        (pre.filterMap (declaredEntry db)).map .ok ++ tail ∧
        (tail = [] ∨ ∃ e, tail = [.error e]) := by
    rcases hend with ⟨-, hso, -⟩ | ⟨b, e, -, -, hso, -⟩
    · exact ⟨[], by rw [hso, List.append_nil], .inl rfl⟩
    · exact ⟨[.error e], hso, .inr ⟨e, rfl⟩⟩
  refine ⟨_, tail, hout.trans hso, htail, hsorted, fun e he => ?_⟩
  obtain ⟨hstart, hstop, hashes, hd, hs⟩ := hmem e he
  exact ⟨hstart, hstop, connection, db, hashes, rfl, ht, hd, hs⟩

/-! ## The two producers agree -/

/-- The items the stream sends for the way the source's task ended: the error it returned,
if it returned one. -/
def Outcome.errorItems : Outcome → List Expectation
  | .err e => [.error e]
  | _ => []

/-- Over any blocks, with the receiver kept, the stream's loop delivers the source's
declarations as `Ok` items, then the error the source's loop returns, as an item. -/
theorem streamTrace_delivered (db : ReadTransaction) (bs : List BlockNumber) :
    (streamTrace db .alive bs).filterMap Event.delivered? =
      ((spawnTrace db .alive bs).1.filterMap Event.delivered?).map
          (fun e => .ok (e.blockNumber, e.classes)) ++
        (spawnTrace db .alive bs).2.errorItems := by
  induction bs with
  | nil => rfl
  | cons b bs ih =>
    rcases hq : queryDeclared db b with e | s
    · simp [streamTrace, spawnTrace, hq, Outcome.errorItems]
    · by_cases hs : s = ∅ <;> simpa [streamTrace, spawnTrace, hq, hs] using ih

/-- `expected_declarations_stream` and `ExpectedDeclarationsSource::spawn` on the connection
the storage hands out, over the same range with their receivers kept, produce the same
declarations: the stream sends, as `Ok` items, exactly the declarations the source sends,
in order, and then an `Err` item exactly when the source's task returns an error, with the
same error. -/
theorem expectedDeclarationsStream_agrees_with_spawn (connection : Connection)
    (start stop : BlockNumber) :
    (expectedDeclarationsStream ⟨.ok connection⟩ start stop .alive).output =
      ((ExpectedDeclarationsSource.mk connection start stop).spawn .alive).output.map
          (fun e => .ok (e.blockNumber, e.classes)) ++
        ((ExpectedDeclarationsSource.mk connection start stop).spawn
          .alive).outcome.errorItems := by
  simp only [expectedDeclarationsStream, ExpectedDeclarationsSource.spawn, Except.context_ok]
  rcases Except.context connection.transaction "Creating database transaction" with e | db
  · simp [Run.output, Outcome.errorItems]
  · simpa [Run.output, streamLoop_eq_streamTrace, spawnLoop_eq_spawnTrace] using
      streamTrace_delivered db (blocksFrom stop start.get)

end ClassSync
