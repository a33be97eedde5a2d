import Mathlib.Data.List.Sort
import ClassSync.Pipe

/-!
# Store — writing compiled classes

`persist` writes a batch of compiled classes in one transaction; the `Store` stage writes one
class per transaction. Both make the same calls for a class: `update_cairo_class`, or
`casm_hash` followed by `update_sierra_class` with the casm hash it read.

A transaction's calls act on its working copy of the database; `commit` makes that copy the
committed state, and a transaction dropped without it, as every `?` after its creation does,
leaves the committed state as it was.

`WritesClass` and `WritesEach` state those calls on the database's own operations;
`updateClass_eq_ok_iff`, `persist_eq_ok_iff` and `persist_fails_iff` say that the code's
functions make exactly them, and fail exactly as `UpdateFails` and `PersistFails` list.
-/

namespace ClassSync

/-- The database classes are written to, over states `σ`: whether a connection and a
transaction open on it, and the calls of `pathfinder_storage::Transaction` that write
classes, each acting on the transaction's working copy. -/
structure ClassDb (σ : Type) where
  connection : Except AnyhowError Unit
  transaction : σ → Except AnyhowError Unit
  updateCairoClass : ClassHash → Bytes → σ → Except AnyhowError σ
  casmHash : ClassHash → σ → Except AnyhowError (Option CasmHash)
  updateSierraClass : SierraHash → Bytes → CasmHash → Bytes → σ → Except AnyhowError σ
  commit : σ → Except AnyhowError Unit

section

variable {σ : Type} (db : ClassDb σ)

/-- The `match definition` that writes one class on the working copy `tx`. -/
def updateClass (cls : CompiledClass) (tx : σ) : Except AnyhowError σ :=
  match cls.definition with
  | .cairo definition =>
    Except.context (db.updateCairoClass cls.hash definition tx) "Updating cairo class definition"
  | .sierra sierraDefinition casmDefinition =>
    (Except.context (db.casmHash cls.hash tx) "Getting casm hash for sierra class").bind
      fun found => (Option.context found "Casm hash not found").bind
        fun casmHash => Except.context
          (db.updateSierraClass ⟨cls.hash.felt⟩ sierraDefinition casmHash casmDefinition tx)
          "Updating sierra class definition"

/-- `persist(storage, classes)`: the block number of the last class, and the committed state
after the task. -/
def persist (committed : σ) (classes : List (PeerData CompiledClass)) :
    Except SyncError BlockNumber × σ :=
  let body : Except AnyhowError (BlockNumber × σ) := do
    Except.context db.connection "Creating database connection"
    Except.context (db.transaction committed) "Creating database transaction"
    let tail ← Option.context (classes.getLast?.map (·.data.blockNumber))
      "No class definitions to persist"
    let tx ← (classes.map (·.data)).foldlM (fun tx cls => updateClass db cls tx) committed
    Except.context (db.commit tx) "Committing db transaction"
    pure (tail, tx)
  match body with
  | .ok (tail, tx) => (.ok tail, tx)
  -- the transaction is dropped uncommitted
  | .error e => (.error (.other e), committed)

/-- `Store`: the stage that writes each class in a transaction of its own, on its
connection. -/
structure Store (σ : Type) where
  connection : ClassDb σ

/-- `<Store as ProcessStage>::map`: the class's block number, and the committed state after. -/
def Store.map (self : Store σ) (committed : σ) (input : CompiledClass) :
    Except SyncError2 (BlockNumber × σ) :=
  let body : Except AnyhowError σ := do
    Except.context (self.connection.transaction committed) "Creating database transaction"
    let tx ← updateClass self.connection input committed
    Except.context (self.connection.commit tx) "Committing db transaction"
    pure tx
  match body with
  | .ok tx => .ok (input.blockNumber, tx)
  | .error e => .error (.other e)

end

/-! ## What the calls of a write do -/

/-- A loop of `?` steps that fails stops at a first failing step, after steps that succeeded. -/
theorem exists_first_error_of_foldlM {α β ε : Type} {f : β → α → Except ε β} {l : List α}
    {s : β} {e : ε} (h : l.foldlM f s = .error e) :
    ∃ pre a post s', l = pre ++ a :: post ∧ pre.foldlM f s = .ok s' ∧ f s' a = .error e := by
  induction l generalizing s with
  | nil => cases h
  | cons a l ih =>
    rcases hs : f s a with e' | s'
    · simp only [List.foldlM_cons, hs] at h
      cases h
      exact ⟨[], a, l, s, rfl, rfl, hs⟩
    · simp only [List.foldlM_cons, hs] at h
      obtain ⟨pre, b, post, s'', rfl, hpre, hb⟩ := ih h
      exact ⟨a :: pre, b, post, s'', rfl, by simpa [hs] using hpre, hb⟩

section Writes

variable {σ : Type} (db : ClassDb σ)

/-- The calls that write `cls` on the working copy `tx` and leave `tx'`:
`update_cairo_class(hash, definition)` for a Cairo class; for a Sierra class, `casm_hash(hash)`
finding a casm hash, then `update_sierra_class(SierraHash(hash), sierra_definition, casm_hash,
casm_definition)` with it. -/
def WritesClass (cls : CompiledClass) (tx tx' : σ) : Prop :=
  match cls.definition with
  | .cairo definition => db.updateCairoClass cls.hash definition tx = .ok tx'
  | .sierra sierraDefinition casmDefinition =>
    ∃ casmHash, db.casmHash cls.hash tx = .ok (some casmHash) ∧
      db.updateSierraClass ⟨cls.hash.felt⟩ sierraDefinition casmHash casmDefinition tx = .ok tx'

/-- `classes` written one after another on one working copy, from `tx` to `tx'`. -/
def WritesEach : σ → List CompiledClass → σ → Prop
  | tx, [], tx' => tx' = tx
  | tx, cls :: rest, tx'' => ∃ tx', WritesClass db cls tx tx' ∧ WritesEach tx' rest tx''

/-- The ways writing `cls` on the working copy `tx` fails: its storage call fails, or, for a
Sierra class, its casm hash is not found. -/
def UpdateFails (cls : CompiledClass) (tx : σ) : Prop :=
  match cls.definition with
  | .cairo definition => ∃ e, db.updateCairoClass cls.hash definition tx = .error e
  | .sierra sierraDefinition casmDefinition =>
    (∃ e, db.casmHash cls.hash tx = .error e) ∨ db.casmHash cls.hash tx = .ok none ∨
      ∃ casmHash e, db.casmHash cls.hash tx = .ok (some casmHash) ∧
        db.updateSierraClass ⟨cls.hash.felt⟩ sierraDefinition casmHash casmDefinition tx = .error e

/-- The `match definition` succeeds exactly when its calls do. -/
theorem updateClass_eq_ok_iff {cls : CompiledClass} {tx tx' : σ} :
    updateClass db cls tx = .ok tx' ↔ WritesClass db cls tx tx' := by
  rcases cls with ⟨b, hash, definition | ⟨sierraDefinition, casmDefinition⟩⟩
  · simp [updateClass, WritesClass]
  · rcases hc : db.casmHash hash tx with e | _ | casmHash <;>
      simp [updateClass, WritesClass, hc, Except.bind]

/-- The `match definition` fails exactly in the ways `UpdateFails` lists. -/
theorem updateClass_eq_error_iff {cls : CompiledClass} {tx : σ} :
    (∃ e, updateClass db cls tx = .error e) ↔ UpdateFails db cls tx := by
  rcases cls with ⟨b, hash, definition | ⟨sierraDefinition, casmDefinition⟩⟩
  · simp [updateClass, UpdateFails]
  · rcases hc : db.casmHash hash tx with e | _ | casmHash <;>
      simp [updateClass, UpdateFails, hc, Except.bind]

/-- A write fails exactly when none of its outcomes is a write. -/
theorem updateFails_iff_not_writesClass {cls : CompiledClass} {tx : σ} :
    UpdateFails db cls tx ↔ ¬ ∃ tx', WritesClass db cls tx tx' := by
  simp only [← updateClass_eq_error_iff, ← updateClass_eq_ok_iff]
  rcases updateClass db cls tx with e | t <;> simp

/-- The loop of `persist` succeeds exactly when the writes of the batch, in order, do. -/
theorem foldlM_updateClass_eq_ok_iff {classes : List CompiledClass} {tx tx' : σ} :
    classes.foldlM (fun tx cls => updateClass db cls tx) tx = .ok tx' ↔
      WritesEach db tx classes tx' := by
  induction classes generalizing tx with
  | nil => simp [WritesEach, pure, Except.pure, eq_comm]
  | cons cls rest ih =>
    rcases hu : updateClass db cls tx with e | t <;>
      simp [WritesEach, ← updateClass_eq_ok_iff, hu, ih, bind, Except.bind]

/-- The loop of `persist` fails exactly at a first write that fails, on the working copy the
writes before it left. -/
theorem foldlM_updateClass_eq_error_iff {classes : List CompiledClass} {tx : σ} :
    (∃ e, classes.foldlM (fun tx cls => updateClass db cls tx) tx = .error e) ↔
      ∃ pre cls post t, classes = pre ++ cls :: post ∧ WritesEach db tx pre t ∧
        UpdateFails db cls t := by
  constructor
  · rintro ⟨e, h⟩
    obtain ⟨pre, cls, post, t, hsplit, hpre, hcls⟩ := exists_first_error_of_foldlM h
    exact ⟨pre, cls, post, t, hsplit, (foldlM_updateClass_eq_ok_iff db).mp hpre,
      (updateClass_eq_error_iff db).mp ⟨e, hcls⟩⟩
  · rintro ⟨pre, cls, post, t, rfl, hpre, hcls⟩
    obtain ⟨e, he⟩ := (updateClass_eq_error_iff db).mpr hcls
    refine ⟨e, ?_⟩
    rw [List.foldlM_append, (foldlM_updateClass_eq_ok_iff db).mpr hpre]
    simp only [bind, Except.bind, List.foldlM_cons, he]

end Writes

/-! ## `persist` -/

section Persist

variable {σ : Type} (db : ClassDb σ)

/-- The ways `persist` fails on the batch `classes`: no connection, no transaction, an empty
batch, a write that fails (the first one, on the working copy the writes before it left), or
the commit. -/
def PersistFails (committed : σ) (classes : List CompiledClass) : Prop :=
  (∃ e, db.connection = .error e) ∨ (∃ e, db.transaction committed = .error e) ∨ classes = [] ∨
    (∃ pre cls post tx, classes = pre ++ cls :: post ∧ WritesEach db committed pre tx ∧
      UpdateFails db cls tx) ∨
    ∃ tx e, WritesEach db committed classes tx ∧ db.commit tx = .error e

/-- `persist` returns `Ok(tail)` and commits `tx` exactly when the connection and the
transaction open, `tail` is the block of the batch's last class, the writes of the batch, in
order on the working copy of the committed state, leave `tx`, and the commit accepts it. -/
theorem persist_eq_ok_iff {committed tx : σ} {classes : List (PeerData CompiledClass)}
    {tail : BlockNumber} :
    persist db committed classes = (.ok tail, tx) ↔
      db.connection = .ok () ∧ db.transaction committed = .ok () ∧
      classes.getLast?.map (·.data.blockNumber) = some tail ∧
      WritesEach db committed (classes.map (·.data)) tx ∧ db.commit tx = .ok () := by
  constructor
  · intro hp
    rcases hc : db.connection with e | ⟨⟩
    · simp [persist, hc, bind, Except.bind] at hp
    rcases ht : db.transaction committed with e | ⟨⟩
    · simp [persist, hc, ht, bind, Except.bind] at hp
    rcases hl : classes.getLast? with _ | last
    · simp [persist, hc, ht, hl, bind, Except.bind] at hp
    rcases hw : (classes.map (·.data)).foldlM (fun tx cls => updateClass db cls tx) committed
      with e | t
    · simp [persist, hc, ht, hl, hw, bind, Except.bind] at hp
    rcases hcommit : db.commit t with e | ⟨⟩
    · simp [persist, hc, ht, hl, hw, hcommit, bind, Except.bind] at hp
    simp [persist, hc, ht, hl, hw, hcommit, bind, Except.bind, pure, Except.pure] at hp
    obtain ⟨rfl, rfl⟩ := hp
    exact ⟨rfl, rfl, rfl, (foldlM_updateClass_eq_ok_iff db).mp hw, hcommit⟩
  · rintro ⟨hc, ht, hl, hw, hcommit⟩
    simp [persist, hc, ht, hl, (foldlM_updateClass_eq_ok_iff db).mpr hw, hcommit, bind,
      Except.bind, pure, Except.pure]

/-- When `persist` fails, the transaction is dropped: the committed state is the one before. -/
theorem persist_committed_of_error {committed committed' : σ}
    {classes : List (PeerData CompiledClass)} {e : SyncError}
    (h : persist db committed classes = (.error e, committed')) : committed' = committed := by
  simp only [persist] at h
  split at h <;> simp_all

/-- `persist` fails exactly in the ways `PersistFails` lists. -/
theorem persist_fails_iff {committed : σ} {classes : List (PeerData CompiledClass)} :
    (∃ e, (persist db committed classes).1 = .error e) ↔
      PersistFails db committed (classes.map (·.data)) := by
  rcases hc : db.connection with e | ⟨⟩
  · exact iff_of_true (by simp [persist, hc, bind, Except.bind]) (.inl ⟨e, hc⟩)
  rcases ht : db.transaction committed with e | ⟨⟩
  · exact iff_of_true (by simp [persist, hc, ht, bind, Except.bind]) (.inr (.inl ⟨e, ht⟩))
  rcases hl : classes.getLast? with _ | last
  · exact iff_of_true (by simp [persist, hc, ht, hl, bind, Except.bind])
      (.inr (.inr (.inl (by simpa using List.getLast?_eq_none_iff.mp hl))))
  rcases hw : (classes.map (·.data)).foldlM (fun tx cls => updateClass db cls tx) committed
    with e | tx
  · exact iff_of_true (by simp [persist, hc, ht, hl, hw, bind, Except.bind])
      (.inr (.inr (.inr (.inl ((foldlM_updateClass_eq_error_iff db).mp ⟨e, hw⟩)))))
  rcases hcommit : db.commit tx with e | ⟨⟩
  · exact iff_of_true (by simp [persist, hc, ht, hl, hw, hcommit, bind, Except.bind])
      (.inr (.inr (.inr (.inr ⟨tx, e, (foldlM_updateClass_eq_ok_iff db).mp hw, hcommit⟩))))
  -- every step succeeds, so none of the failures happened
  refine iff_of_false (by simp [persist, hc, ht, hl, hw, hcommit, bind, Except.bind, pure,
    Except.pure]) ?_
  rintro (⟨e, he⟩ | ⟨e, he⟩ | hnil | hwrite | ⟨t, e, ht', he⟩)
  · simp [hc] at he
  · simp [ht] at he
  · simp [List.map_eq_nil_iff.mp hnil] at hl
  · obtain ⟨e, he⟩ := (foldlM_updateClass_eq_error_iff db).mpr hwrite
    simp [hw] at he
  · have hfold := (foldlM_updateClass_eq_ok_iff db).mpr ht'
    rw [hw, Except.ok.injEq] at hfold
    simp [← hfold, hcommit] at he

end Persist

/-- The last of a sorted list of block numbers is the largest. -/
theorem le_of_getLast?_of_sorted {l : List BlockNumber} (hs : l.Sorted (· ≤ ·)) {t : BlockNumber}
    (ht : l.getLast? = some t) : ∀ b ∈ l, b ≤ t := by
  obtain ⟨init, rfl⟩ := List.getLast?_eq_some_iff.mp ht
  intro b hb
  rcases List.mem_append.mp hb with hb | hb
  · exact (List.pairwise_append.mp hs).2.2 b hb t (List.mem_singleton_self t)
  · simp [List.mem_singleton.mp hb]

section

variable {σ : Type} (db : ClassDb σ)

/-- `persist` commits the whole batch or nothing. When it returns `Ok(tail)`, `tail` is the
block of the batch's last class, its highest when the batch is sorted by block, one
transaction opened on the committed state, and the committed state is what the batch's calls
(`update_cairo_class`, or `casm_hash` then `update_sierra_class`), in order on that
transaction's working copy, left and the commit accepted. When it returns an error, the
committed state is the one before and one of the failures of `PersistFails` happened; and
each of those failures, a Sierra class without a casm hash among them, makes it fail. -/
theorem persist_commits_batch_or_nothing (committed : σ)
    (classes : List (PeerData CompiledClass)) :
    (match persist db committed classes with
    | (.ok tail, committed') =>
      classes.getLast?.map (·.data.blockNumber) = some tail ∧
      ((classes.map (·.data.blockNumber)).Sorted (· ≤ ·) →
        ∀ cls ∈ classes, cls.data.blockNumber ≤ tail) ∧
      db.transaction committed = .ok () ∧
      WritesEach db committed (classes.map (·.data)) committed' ∧
      db.commit committed' = .ok ()
    | (.error _, committed') =>
      committed' = committed ∧ PersistFails db committed (classes.map (·.data))) ∧
    (PersistFails db committed (classes.map (·.data)) →
      ∃ e, (persist db committed classes).1 = .error e) := by
  refine ⟨?_, (persist_fails_iff db).mpr⟩
  rcases hp : persist db committed classes with ⟨e | tail, committed'⟩
  · exact ⟨persist_committed_of_error db hp, (persist_fails_iff db).mp ⟨e, by rw [hp]⟩⟩
  · obtain ⟨-, ht, hl, hw, hcommit⟩ := (persist_eq_ok_iff db).mp hp
    refine ⟨hl, fun hs cls hcls => ?_, ht, hw, hcommit⟩
    exact le_of_getLast?_of_sorted hs ((List.getLast?_map _ _).trans hl) _
      (List.mem_map_of_mem _ hcls)

end

/-! ## The `Store` stage over a run -/

section Run

variable {σ : Type} (db : ClassDb σ)

/-- `cls` written in a transaction of its own on the committed state `s`: the transaction
opens, the class's writes leave the working copy `s'`, and the commit publishes it. -/
def CommitsClass (s : σ) (cls : CompiledClass) (s' : σ) : Prop :=
  db.transaction s = .ok () ∧ WritesClass db cls s s' ∧ db.commit s' = .ok ()

/-- `classes` written one after another, each in a transaction of its own, from the committed
state `s` to the committed state `s'`. -/
def CommitsEach : σ → List CompiledClass → σ → Prop
  | s, [], s' => s' = s
  | s, cls :: rest, s'' => ∃ s', CommitsClass db s cls s' ∧ CommitsEach s' rest s''

/-- One `Store::map` is one class committed in its own transaction. -/
theorem Store.map_eq_ok_iff {s s' : σ} {cls : CompiledClass} {b : BlockNumber} :
    Store.map ⟨db⟩ s cls = .ok (b, s') ↔
      b = cls.blockNumber ∧ CommitsClass db s cls s' := by
  rw [CommitsClass, ← updateClass_eq_ok_iff]
  rcases ht : db.transaction s with e | ⟨⟨⟩⟩
  · simp [Store.map, ht, bind, Except.bind]
  rcases hu : updateClass db cls s with e | tx
  · simp [Store.map, ht, hu, bind, Except.bind]
  rcases hc : db.commit tx with e | ⟨⟨⟩⟩
  · simp [Store.map, ht, hu, hc, bind, Except.bind]
    rintro - rfl
    simp [hc]
  · simp [Store.map, ht, hu, hc, bind, Except.bind, pure, Except.pure]
    exact ⟨fun ⟨hb, hs⟩ => ⟨hb.symm, hs, hs ▸ hc⟩,
      fun ⟨hb, hs, _⟩ => ⟨hb.symm, hs⟩⟩

/-- A `Store::map` that fails commits nothing: no transaction of its own takes the class. -/
theorem Store.map_eq_error {s : σ} {cls : CompiledClass} {e : SyncError2}
    (h : Store.map ⟨db⟩ s cls = .error e) :
    ∃ e', e = .other e' ∧ ¬ ∃ s', CommitsClass db s cls s' := by
  have hno : ¬ ∃ s', CommitsClass db s cls s' := fun ⟨s', ht, hu, hc⟩ => by
    simp [Store.map, ht, (updateClass_eq_ok_iff db).mpr hu, hc, bind, Except.bind, pure,
      Except.pure] at h
  simp only [Store.map] at h
  split at h
  · cases h
  · exact ⟨_, (Except.error.inj h).symm, hno⟩

end Run

/-- The run lemma of the `Store` stage: it moves the committed state one whole class at a
time, passing on the block numbers of a prefix of the classes, each committed in a
transaction of its own, and either gets through all of them or stops at the next one with an
error, having committed none of that class's writes. -/
theorem runStage_store_cases {σ : Type} (store : Store σ) (committed : σ)
    (classes : List CompiledClass) :
    let run := runStage store.map committed classes
    ∃ k, run.1 = (classes.take k).map (·.blockNumber) ∧
      CommitsEach store.connection committed (classes.take k) run.2.2 ∧
      (run.2.1 = none ∧ k = classes.length ∨
        ∃ cls e, classes[k]? = some cls ∧ run.2.1 = some (.other e) ∧
          ¬ ∃ s', CommitsClass store.connection run.2.2 cls s') := by
  obtain ⟨db⟩ := store
  induction classes generalizing committed with
  | nil => exact ⟨0, rfl, rfl, .inl ⟨rfl, rfl⟩⟩
  | cons cls rest ih =>
    rcases hmap : Store.map ⟨db⟩ committed cls with e | ⟨b, s'⟩
    · obtain ⟨e', rfl, hno⟩ := Store.map_eq_error db hmap
      rw [runStage_cons_error _ hmap]
      exact ⟨0, rfl, rfl, .inr ⟨cls, e', List.getElem?_cons_zero, rfl, hno⟩⟩
    · obtain ⟨rfl, hcommit⟩ := (Store.map_eq_ok_iff db).mp hmap
      obtain ⟨k, hout, heach, hend⟩ := ih s'
      rw [runStage_cons_ok _ hmap]
      refine ⟨k + 1, by simp [hout], ⟨s', hcommit, heach⟩, ?_⟩
      rcases hend with ⟨hnone, rfl⟩ | ⟨c, e, hc, herr, hno⟩
      · exact .inl ⟨hnone, rfl⟩
      · exact .inr ⟨c, e, by simpa using hc, herr, hno⟩

/-! ## `persist` against the `Store` stage -/

section Agree

variable {σ : Type} (db : ClassDb σ)

/-- The database opens and commits a transaction from every state: of a batch, only the
class writes can fail. -/
def ClassDb.TransactionsSucceed : Prop :=
  ∀ s, db.transaction s = .ok () ∧ db.commit s = .ok ()

/-- Where transactions open and commits succeed, committing classes one by one is making
their writes in order on one working copy. -/
theorem commitsEach_iff_writesEach (hdb : db.TransactionsSucceed) {s s' : σ}
    {classes : List CompiledClass} : CommitsEach db s classes s' ↔ WritesEach db s classes s' := by
  induction classes generalizing s with
  | nil => exact Iff.rfl
  | cons cls rest ih =>
    simp only [CommitsEach, WritesEach, CommitsClass, (hdb _).1, (hdb _).2, true_and, and_true, ih]

end Agree

/-- `persist` and the `Store` stage write a non-empty batch alike where the connection opens
and transactions open and commit: when every class's writes succeed, `persist` commits the
state the stage ends in and returns the block of the last class the stage passed on; when
the writes of some class fail, `persist` fails and commits nothing, where the stage has
committed the classes before that one. -/
theorem persist_agrees_with_store {σ : Type} (db : ClassDb σ) (hconn : db.connection = .ok ())
    (hdb : db.TransactionsSucceed) (committed : σ)
    (classes : List (PeerData CompiledClass)) (hne : classes ≠ []) :
    let run := runStage (Store.map ⟨db⟩) committed (classes.map (·.data))
    (run.2.1 = none →
      ∃ tail, run.1.getLast? = some tail ∧ persist db committed classes = (.ok tail, run.2.2)) ∧
    (run.2.1 ≠ none →
      (∃ e, (persist db committed classes).1 = .error e) ∧
        (persist db committed classes).2 = committed) := by
  dsimp only
  obtain ⟨last, hl⟩ := Option.ne_none_iff_exists'.mp (mt List.getLast?_eq_none_iff.mp hne)
  obtain ⟨k, hout, heach, hend⟩ := runStage_store_cases ⟨db⟩ committed (classes.map (·.data))
  have hwrites := (commitsEach_iff_writesEach db hdb).mp heach
  constructor
  · intro hnone
    rcases hend with ⟨-, rfl⟩ | ⟨cls, e, -, hsome, -⟩
    · rw [List.take_length] at hout hwrites
      refine ⟨last.data.blockNumber, by simp [hout, List.getLast?_map, hl], ?_⟩
      exact (persist_eq_ok_iff db).mpr ⟨hconn, (hdb _).1, by simp [hl], hwrites, (hdb _).2⟩
    · simp [hsome] at hnone
  · intro hsome
    rcases hend with ⟨hnone, -⟩ | ⟨cls, e, hk, -, hno⟩
    · exact absurd hnone hsome
    -- the stage stopped at a class whose writes fail on the state it reached
    have hsplit : classes.map (·.data) =
        (classes.map (·.data)).take k ++ cls :: (classes.map (·.data)).drop (k + 1) := by
      obtain ⟨hlt, rfl⟩ := List.getElem?_eq_some_iff.mp hk
      rw [← List.drop_eq_getElem_cons hlt, List.take_append_drop]
    have hfails : UpdateFails db cls
        (runStage (Store.map ⟨db⟩) committed (classes.map (·.data))).2.2 :=
      (updateFails_iff_not_writesClass db).mpr fun ⟨s', hw⟩ => hno ⟨s', (hdb _).1, hw, (hdb _).2⟩
    obtain ⟨e', he'⟩ := (persist_fails_iff db).mpr
      (.inr (.inr (.inr (.inl ⟨_, cls, _, _, hsplit, hwrites, hfails⟩))))
    exact ⟨⟨e', he'⟩, persist_committed_of_error db (Prod.ext he' rfl)⟩

/-- A database whose state is the log of the hashes written, that knows a casm hash for every
class and opens and commits every transaction. -/
def loggingDb : ClassDb (List ClassHash) where
  connection := .ok ()
  transaction := fun _ => .ok ()
  updateCairoClass := fun h _ s => .ok (s ++ [h])
  casmHash := fun _ _ => .ok (some ⟨0⟩)
  updateSierraClass := fun h _ _ _ s => .ok (s ++ [⟨h.felt⟩])
  commit := fun _ => .ok ()

theorem persist_agrees_with_store_logging :
    let classes : List (PeerData CompiledClass) := [⟨⟨0⟩, ⟨⟨1, by decide⟩, ⟨5⟩, .cairo []⟩⟩]
    let run := runStage (Store.map ⟨loggingDb⟩) [] (classes.map (·.data))
    loggingDb.connection = .ok () ∧ loggingDb.TransactionsSucceed ∧ classes ≠ [] ∧
    (run.2.1 = none →
      ∃ tail, run.1.getLast? = some tail ∧ persist loggingDb [] classes = (.ok tail, run.2.2)) ∧
    (run.2.1 ≠ none →
      (∃ e, (persist loggingDb [] classes).1 = .error e) ∧ (persist loggingDb [] classes).2 = []) :=
  ⟨rfl, fun _ => ⟨rfl, rfl⟩, List.cons_ne_nil _ _,
    persist_agrees_with_store loggingDb rfl (fun _ => ⟨rfl, rfl⟩) [] _ (List.cons_ne_nil _ _)⟩

end ClassSync
