import ClassSync.Pipe
import ClassSync.Matcher.Properties

/-!
# Stage — `VerifyDeclaredAt`, the `ProcessStage` form of the matcher

The stage keeps the receiver of `ExpectedDeclarationsSource::spawn` and the current
expectation, and checks one class per `map`. It pulls expectations lazily, when a class
arrives and the current set is exhausted; the stream `verify_declared_at` pulls them eagerly,
before it pulls a class. `toCursor` maps the stage's state to the shared cursor, and
`map_of_check` says that one `map` is one `Cursor.check`.

`verifyDeclaredAt_stage_agrees` is the simulation over whole runs: on the same expectations
and classes the stage passes exactly the classes the stream sends as `Ok`, and rejects a
class exactly where the stream sends `UnexpectedClass`; they differ only when the
expectations run out, where the stage reports the closed receiver and the stream ends.
-/

namespace ClassSync

/-- `VerifyDeclaredAt`: its receiver, as the expectations it will still yield before the
sending end closes, and the current expectation. -/
structure VerifyDeclaredAt where
  expectationSource : List ExpectedDeclarations
  current : ExpectedDeclarations

namespace VerifyDeclaredAt

/-- `VerifyDeclaredAt::new`. -/
def new (expectationSource : List ExpectedDeclarations) : VerifyDeclaredAt :=
  ⟨expectationSource, default⟩

/-- The `loop` of `map`: receive until a block with declared classes, `None` once the
channel is closed. -/
def recvDeclared : List ExpectedDeclarations → Option (ExpectedDeclarations × List ExpectedDeclarations)
  | [] => none
  | expected :: rest => if expected.classes = ∅ then recvDeclared rest else some (expected, rest)

/-- The first statement of `map`: when the current set is exhausted, receive the next
expectation with declared classes. -/
def refill (self : VerifyDeclaredAt) : Except SyncError2 VerifyDeclaredAt :=
  if self.current.classes = ∅ then
    match recvDeclared self.expectationSource with
    | none => .error (.other (AnyhowError.msg "Receiving expected declarations"))
    | some (expected, rest) => .ok ⟨rest, expected⟩
  else .ok self

/-- `<VerifyDeclaredAt as ProcessStage>::map`. -/
def map (self : VerifyDeclaredAt) (input : Class) : Except SyncError2 (Class × VerifyDeclaredAt) :=
  match self.refill with
  | .error e => .error e
  | .ok self =>
    match declaredCheck self.current.blockNumber self.current.classes input.blockNumber input.hash with
    | some classes => .ok (input, { self with current := { self.current with classes } })
    | none => .error .unexpectedClass

/-- The expectations as the stream `verify_declared_at` would receive them. -/
def asStream (es : List ExpectedDeclarations) : ExpectedStream :=
  es.map fun e => .ok (e.blockNumber, e.classes)

/-- The stage's state as a cursor. -/
def toCursor (self : VerifyDeclaredAt) : Cursor :=
  ⟨self.current.blockNumber, self.current.classes, asStream self.expectationSource⟩

theorem advance_asStream (es : List ExpectedDeclarations) :
    advance (asStream es) =
      (recvDeclared es).map fun (e, rest) => ⟨e.blockNumber, e.classes, asStream rest⟩ := by
  induction es with
  | nil => rfl
  | cons e es ih =>
    by_cases he : e.classes = ∅
    · simpa [asStream, advance, recvDeclared, he] using ih
    · simp [asStream, advance, recvDeclared, he]

@[simp] theorem toCursor_new (es : List ExpectedDeclarations) :
    (new es).toCursor = Cursor.initial (asStream es) := rfl

/-- The stage refills as the cursor does; it fails exactly where the cursor runs out. -/
theorem toCursor_refill (self : VerifyDeclaredAt) :
    (∀ s, self.refill = .ok s → self.toCursor.refill = some s.toCursor) ∧
    (∀ e, self.refill = .error e →
      self.toCursor.refill = none ∧ e = .other (AnyhowError.msg "Receiving expected declarations")) := by
  by_cases hc : self.current.classes = ∅
  · have hr : self.toCursor.refill =
        (recvDeclared self.expectationSource).map fun (e, rest) =>
          ⟨e.blockNumber, e.classes, asStream rest⟩ := by
      simp [Cursor.refill, toCursor, hc, advance_asStream]
    rcases hrecv : recvDeclared self.expectationSource with _ | ⟨e, rest⟩
    · simp [refill, hc, hrecv, hr]
    · simp [refill, hc, hrecv, hr]; rfl
  · simp [refill, hc, @Cursor.refill_of_ne_empty self.toCursor hc]

/-- One `map` is one `Cursor.check` on the stage's state. -/
theorem map_of_check (self : VerifyDeclaredAt) (input : Class) :
    (∀ cur, self.toCursor.check input.blockNumber input.hash = .accepted cur →
      ∃ self', self.map input = .ok (input, self') ∧ self'.toCursor = cur) ∧
    (self.toCursor.check input.blockNumber input.hash = .unexpected →
      self.map input = .error .unexpectedClass) ∧
    (self.toCursor.check input.blockNumber input.hash = .exhausted →
      self.map input = .error (.other (AnyhowError.msg "Receiving expected declarations"))) := by
  obtain ⟨hok, herr⟩ := self.toCursor_refill
  rcases hs : self.refill with e | s
  · obtain ⟨hnone, rfl⟩ := herr e hs
    simp [Cursor.check, hnone, map, hs]
  rcases hd : declaredCheck s.current.blockNumber s.current.classes input.blockNumber input.hash
    with _ | c
  · simp [Cursor.check_of_refill_unexpected (hok s hs) hd, hd, map, hs]
  have hv := Cursor.check_of_refill_accepted (hok s hs) hd
  refine ⟨fun cur hcur => ?_, by simp [hv], by simp [hv]⟩
  rw [hv, Verdict.accepted.injEq] at hcur
  exact ⟨⟨s.expectationSource, { s.current with classes := c }⟩, by simp [map, hs, hd], hcur⟩

/-- What `map` passes on is its input. -/
theorem map_passes_input {self self' : VerifyDeclaredAt} {input out : Class}
    (h : self.map input = .ok (out, self')) : out = input := by
  unfold map at h
  split at h
  · cases h
  · split at h <;> cases h; rfl

/-- The cursor of the stage's state accepts every class the stage passes, under any peer. -/
theorem runStage_accepts (self : VerifyDeclaredAt) (cs : List Class) (peer : PeerId) :
    (self.toCursor.accepts ((runStage map self cs).1.map (PeerData.mk peer))).isSome := by
  induction cs generalizing self with
  | nil => rfl
  | cons c cs ih =>
    obtain ⟨hacc, hunexp, hexh⟩ := self.map_of_check c
    rcases hv : self.toCursor.check c.blockNumber c.hash with cur | _ | _
    · obtain ⟨self', hmap, rfl⟩ := hacc cur hv
      simpa [runStage_cons_ok _ hmap, Cursor.accepts, hv] using ih self'
    · simp [runStage_cons_error _ (hunexp hv), Cursor.accepts]
    · simp [runStage_cons_error _ (hexh hv), Cursor.accepts]

end VerifyDeclaredAt

/-- Over expectations in strictly ascending block order, every class the stage passes is
declared by one of them, and no `(block, hash)` pair passes twice. -/
theorem VerifyDeclaredAt.runStage_declared (E : List ExpectedDeclarations)
    (hE : (E.map (·.blockNumber.get)).Sorted (· < ·)) (classes : List Class) :
    (∀ c ∈ (runStage map (new E) classes).1,
      ∃ e ∈ E, c.blockNumber = e.blockNumber ∧ c.hash ∈ e.classes) ∧
    ((runStage map (new E) classes).1.map fun c => (c.blockNumber, c.hash)).Nodup := by
  set entries := E.map fun e => (e.blockNumber, e.classes)
  have hp : (new E).toCursor.pending = entries.map .ok := by
    simp [toCursor, new, asStream, entries]
  have ho : (new E).toCursor.Ordered :=
    ⟨entries, hp, by simpa [entries, List.map_map] using hE, fun h => absurd rfl h⟩
  obtain ⟨cur, hacc⟩ := Option.isSome_iff_exists.mp (runStage_accepts (new E) classes ⟨0⟩)
  refine ⟨fun c hc => ?_, by simpa [List.map_map] using (Cursor.accepts_ordered ho hacc).1⟩
  rcases Cursor.accepts_declared hp hacc ⟨⟨0⟩, c⟩ (List.mem_map_of_mem _ hc) with
    ⟨-, hh⟩ | ⟨e, he, hb, hh⟩
  · exact absurd hh (Finset.not_mem_empty _)
  · obtain ⟨e', he', rfl⟩ := List.mem_map.mp he
    exact ⟨e', he', hb, hh⟩

/-- Over expectations in strictly ascending block order, the stage passes classes in
non-decreasing block order. -/
theorem VerifyDeclaredAt.runStage_sorted (E : List ExpectedDeclarations)
    (hE : (E.map (·.blockNumber.get)).Sorted (· < ·)) (classes : List Class) :
    ((runStage map (new E) classes).1.map (·.blockNumber.get)).Sorted (· ≤ ·) := by
  have ho : (new E).toCursor.Ordered :=
    ⟨E.map fun e => (e.blockNumber, e.classes), by simp [toCursor, new, asStream],
      by simpa [List.map_map] using hE, fun h => absurd rfl h⟩
  obtain ⟨cur, hacc⟩ := Option.isSome_iff_exists.mp (runStage_accepts (new E) classes ⟨0⟩)
  simpa [List.map_map] using (Cursor.accepts_ordered ho hacc).2

/-- How a run of the stage over `cs` (what it passed, the error that stopped it) and the
stream's output `out` over the same classes correspond: both accept the first `k` classes;
then both stop there, the stage rejecting the next class exactly when the stream sends
`UnexpectedClass` for it, and the stage reporting the closed receiver where the stream ends
without error. -/
def StageAgrees (cs : List (PeerData Class)) (passed : List Class) (err : Option SyncError2)
    (out : List Item) : Prop :=
  ∃ k, passed = (cs.take k).map (·.data) ∧
    (k = cs.length ∧ err = none ∧ out = cs.map .ok ∨
     (∃ c, cs.get? k = some c ∧ err = some .unexpectedClass ∧
       out = (cs.take k).map .ok ++ [.error (.unexpectedClass c.peer)]) ∨
     (k < cs.length ∧ err = some (.other (AnyhowError.msg "Receiving expected declarations")) ∧
       out = (cs.take k).map .ok))

theorem StageAgrees.cons {cs : List (PeerData Class)} {passed : List Class}
    {err : Option SyncError2} {out : List Item} (h : StageAgrees cs passed err out)
    (c : PeerData Class) : StageAgrees (c :: cs) (c.data :: passed) err (.ok c :: out) := by
  obtain ⟨k, rfl, hk⟩ := h
  refine ⟨k + 1, by simp, ?_⟩
  rcases hk with ⟨rfl, rfl, rfl⟩ | ⟨c', hc', rfl, rfl⟩ | ⟨hk, rfl, rfl⟩
  · exact .inl ⟨by simp, rfl, by simp⟩
  · exact .inr (.inl ⟨c', by simpa using hc', rfl, by simp⟩)
  · exact .inr (.inr ⟨by simpa using hk, rfl, by simp⟩)

/-- The simulation at the cursor: the stage from any state, and the cursor of that state. -/
theorem runStage_agrees (self : VerifyDeclaredAt) (cs : List (PeerData Class)) :
    StageAgrees cs (runStage VerifyDeclaredAt.map self (cs.map (·.data))).1
      (runStage VerifyDeclaredAt.map self (cs.map (·.data))).2.1
      (self.toCursor.run (cs.map .ok)) := by
  induction cs generalizing self with
  | nil => exact ⟨0, rfl, .inl ⟨rfl, rfl, rfl⟩⟩
  | cons c cs ih =>
    obtain ⟨hacc, hunexp, hexh⟩ := self.map_of_check c.data
    rcases hv : self.toCursor.check c.data.blockNumber c.data.hash with cur | _ | _
    · obtain ⟨self', hmap, rfl⟩ := hacc cur hv
      have hrun : self.toCursor.run (.ok c :: cs.map .ok) = .ok c :: self'.toCursor.run (cs.map .ok) := by
        simp [Cursor.run, hv]
      simpa [runStage_cons_ok _ hmap, hrun] using (ih self').cons c
    · refine ⟨0, by simp [runStage_cons_error _ (hunexp hv)], .inr (.inl ⟨c, rfl, ?_, ?_⟩)⟩
      · simp [runStage_cons_error _ (hunexp hv)]
      · simp [Cursor.run, hv]
    · refine ⟨0, by simp [runStage_cons_error _ (hexh hv)], .inr (.inr ⟨by simp, ?_, ?_⟩)⟩
      · simp [runStage_cons_error _ (hexh hv)]
      · simp [Cursor.run, hv]

/-- The stage `VerifyDeclaredAt`, fed from a receiver that yields `E` and closes, and the
stream `verify_declared_at`, fed `E` and any non-empty chunking of the same classes, agree:
the stage passes exactly the classes the stream sends as `Ok`, rejects the `k`-th class with
`UnexpectedClass` exactly when the stream sends `UnexpectedClass` as its `k`-th item, and
fails on the closed receiver exactly where the stream ends silently. -/
theorem verifyDeclaredAt_stage_agrees (E : List ExpectedDeclarations) (H : ClassStream)
    (cs : List (PeerData Class)) (hH : ChunksNonEmpty H) (hflat : flatten H = cs.map .ok) :
    StageAgrees cs
      (runStage VerifyDeclaredAt.map (VerifyDeclaredAt.new E) (cs.map (·.data))).1
      (runStage VerifyDeclaredAt.map (VerifyDeclaredAt.new E) (cs.map (·.data))).2.1
      (verifyDeclaredAt (VerifyDeclaredAt.asStream E) H .alive).output := by
  rw [(verifyDeclaredAt_output _ H hH).1, hflat, ← VerifyDeclaredAt.toCursor_new]
  exact runStage_agrees _ cs

theorem verifyDeclaredAt_stage_agrees_two_blocks :
    ChunksNonEmpty [.ok [⟨⟨0⟩, ⟨⟨5, by decide⟩, ⟨1⟩, .cairo []⟩⟩, ⟨⟨0⟩, ⟨⟨6, by decide⟩, ⟨2⟩, .cairo []⟩⟩]] ∧
      flatten [.ok [⟨⟨0⟩, ⟨⟨5, by decide⟩, ⟨1⟩, .cairo []⟩⟩, ⟨⟨0⟩, ⟨⟨6, by decide⟩, ⟨2⟩, .cairo []⟩⟩]] =
        [(⟨⟨0⟩, ⟨⟨5, by decide⟩, ⟨1⟩, .cairo []⟩⟩ : PeerData Class), ⟨⟨0⟩, ⟨⟨6, by decide⟩, ⟨2⟩, .cairo []⟩⟩].map .ok ∧
      StageAgrees [⟨⟨0⟩, ⟨⟨5, by decide⟩, ⟨1⟩, .cairo []⟩⟩, ⟨⟨0⟩, ⟨⟨6, by decide⟩, ⟨2⟩, .cairo []⟩⟩]
        (runStage VerifyDeclaredAt.map (VerifyDeclaredAt.new [⟨⟨5, by decide⟩, {⟨1⟩}⟩])
          ([(⟨⟨0⟩, ⟨⟨5, by decide⟩, ⟨1⟩, .cairo []⟩⟩ : PeerData Class),
            ⟨⟨0⟩, ⟨⟨6, by decide⟩, ⟨2⟩, .cairo []⟩⟩].map (·.data))).1
        (runStage VerifyDeclaredAt.map (VerifyDeclaredAt.new [⟨⟨5, by decide⟩, {⟨1⟩}⟩])
          ([(⟨⟨0⟩, ⟨⟨5, by decide⟩, ⟨1⟩, .cairo []⟩⟩ : PeerData Class),
            ⟨⟨0⟩, ⟨⟨6, by decide⟩, ⟨2⟩, .cairo []⟩⟩].map (·.data))).2.1
        (verifyDeclaredAt (VerifyDeclaredAt.asStream [⟨⟨5, by decide⟩, {⟨1⟩}⟩])
          [.ok [⟨⟨0⟩, ⟨⟨5, by decide⟩, ⟨1⟩, .cairo []⟩⟩, ⟨⟨0⟩, ⟨⟨6, by decide⟩, ⟨2⟩, .cairo []⟩⟩]]
          .alive).output :=
  ⟨by decide, rfl, verifyDeclaredAt_stage_agrees _ _ _ (by decide) rfl⟩

/-! ## Honest classes pass whole -/

/-- Where the stream sends every class as `Ok`, the stage passes every class and stops on
none. -/
theorem StageAgrees.of_all_ok {cs : List (PeerData Class)} {passed : List Class}
    {err : Option SyncError2} (h : StageAgrees cs passed err (cs.map .ok)) :
    passed = cs.map (·.data) ∧ err = none := by
  obtain ⟨k, rfl, hk⟩ := h
  rcases hk with ⟨rfl, herr, -⟩ | ⟨c, -, -, hout⟩ | ⟨hlt, -, hout⟩
  · exact ⟨by simp, herr⟩
  · have hmem : (.error (.unexpectedClass c.peer) : Item) ∈ cs.map .ok := hout ▸ by simp
    simp at hmem
  · have hlen := congrArg List.length hout
    simp at hlen
    omega

/-- Classes that, in order, begin an enumeration of the stage's expectations block by block,
whatever peers sent them, pass the stage whole: it stops on none of them. -/
theorem VerifyDeclaredAt.runStage_honest (E : List ExpectedDeclarations)
    {blocks : List (List (PeerData Class))}
    (hb : List.Forall₂ (fun e L => Cursor.Enumerates (e.blockNumber, e.classes) L) E blocks)
    {cs : List (PeerData Class)} (hpre : cs <+: blocks.flatten) :
    (runStage VerifyDeclaredAt.map (VerifyDeclaredAt.new E) (cs.map (·.data))).1 = cs.map (·.data) ∧
      (runStage VerifyDeclaredAt.map (VerifyDeclaredAt.new E) (cs.map (·.data))).2.1 = none := by
  have hp : (VerifyDeclaredAt.new E).toCursor.pending =
      (E.map fun e => (e.blockNumber, e.classes)).map .ok := by
    simp [VerifyDeclaredAt.toCursor, VerifyDeclaredAt.new, VerifyDeclaredAt.asStream]
  have hrun : (VerifyDeclaredAt.new E).toCursor.run (cs.map .ok) = cs.map .ok :=
    @Cursor.run_honest cs _ _ [] blocks hp ⟨fun _ h => (nomatch h), List.nodup_nil, rfl⟩
      (List.forall₂_map_left_iff.mpr hb) (by simpa using hpre)
  have hagree := runStage_agrees (VerifyDeclaredAt.new E) cs
  rw [hrun] at hagree
  exact hagree.of_all_ok

end ClassSync
