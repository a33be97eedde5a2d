import ClassSync.Expected
import ClassSync.Matcher.Stream

/-!
# Cancellation — the producers when their receiver goes away

The three producer tasks meet a dropped receiver in three ways. `ExpectedDeclarationsSource::spawn`
turns the failed send into its error with `.context(..)?` and returns. `verify_declared_at`
stops there too, but through `expect("Receiver not to be dropped")`, a panic.
`expected_declarations_stream` drops the result of `blocking_send`, where `spawn`, which walks
the same blocks, returns on it: it goes on querying up to `stop`, or up to the first failed
query, whatever the receiver does.
-/

namespace ClassSync

/-- For every receiver: the source's task stops at its first failed send and returns the send
error, never panicking; `verify_declared_at` stops at its first failed send by panicking. -/
theorem producers_on_dropped_receiver (source : ExpectedDeclarationsSource)
    (expected : ExpectedStream) (classes : ClassStream) (tx : Sender) :
    (source.spawn tx).StopsAtFailedSend (.err sendFailed) ∧
    (∀ msg, (source.spawn tx).outcome ≠ .panic msg) ∧
    (verifyDeclaredAt expected classes tx).StopsAtFailedSend
      (.panic "Receiver not to be dropped") := by
  refine ⟨?_, ?_, whileLoop_stopsAtFailedSend _ _ _ _⟩ <;> unfold ExpectedDeclarationsSource.spawn <;>
    split
  · exact .inl (by simp)
  · simpa [Run.StopsAtFailedSend, spawnLoop_eq_spawnTrace] using
      spawnTrace_stopsAtFailedSend _ _ _
  · simp
  · simpa [spawnLoop_eq_spawnTrace] using spawnTrace_ne_panic _ _ _

/-- `expected_declarations_stream` never looks at the result of `blocking_send`: for every
receiver it makes the queries it makes for a receiver that stays, and ends normally. -/
theorem expectedDeclarationsStream_ignores_receiver (storage : Storage)
    (start stop : BlockNumber) (tx : Sender) :
    (expectedDeclarationsStream storage start stop tx).queries =
      (expectedDeclarationsStream storage start stop .alive).queries ∧
    (expectedDeclarationsStream storage start stop tx).outcome = .ok := by
  unfold expectedDeclarationsStream
  split
  · exact ⟨rfl, rfl⟩
  split
  · exact ⟨rfl, rfl⟩
  simpa [Run.queries, streamLoop_eq_streamTrace] using streamTrace_queries _ _ _

/-- Every block declares class `1`. -/
def everyBlockDeclaresOne : Storage := ⟨.ok ⟨.ok ⟨fun _ => .ok (some [⟨1⟩])⟩⟩⟩

/-- The receivers dropped before the first send: `expected_declarations_stream` over blocks
`0..=1` queries block `1` after its send of block `0` failed, and `verify_declared_at` panics on
its first send. -/
theorem producers_query_or_panic_after_failed_send :
    (expectedDeclarationsStream everyBlockDeclaresOne .genesis ⟨1, by decide⟩ ⟨some 0⟩).trace =
      [.query .genesis, .send (.ok (.genesis, {⟨1⟩})) false,
        .query ⟨1, by decide⟩, .send (.ok (⟨1, by decide⟩, {⟨1⟩})) false] ∧
    (verifyDeclaredAt [.ok (.genesis, {⟨1⟩})]
        [.ok [⟨⟨0⟩, ⟨.genesis, ⟨1⟩, .cairo []⟩⟩]] ⟨some 0⟩).outcome =
      .panic "Receiver not to be dropped" := by
  constructor
  · simp [expectedDeclarationsStream, everyBlockDeclaresOne, streamLoop_eq_streamTrace,
      blocksFrom_of_le, blocksFrom_of_gt, streamTrace, queryDeclared, Except.context,
      Option.context, BlockNumber.genesis, Sender.send, Except.mapError, Except.bind, Except.map]
  · simp [verifyDeclaredAt, whileLoop]
    rw [declaredLoop]
    simp [ClassDechunker.new, ClassDechunker.next, checkDeclared, declaredCheck, Sender.send]

end ClassSync
