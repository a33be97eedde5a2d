import ClassSync.Expected
import ClassSync.Matcher.Stream
import ClassSync.Matcher.Run

/-!
# StreamChain — `verify_declared_at` fed by `expected_declarations_stream`

The stream functions of `class_definitions.rs` chain as the stages do: the expectations
`verify_declared_at` checks the peers' classes against are what `expected_declarations_stream`
reads from storage. This file states what the pair guarantees of every class it passes, over
any storage, any range and any peer stream.

The stream sends the non-empty declared sets of a first stretch of the range, then at most one
error (`expectedDeclarationsStream_output_cases`). The matcher never reads past an error among
its expectations (`Cursor.run_appendPending`), so it checks the classes against the sets alone,
and the cursor's `accepts_declared` and `accepts_ordered` carry over to the storage.
-/

namespace ClassSync

/-- What the output `out` of the matcher fed from `storage` over `start..=stop` is: classes
`oks` sent as `Ok`, then nothing or one error. Each class of `oks` is at a block of the range
and declared there, as `declared_classes_at` on the storage's transaction reads it; no
`(block, hash)` pair comes twice, and the blocks never go back. -/
def DeclaredInStorage (storage : Storage) (start stop : BlockNumber) (out : List Item) : Prop :=
  ∃ (oks : List (PeerData Class)) (tail : List Item),
    out = oks.map .ok ++ tail ∧ (tail = [] ∨ ∃ e, tail = [.error e]) ∧
    (∀ c ∈ oks, start ≤ c.data.blockNumber ∧ c.data.blockNumber ≤ stop ∧
      ∃ connection db hashes, storage.connection = .ok connection ∧
        connection.transaction = .ok db ∧
        db.declaredClassesAt c.data.blockNumber = .ok (some hashes) ∧ c.data.hash ∈ hashes) ∧
    (oks.map fun c => (c.data.blockNumber, c.data.hash)).Nodup ∧
    (oks.map (·.data.blockNumber.get)).Sorted (· ≤ ·)

/-- `verify_declared_at` fed by `expected_declarations_stream` over any storage and range, both
receivers kept, and by any peer stream in non-empty chunks, sends only classes declared in that
storage at their blocks, once each, in block order. A query of the storage that fails does not
change this: the classes sent are checked against the blocks before it. -/
theorem verifyDeclaredAt_sends_classes_declared_in_storage (storage : Storage)
    (start stop : BlockNumber) (classes : ClassStream) (hne : ChunksNonEmpty classes) :
    DeclaredInStorage storage start stop
      (verifyDeclaredAt (expectedDeclarationsStream storage start stop .alive).output classes
        .alive).output := by
  obtain ⟨entries, t, hout, ht, hsorted, hmem⟩ :=
    expectedDeclarationsStream_output_cases storage start stop
  have hadv : advance t = none := by rcases ht with rfl | ⟨e, rfl⟩ <;> rfl
  -- the matcher never reads the error the stream may end with
  have hrun : (verifyDeclaredAt (expectedDeclarationsStream storage start stop .alive).output
      classes .alive).output = (Cursor.initial (entries.map .ok)).run (flatten classes) := by
    rw [(verifyDeclaredAt_output _ classes hne).1, hout]
    exact Cursor.run_appendPending hadv (Cursor.initial (entries.map .ok)) _
  obtain ⟨oks, cur', hacc, hcases⟩ :=
    Cursor.run_cases (Cursor.initial (entries.map .ok)) (flatten classes)
  obtain ⟨tail, hrun', htail⟩ : ∃ tail, (Cursor.initial (entries.map .ok)).run (flatten classes) =
      oks.map .ok ++ tail ∧ (tail = [] ∨ ∃ e, tail = [.error e]) := by
    rcases hcases with ⟨-, h⟩ | ⟨e, -, -, ⟨-, h⟩ | ⟨-, h⟩⟩ | ⟨c, -, -, ⟨-, h⟩ | ⟨-, h⟩⟩ <;>
      first | exact ⟨_, h, .inr ⟨_, rfl⟩⟩ | exact ⟨[], h.trans (List.append_nil _).symm, .inl rfl⟩
  obtain ⟨hnd, hsort⟩ := Cursor.accepts_ordered ⟨entries, rfl, hsorted, fun h => absurd rfl h⟩ hacc
  refine ⟨oks, tail, hrun.trans hrun', htail, fun c hc => ?_, hnd, hsort⟩
  obtain ⟨e, he, hb, hh⟩ :=
    (Cursor.accepts_declared rfl hacc c hc).resolve_left (by simp [Cursor.initial])
  obtain ⟨hstart, hstop, connection, db, hashes, hconn, htx, hd, hs⟩ := hmem e he
  rw [hb]
  exact ⟨hstart, hstop, connection, db, hashes, hconn, htx, hd, List.mem_toFinset.mp (hs ▸ hh)⟩

theorem verifyDeclaredAt_sends_classes_declared_in_storage_one_block :
    ChunksNonEmpty [.ok [⟨⟨0⟩, ⟨⟨1, by decide⟩, ⟨1⟩, .cairo []⟩⟩]] ∧
      DeclaredInStorage ⟨.ok ⟨.ok ⟨fun _ => .ok (some [⟨1⟩])⟩⟩⟩ ⟨1, by decide⟩ ⟨1, by decide⟩
        (verifyDeclaredAt (expectedDeclarationsStream ⟨.ok ⟨.ok ⟨fun _ => .ok (some [⟨1⟩])⟩⟩⟩
          ⟨1, by decide⟩ ⟨1, by decide⟩ .alive).output
          [.ok [⟨⟨0⟩, ⟨⟨1, by decide⟩, ⟨1⟩, .cairo []⟩⟩]] .alive).output :=
  ⟨by decide, verifyDeclaredAt_sends_classes_declared_in_storage _ _ _ _ (by decide)⟩

end ClassSync
