import ClassSync.Matcher.Stream
import ClassSync.Matcher.Run

/-!
# Properties — what `verify_declared_at` guarantees

The laws of the matcher over every expectation sequence and every class-chunk stream, each
obtained by moving a property of `Cursor.run` along `verifyDeclaredAt_output`:

* the output is a prefix of the flattened peer stream, every class in it declared at its
  block, once, in block order, followed by at most one error;
* a peer stream that enumerates the expectations honestly is passed on whole;
* neither empty blocks among the expectations nor the chunk boundaries of the peer stream
  change the output;
* an error among the expectations ends the run as the end of the expectations does: it is
  not sent on, and nothing after it is pulled.
-/

namespace ClassSync

/-- What the matcher's output `out` is, over the expectations `entries` and the peer stream
`classes`: accepted classes `oks`, a prefix of the flattened stream, each declared at its
block by some entry, no `(block, hash)` pair twice, blocks non-decreasing; then nothing, or
one error, which is either the stream's own error at that point or the rejection of the
first class not accepted, whose block differs from the current entry's or whose hash is not
in that entry's remaining set. -/
def DeclaredPrefix (entries : List (BlockNumber × Finset ClassHash)) (classes : ClassStream)
    (out : List Item) : Prop :=
  ∃ oks tail, out = oks.map .ok ++ tail ∧
    oks.map .ok <+: flatten classes ∧
    (∀ c ∈ oks, ∃ e ∈ entries, c.data.blockNumber = e.1 ∧ c.data.hash ∈ e.2) ∧
    (oks.map fun c => (c.data.blockNumber, c.data.hash)).Nodup ∧
    (oks.map (·.data.blockNumber.get)).Sorted (· ≤ ·) ∧
    (tail = [] ∨ ∃ e rest, tail = [.error e] ∧
      (flatten classes = oks.map .ok ++ .error e :: rest ∨
       ∃ c cur, flatten classes = oks.map .ok ++ .ok c :: rest ∧ e = .unexpectedClass c.peer ∧
         ((Cursor.initial (entries.map .ok)).accepts oks).bind Cursor.refill = some cur ∧
         (c.data.blockNumber ≠ cur.declaredAt ∨ c.data.hash ∉ cur.declared)))

/-- Over ascending expectations and non-empty chunks, the output of `verify_declared_at` is
a declared prefix of the peer stream. -/
theorem verifyDeclaredAt_declaredPrefix (entries : List (BlockNumber × Finset ClassHash))
    (classes : ClassStream) (hasc : (entries.map (·.1.get)).Sorted (· < ·))
    (hne : ChunksNonEmpty classes) :
    DeclaredPrefix entries classes (verifyDeclaredAt (entries.map .ok) classes .alive).output := by
  rw [(verifyDeclaredAt_output _ classes hne).1]
  obtain ⟨oks, cur', hacc, hcases⟩ := Cursor.run_cases (Cursor.initial (entries.map .ok))
    (flatten classes)
  have hdecl : ∀ c ∈ oks, ∃ e ∈ entries, c.data.blockNumber = e.1 ∧ c.data.hash ∈ e.2 :=
    fun c hc => (Cursor.accepts_declared rfl hacc c hc).resolve_left (by simp [Cursor.initial])
  obtain ⟨hnd, hsort⟩ := Cursor.accepts_ordered ⟨entries, rfl, hasc, fun h => absurd rfl h⟩ hacc
  rcases hcases with ⟨hitems, hrun⟩ | ⟨e, rest, hitems, ⟨-, hrun⟩ | ⟨-, hrun⟩⟩ |
    ⟨c, rest, hitems, ⟨-, hrun⟩ | ⟨hc, hrun⟩⟩
  · exact ⟨oks, [], by simp [hrun], by simp [hitems], hdecl, hnd, hsort, .inl rfl⟩
  · exact ⟨oks, [], by simp [hrun], hitems ▸ List.prefix_append _ _, hdecl, hnd, hsort, .inl rfl⟩
  · exact ⟨oks, [.error e], hrun, hitems ▸ List.prefix_append _ _, hdecl, hnd, hsort,
      .inr ⟨e, rest, rfl, .inl hitems⟩⟩
  · exact ⟨oks, [], by simp [hrun], hitems ▸ List.prefix_append _ _, hdecl, hnd, hsort, .inl rfl⟩
  · obtain ⟨r, hr, hbad⟩ := Cursor.check_eq_unexpected hc
    exact ⟨oks, _, hrun, hitems ▸ List.prefix_append _ _, hdecl, hnd, hsort,
      .inr ⟨_, rest, rfl, .inr ⟨c, r, hitems, rfl, by simp [hacc, hr], hbad⟩⟩⟩

theorem verifyDeclaredAt_declaredPrefix_one_block :
    (([(⟨1, by decide⟩, {⟨1⟩})] : List (BlockNumber × Finset ClassHash)).map (·.1.get)).Sorted
        (· < ·) ∧
      ChunksNonEmpty [.ok [⟨⟨0⟩, ⟨⟨1, by decide⟩, ⟨1⟩, .cairo []⟩⟩]] ∧
      DeclaredPrefix [(⟨1, by decide⟩, {⟨1⟩})] [.ok [⟨⟨0⟩, ⟨⟨1, by decide⟩, ⟨1⟩, .cairo []⟩⟩]]
        (verifyDeclaredAt [.ok (⟨1, by decide⟩, {⟨1⟩})]
          [.ok [⟨⟨0⟩, ⟨⟨1, by decide⟩, ⟨1⟩, .cairo []⟩⟩]] .alive).output :=
  ⟨by decide, by decide, verifyDeclaredAt_declaredPrefix _ _ (by decide) (by decide)⟩

/-- An error chunk of the peer stream is passed on as it is, `UnexpectedClass` included:
here the matcher emits `UnexpectedClass` for a peer although the stream holds no class. -/
theorem verifyDeclaredAt_passes_stream_unexpectedClass :
    (verifyDeclaredAt [.ok (⟨1, by decide⟩, {⟨1⟩})] [.error (.unexpectedClass ⟨7⟩)] .alive).output =
        [.error (.unexpectedClass ⟨7⟩)] ∧
      ∀ c, Except.ok c ∉ flatten [.error (.unexpectedClass ⟨7⟩)] := by
  refine ⟨?_, by simp [flatten]⟩
  rw [(verifyDeclaredAt_output _ _ (by decide)).1]
  rfl

/-- A peer stream cut into non-empty chunks whose classes are a prefix of an honest
enumeration of the expectations (each block's hashes once, in any order, at that block, the
blocks in order) is passed on whole, with no error, and the task returns normally, wherever
the stream stops. -/
theorem verifyDeclaredAt_honest (entries : List (BlockNumber × Finset ClassHash))
    (blocks : List (List (PeerData Class))) (chunks : List (List (PeerData Class)))
    (hne : ∀ chunk ∈ chunks, chunk ≠ []) (henum : List.Forall₂ Cursor.Enumerates entries blocks)
    (hpre : chunks.flatten <+: blocks.flatten) :
    (verifyDeclaredAt (entries.map .ok) (chunks.map .ok) .alive).output =
        chunks.flatten.map .ok ∧
      (verifyDeclaredAt (entries.map .ok) (chunks.map .ok) .alive).outcome = .ok := by
  have hchunks : ChunksNonEmpty (chunks.map .ok) := by
    simpa [ChunksNonEmpty, ChunkAllowed] using hne
  obtain ⟨hout, hok⟩ := verifyDeclaredAt_output _ _ hchunks
  refine ⟨?_, hok⟩
  rw [hout, flatten_map_ok]
  exact @Cursor.run_honest _ _ _ [] _ rfl (by simp [Cursor.Enumerates, Cursor.initial]) henum
    (by simpa using hpre)

theorem verifyDeclaredAt_honest_split_block :
    (∀ chunk ∈ [[(⟨⟨0⟩, ⟨⟨5, by decide⟩, ⟨2⟩, .sierra []⟩⟩ : PeerData Class)]], chunk ≠ []) ∧
      List.Forall₂ Cursor.Enumerates [(⟨5, by decide⟩, {⟨1⟩, ⟨2⟩})]
        [[⟨⟨0⟩, ⟨⟨5, by decide⟩, ⟨2⟩, .sierra []⟩⟩, ⟨⟨0⟩, ⟨⟨5, by decide⟩, ⟨1⟩, .sierra []⟩⟩]] ∧
      [[(⟨⟨0⟩, ⟨⟨5, by decide⟩, ⟨2⟩, .sierra []⟩⟩ : PeerData Class)]].flatten <+:
        [[⟨⟨0⟩, ⟨⟨5, by decide⟩, ⟨2⟩, .sierra []⟩⟩, ⟨⟨0⟩, ⟨⟨5, by decide⟩, ⟨1⟩, .sierra []⟩⟩]].flatten ∧
      (verifyDeclaredAt [.ok (⟨5, by decide⟩, {⟨1⟩, ⟨2⟩})]
          [.ok [⟨⟨0⟩, ⟨⟨5, by decide⟩, ⟨2⟩, .sierra []⟩⟩]] .alive).output =
        [.ok ⟨⟨0⟩, ⟨⟨5, by decide⟩, ⟨2⟩, .sierra []⟩⟩] ∧
      (verifyDeclaredAt [.ok (⟨5, by decide⟩, {⟨1⟩, ⟨2⟩})]
          [.ok [⟨⟨0⟩, ⟨⟨5, by decide⟩, ⟨2⟩, .sierra []⟩⟩]] .alive).outcome = .ok := by
  have henum : List.Forall₂ Cursor.Enumerates [(⟨5, by decide⟩, {⟨1⟩, ⟨2⟩})]
      [[⟨⟨0⟩, ⟨⟨5, by decide⟩, ⟨2⟩, .sierra []⟩⟩, ⟨⟨0⟩, ⟨⟨5, by decide⟩, ⟨1⟩, .sierra []⟩⟩]] :=
    List.Forall₂.cons ⟨by decide, by decide, by decide⟩ .nil
  have hpre : [[(⟨⟨0⟩, ⟨⟨5, by decide⟩, ⟨2⟩, .sierra []⟩⟩ : PeerData Class)]].flatten <+:
      [[⟨⟨0⟩, ⟨⟨5, by decide⟩, ⟨2⟩, .sierra []⟩⟩, ⟨⟨0⟩, ⟨⟨5, by decide⟩, ⟨1⟩, .sierra []⟩⟩]].flatten :=
    ⟨[⟨⟨0⟩, ⟨⟨5, by decide⟩, ⟨1⟩, .sierra []⟩⟩], rfl⟩
  exact ⟨by decide, henum, hpre, verifyDeclaredAt_honest _ _ _ (by decide) henum hpre⟩

/-- The error path of the expectations: `_ = tx.send(Err(e.into()))` drops the send's future
unpolled, so the task returns having sent nothing, although the failure came first. -/
theorem verifyDeclaredAt_expectation_error_unsent :
    verifyDeclaredAt [.error (AnyhowError.msg "Block header not found")]
        [.ok [⟨⟨0⟩, ⟨⟨0, by decide⟩, ⟨1⟩, .cairo []⟩⟩]] .alive = ⟨[.pull], .ok⟩ ∧
      (verifyDeclaredAt [.error (AnyhowError.msg "Block header not found")]
        [.ok [⟨⟨0⟩, ⟨⟨0, by decide⟩, ⟨1⟩, .cairo []⟩⟩]] .alive).output = [] :=
  ⟨rfl, rfl⟩

/-- Wherever the expectations fail, the failure and everything after it leave no trace in the
task: over any peer stream and any receiver, its run, every pull and send and how it ends, is
the run over the expectations before the error, as if they had ended there. The error is not
sent on, and no expectation after it is pulled. -/
theorem verifyDeclaredAt_ignores_expectations_after_error (E : ExpectedStream) (e : AnyhowError)
    (rest : ExpectedStream) (classes : ClassStream) (tx : Sender) :
    verifyDeclaredAt (E ++ .error e :: rest) classes tx = verifyDeclaredAt E classes tx :=
  whileLoop_append_error e rest E _ classes tx

/-- Two runs whose expectations differ only by empty blocks, and whose peer streams hold the
same items however they are chunked, send the same output. -/
theorem verifyDeclaredAt_output_congr (E E' : ExpectedStream) (H H' : ClassStream)
    (hE : dropEmptyBlocks E = dropEmptyBlocks E') (hH : ChunksNonEmpty H)
    (hH' : ChunksNonEmpty H') (hflat : flatten H = flatten H') :
    (verifyDeclaredAt E H .alive).output = (verifyDeclaredAt E' H' .alive).output := by
  rw [(verifyDeclaredAt_output E H hH).1, (verifyDeclaredAt_output E' H' hH').1, hflat,
    ← Cursor.run_dropEmpty (Cursor.initial E), ← Cursor.run_dropEmpty (Cursor.initial E')]
  simp [Cursor.dropEmpty, Cursor.initial, hE]

/-- The split-chunk scenario: block 101 declares nothing and the second block's classes come
in one chunk or in two. -/
theorem verifyDeclaredAt_output_congr_split_chunks :
    dropEmptyBlocks [.ok (⟨100, by decide⟩, {⟨1⟩}), .ok (⟨101, by decide⟩, ∅),
        .ok (⟨102, by decide⟩, {⟨2⟩, ⟨3⟩})] =
      dropEmptyBlocks [.ok (⟨100, by decide⟩, {⟨1⟩}), .ok (⟨102, by decide⟩, {⟨2⟩, ⟨3⟩})] ∧
    ChunksNonEmpty [.ok [⟨⟨0⟩, ⟨⟨100, by decide⟩, ⟨1⟩, .cairo []⟩⟩],
      .ok [⟨⟨0⟩, ⟨⟨102, by decide⟩, ⟨2⟩, .sierra []⟩⟩, ⟨⟨0⟩, ⟨⟨102, by decide⟩, ⟨3⟩, .sierra []⟩⟩]] ∧
    ChunksNonEmpty [.ok [⟨⟨0⟩, ⟨⟨100, by decide⟩, ⟨1⟩, .cairo []⟩⟩],
      .ok [⟨⟨0⟩, ⟨⟨102, by decide⟩, ⟨2⟩, .sierra []⟩⟩], .ok [⟨⟨0⟩, ⟨⟨102, by decide⟩, ⟨3⟩, .sierra []⟩⟩]] ∧
    flatten [.ok [⟨⟨0⟩, ⟨⟨100, by decide⟩, ⟨1⟩, .cairo []⟩⟩],
        .ok [⟨⟨0⟩, ⟨⟨102, by decide⟩, ⟨2⟩, .sierra []⟩⟩, ⟨⟨0⟩, ⟨⟨102, by decide⟩, ⟨3⟩, .sierra []⟩⟩]] =
      flatten [.ok [⟨⟨0⟩, ⟨⟨100, by decide⟩, ⟨1⟩, .cairo []⟩⟩],
        .ok [⟨⟨0⟩, ⟨⟨102, by decide⟩, ⟨2⟩, .sierra []⟩⟩], .ok [⟨⟨0⟩, ⟨⟨102, by decide⟩, ⟨3⟩, .sierra []⟩⟩]] ∧
    (verifyDeclaredAt [.ok (⟨100, by decide⟩, {⟨1⟩}), .ok (⟨101, by decide⟩, ∅),
        .ok (⟨102, by decide⟩, {⟨2⟩, ⟨3⟩})]
        [.ok [⟨⟨0⟩, ⟨⟨100, by decide⟩, ⟨1⟩, .cairo []⟩⟩],
          .ok [⟨⟨0⟩, ⟨⟨102, by decide⟩, ⟨2⟩, .sierra []⟩⟩, ⟨⟨0⟩, ⟨⟨102, by decide⟩, ⟨3⟩, .sierra []⟩⟩]]
        .alive).output =
      (verifyDeclaredAt [.ok (⟨100, by decide⟩, {⟨1⟩}), .ok (⟨102, by decide⟩, {⟨2⟩, ⟨3⟩})]
        [.ok [⟨⟨0⟩, ⟨⟨100, by decide⟩, ⟨1⟩, .cairo []⟩⟩],
          .ok [⟨⟨0⟩, ⟨⟨102, by decide⟩, ⟨2⟩, .sierra []⟩⟩], .ok [⟨⟨0⟩, ⟨⟨102, by decide⟩, ⟨3⟩, .sierra []⟩⟩]]
        .alive).output :=
  ⟨by decide, by decide, by decide, rfl,
    verifyDeclaredAt_output_congr _ _ _ _ (by decide) (by decide) (by decide) rfl⟩

end ClassSync
