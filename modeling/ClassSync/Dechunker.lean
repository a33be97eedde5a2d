import ClassSync.Basic

/-!
# Dechunker — `ClassDechunker` over a stream of class chunks

Peers send classes in chunks; `verify_declared_at` wants them one at a time.
`ClassDechunker::next` hands out the front of its buffer and refills the buffer from the
next chunk when it is empty, passing errors of the chunk stream through as single items.

The invariant that makes the dechunker invisible: its buffer followed by the unread chunks,
flattened, is exactly what `next` will still return (`remaining`). Every lemma below is a
consequence of `next_of_remaining_cons` and `next_of_remaining_nil`, which hold whenever the
stream's chunks are non-empty, the caller's promise in the source; `nextN_remaining` carries
them over any number of successive calls.
-/

namespace ClassSync

/-- An item of the class stream after dechunking. -/
abbrev Item := Except SyncError (PeerData Class)

/-- The `classes` input of `verify_declared_at`: chunks as peers sent them, or errors. -/
abbrev ClassStream := List (Except SyncError (List (PeerData Class)))

/-- An item the caller may put in `classes`: an error, or a chunk that is not empty. -/
def ChunkAllowed : Except SyncError (List (PeerData Class)) → Prop
  | .ok chunk => chunk ≠ []
  | .error _ => True

instance : DecidablePred ChunkAllowed := fun
  | .ok chunk => inferInstanceAs (Decidable (chunk ≠ []))
  | .error _ => inferInstanceAs (Decidable True)

/-- The caller's promise: chunks in `classes` are never empty. -/
def ChunksNonEmpty (classes : ClassStream) : Prop := ∀ x ∈ classes, ChunkAllowed x

instance (classes : ClassStream) : Decidable (ChunksNonEmpty classes) :=
  inferInstanceAs (Decidable (∀ x ∈ classes, ChunkAllowed x))

/-- The items a class stream holds, in order: each chunk's classes, each error once. -/
def flatten : ClassStream → List Item
  | [] => []
  | .ok chunk :: rest => chunk.map .ok ++ flatten rest
  | .error e :: rest => .error e :: flatten rest

@[simp] theorem flatten_map_ok (chunks : List (List (PeerData Class))) :
    flatten (chunks.map .ok) = chunks.flatten.map .ok := by
  induction chunks with
  | nil => rfl
  | cons chunk chunks ih => simp [flatten, ih]

/-- `ClassDechunker(VecDeque<PeerData<Class>>)`. -/
structure ClassDechunker where
  buffer : List (PeerData Class)

/-- What `ClassDechunker::next` gives back, with the dechunker and the stream after it. -/
inductive DechunkerNext
  /-- `classes` has terminated. -/
  | none
  | some (item : Item) (self : ClassDechunker) (classes : ClassStream)
  /-- The `expect` on an empty chunk. -/
  | panic (msg : String)

namespace ClassDechunker

/-- `ClassDechunker::new`. -/
def new : ClassDechunker := ⟨[]⟩

/-- `ClassDechunker::next`; an `Ok` chunk is extended into the empty buffer. -/
def next (self : ClassDechunker) (classes : ClassStream) : DechunkerNext :=
  match self.buffer with
  | x :: buffer => .some (.ok x) ⟨buffer⟩ classes
  | [] =>
    match classes with
    | [] => .none
    | .error e :: rest => .some (.error e) self rest
    | .ok chunk :: rest =>
      match chunk with
      | [] => .panic "Chunk not to be empty"
      | x :: buffer => .some (.ok x) ⟨buffer⟩ rest

/-- What `next` will still return: the buffer, then the unread chunks flattened. -/
def remaining (self : ClassDechunker) (classes : ClassStream) : List Item :=
  self.buffer.map .ok ++ flatten classes

/-- Items and chunk boundaries left; every `next` that returns an item lowers it. -/
def pending (self : ClassDechunker) (classes : ClassStream) : Nat :=
  self.buffer.length + (classes.map fun
    | .ok chunk => chunk.length + 1
    | .error _ => 1).foldr (· + ·) 0

variable {self d : ClassDechunker} {classes cs : ClassStream} {x : Item}

theorem next_pending_lt (h : self.next classes = .some x d cs) :
    d.pending cs < self.pending classes := by
  rcases self with ⟨_ | ⟨y, buffer⟩⟩
  · rcases classes with _ | ⟨_ | chunk, rest⟩
    · simp [next] at h
    · simp only [next, DechunkerNext.some.injEq] at h
      obtain ⟨-, rfl, rfl⟩ := h
      simp [pending]
    · rcases chunk with _ | ⟨y, buffer⟩
      · simp [next] at h
      · simp only [next, DechunkerNext.some.injEq] at h
        obtain ⟨-, rfl, rfl⟩ := h
        simp [pending]; omega
  · simp only [next, DechunkerNext.some.injEq] at h
    obtain ⟨-, rfl, rfl⟩ := h
    simp [pending]

@[simp] theorem chunksNonEmpty_cons {c : Except SyncError (List (PeerData Class))} :
    ChunksNonEmpty (c :: classes) ↔ ChunkAllowed c ∧ ChunksNonEmpty classes :=
  List.forall_mem_cons

/-- An exhausted dechunker over non-empty chunks says the stream has terminated. -/
theorem next_of_remaining_nil (hne : ChunksNonEmpty classes)
    (h : self.remaining classes = []) : self.next classes = .none := by
  rcases self with ⟨_ | ⟨y, buffer⟩⟩
  · rcases classes with _ | ⟨_ | chunk, rest⟩
    · rfl
    · simp [remaining, flatten] at h
    · have : chunk ≠ [] := (chunksNonEmpty_cons.mp hne).1
      simp_all [remaining, flatten]
  · simp [remaining] at h

/-- Over non-empty chunks, `next` returns the front of `remaining` and keeps the rest. -/
theorem next_of_remaining_cons (hne : ChunksNonEmpty classes) {rest : List Item}
    (h : self.remaining classes = x :: rest) :
    ∃ d cs, self.next classes = .some x d cs ∧ d.remaining cs = rest ∧ ChunksNonEmpty cs := by
  rcases self with ⟨_ | ⟨y, buffer⟩⟩
  · rcases classes with _ | ⟨_ | chunk, rest'⟩
    · simp [remaining, flatten] at h
    · simp only [remaining, flatten, List.map_nil, List.nil_append, List.cons.injEq] at h
      obtain ⟨rfl, rfl⟩ := h
      exact ⟨⟨[]⟩, rest', rfl, by simp [remaining], (chunksNonEmpty_cons.mp hne).2⟩
    · have hc : chunk ≠ [] := (chunksNonEmpty_cons.mp hne).1
      obtain ⟨y, buffer, rfl⟩ := List.exists_cons_of_ne_nil hc
      simp only [remaining, flatten, List.map_nil, List.nil_append, List.map_cons,
        List.cons_append, List.cons.injEq] at h
      obtain ⟨rfl, rfl⟩ := h
      exact ⟨⟨_⟩, rest', rfl, rfl, (chunksNonEmpty_cons.mp hne).2⟩
  · simp only [remaining, List.map_cons, List.cons_append, List.cons.injEq] at h
    obtain ⟨rfl, rfl⟩ := h
    exact ⟨⟨buffer⟩, classes, rfl, rfl, hne⟩

/-- A fresh dechunker has nothing buffered: it will return the stream's items. -/
@[simp] theorem new_remaining (classes : ClassStream) : new.remaining classes = flatten classes := by
  simp [new, remaining]

/-! ## Successive calls -/

/-- `n` successive calls of `next`, each on the dechunker and stream the one before left, as
the loops of `verify_declared_at` make them: what the calls return (`none` once `classes` has
terminated), with the dechunker and stream after them; or the panic that ends them. -/
def nextN : Nat → ClassDechunker → ClassStream →
    Except String (List (Option Item) × ClassDechunker × ClassStream)
  | 0, self, classes => .ok ([], self, classes)
  | n + 1, self, classes =>
    match self.next classes with
    | .none => (nextN n self classes).map fun r => (none :: r.1, r.2)
    | .some x d cs => (nextN n d cs).map fun r => (some x :: r.1, r.2)
    | .panic msg => .error msg

/-- Over non-empty chunks, the `i`-th of `n` calls returns the `i`-th item `remaining` holds,
or `none` past its end, and what the dechunker and stream hold after them is what the calls
did not return. -/
theorem nextN_remaining (n : Nat) (self : ClassDechunker) (classes : ClassStream)
    (hne : ChunksNonEmpty classes) :
    ∃ d cs, self.nextN n classes =
        .ok ((List.range n).map fun i => (self.remaining classes)[i]?, d, cs) ∧
      d.remaining cs = (self.remaining classes).drop n ∧ ChunksNonEmpty cs := by
  induction n generalizing self classes with
  | zero => exact ⟨self, classes, rfl, rfl, hne⟩
  | succ n ih =>
    rcases hrem : self.remaining classes with _ | ⟨x, rest⟩
    · obtain ⟨d, cs, hrun, hd, hcs⟩ := ih self classes hne
      refine ⟨d, cs, ?_, by simpa [hrem] using hd, hcs⟩
      simp [nextN, next_of_remaining_nil hne hrem, hrun, hrem, List.range_succ_eq_map,
        Except.map, Function.comp_def]
    · obtain ⟨d', cs', hnext, hd', hne'⟩ := next_of_remaining_cons hne hrem
      obtain ⟨d, cs, hrun, hd, hcs⟩ := ih d' cs' hne'
      refine ⟨d, cs, ?_, by simpa [hd'] using hd, hcs⟩
      simp [nextN, hnext, hrun, hd', List.range_succ_eq_map, Except.map]

end ClassDechunker

/-- On a fresh dechunker and a stream of non-empty chunks, successive calls of `next` return
the stream's items one by one, each `Ok` chunk's classes in order and each `Err` once, then
`None`; they never reach the `expect` on an empty chunk; and after `n` calls the buffer and
the unread chunks hold, flattened, exactly the items not yet returned. -/
theorem dechunker_returns_stream_items (classes : ClassStream) (hne : ChunksNonEmpty classes)
    (n : Nat) :
    ∃ d cs, ClassDechunker.new.nextN n classes =
        .ok ((List.range n).map fun i => (flatten classes)[i]?, d, cs) ∧
      d.remaining cs = (flatten classes).drop n := by
  obtain ⟨d, cs, hrun, hd, -⟩ := ClassDechunker.nextN_remaining n .new classes hne
  rw [ClassDechunker.new_remaining] at hrun hd
  exact ⟨d, cs, hrun, hd⟩

/-- A chunk of two classes and an error, read by four calls. -/
theorem dechunker_returns_stream_items_chunk_and_error :
    ChunksNonEmpty [.ok [⟨⟨0⟩, ⟨⟨5, by decide⟩, ⟨1⟩, .cairo []⟩⟩, ⟨⟨0⟩, ⟨⟨5, by decide⟩, ⟨2⟩, .cairo []⟩⟩],
      .error (.unexpectedClass ⟨1⟩)] ∧
    ∃ d cs, ClassDechunker.new.nextN 4
        [.ok [⟨⟨0⟩, ⟨⟨5, by decide⟩, ⟨1⟩, .cairo []⟩⟩, ⟨⟨0⟩, ⟨⟨5, by decide⟩, ⟨2⟩, .cairo []⟩⟩],
          .error (.unexpectedClass ⟨1⟩)] =
        .ok ((List.range 4).map fun i => (flatten
          [.ok [⟨⟨0⟩, ⟨⟨5, by decide⟩, ⟨1⟩, .cairo []⟩⟩, ⟨⟨0⟩, ⟨⟨5, by decide⟩, ⟨2⟩, .cairo []⟩⟩],
            .error (.unexpectedClass ⟨1⟩)])[i]?, d, cs) ∧
      d.remaining cs = (flatten
        [.ok [⟨⟨0⟩, ⟨⟨5, by decide⟩, ⟨1⟩, .cairo []⟩⟩, ⟨⟨0⟩, ⟨⟨5, by decide⟩, ⟨2⟩, .cairo []⟩⟩],
          .error (.unexpectedClass ⟨1⟩)]).drop 4 :=
  ⟨by decide, dechunker_returns_stream_items _ (by decide) 4⟩

end ClassSync
