import ClassSync.Pipeline

/-!
# Batch — the batch-oriented shape of the stages

Beside the `ProcessStage` stages, `class_definitions.rs` keeps functions that do the same work
on a peer-tagged class or on a whole batch: `verify_layout`, `compute_hash` (on the rayon pool),
`compute_hash0` and `compile_sierra_to_casm_or_fetch` (on the rayon pool). Each runs the
per-class body of its stage (`layoutClassHash`, `compileDefinition`) and keeps the peer; they
differ in how a failure ends them: a failed hash in `compute_hash` panics where
`ComputeHash::map` returns the error.
-/

namespace ClassSync

/-- How a call that may panic ends: with its value, or in a panic with its message. -/
inductive Returns (α : Type)
  | value (a : α)
  | panic (msg : String)
  deriving DecidableEq

section Batch

variable {Cairo Sierra : Type} (backend : ClassBackend Cairo Sierra)

/-- `verify_layout(peer_data)`: a bad layout is blamed on the peer that sent it. -/
def verifyLayout (peerData : PeerData P2PClassDefinition) :
    Except SyncError (PeerData (ClassWithLayout Cairo Sierra)) :=
  match peerData.data with
  | .cairo blockNumber definition =>
    match backend.fromSliceCairo definition with
    | none => .error (.badClassLayout peerData.peer)
    | some layout => .ok ⟨peerData.peer, ⟨blockNumber, .cairo definition, .cairo layout⟩⟩
  | .sierra blockNumber sierraDefinition =>
    match backend.fromSliceSierra sierraDefinition with
    | none => .error (.badClassLayout peerData.peer)
    | some layout =>
      .ok ⟨peerData.peer, ⟨blockNumber, .sierra sierraDefinition, .sierra layout⟩⟩

/-- The closure `compute_hash` maps over the batch, before its `expect`: the peer's class with
its hash. -/
def hashWithPeer (p : PeerData (ClassWithLayout Cairo Sierra)) :
    Except AnyhowError (PeerData Class) :=
  (layoutClassHash backend p.data.layout).map
    fun hash => ⟨p.peer, ⟨p.data.blockNumber, hash, p.data.definition⟩⟩

/-- `compute_hash(peer_data)`: every class hashed on the rayon pool. A failed hash hits
`expect("todo fixme add error type")` on a pool thread; the closure never sends, and the
process is aborted by the pool's default panic handler. -/
def computeHash (peerData : List (PeerData (ClassWithLayout Cairo Sierra))) :
    Returns (Except SyncError (List (PeerData Class))) :=
  match peerData.mapM (hashWithPeer backend) with
  | .ok classes => .value (.ok classes)
  | .error _ => .panic "todo fixme add error type"

/-- `compute_hash0(peer_data)`: one class hashed on a blocking task. -/
def computeHash0 (peerData : PeerData (ClassWithLayout Cairo Sierra)) :
    Except SyncError (PeerData Class) :=
  match Except.context (layoutClassHash backend peerData.data.layout) "Computing class hash" with
  | .error e => .error (.other e)
  | .ok hash =>
    .ok ⟨peerData.peer, ⟨peerData.data.blockNumber, hash, peerData.data.definition⟩⟩

/-- The closure `compile_sierra_to_casm_or_fetch` maps over the batch. -/
def compileWithPeer (p : PeerData Class) : Except SyncError (PeerData CompiledClass) :=
  match compileDefinition backend p.data.hash p.data.definition with
  | .error e => .error (.other e)
  | .ok definition => .ok ⟨p.peer, ⟨p.data.blockNumber, p.data.hash, definition⟩⟩

/-- `compile_sierra_to_casm_or_fetch(peer_data, fgw, tokio_handle)`: every class compiled on the
rayon pool and collected into one `Result`. When several classes fail, rayon's `collect`
reports one of their errors; this model reports the first. -/
def compileSierraToCasmOrFetch (peerData : List (PeerData Class)) :
    Except SyncError (List (PeerData CompiledClass)) :=
  peerData.mapM (compileWithPeer backend)

end Batch

end ClassSync
