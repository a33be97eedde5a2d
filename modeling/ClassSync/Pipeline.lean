import ClassSync.Matcher.Stage
import ClassSync.Expected
import ClassSync.Store

/-!
# Pipeline — from the blobs peers send to the classes `Store` writes

The stages `VerifyLayout`, `ComputeHash` and `CompileSierraToCasm`, and the chain
`VerifyLayout -> ComputeHash -> VerifyDeclaredAt -> CompileSierraToCasm -> Store` with
`VerifyDeclaredAt` fed by `ExpectedDeclarationsSource::spawn`. This file defines:

* `ClassBackend`, the functions of other crates the stages call, left abstract;
* the three stateless stages, as their `map`s compute;
* `classPipeline`, the chain as `pipe` runs it;
* `Derived`, how a written class comes from the blob it was made of.

`classPipeline_writes_declared_classes` is what the chain guarantees of every class it writes
and of the state it commits. The stateless stages and `Store` relate each output to its input
one by one (`PrefixImage`); `VerifyDeclaredAt` passes a prefix of its input that its cursor
accepts, so the matcher's `accepts_declared` and `accepts_ordered` carry over to what is
written; and `Store`'s run lemma says which database calls committed it (`CommitsEach`).
-/

namespace ClassSync

/-- The functions of other crates the stages call, over the layouts `Cairo` and `Sierra` that
`serde_json::from_slice` parses: parsing each layout, `compute_cairo_class_hash` and
`compute_sierra_class_hash` on a parsed layout, `pathfinder_compiler::compile_to_casm`, and
the gateway's `pending_casm_by_hash`. -/
structure ClassBackend (Cairo Sierra : Type) where
  fromSliceCairo : Bytes → Option Cairo
  fromSliceSierra : Bytes → Option Sierra
  computeCairoClassHash : Cairo → Except AnyhowError ClassHash
  computeSierraClassHash : Sierra → Except AnyhowError ClassHash
  compileToCasm : Bytes → Except AnyhowError Bytes
  pendingCasmByHash : ClassHash → Except AnyhowError Bytes

/-- `p2p::client::types::ClassDefinition`: a class as a peer sends it. -/
inductive P2PClassDefinition
  | cairo (blockNumber : BlockNumber) (definition : Bytes)
  | sierra (blockNumber : BlockNumber) (sierraDefinition : Bytes)

/-- `pathfinder_common::class_definition::ClassDefinition`: a parsed layout. -/
inductive GwClassDefinition (Cairo Sierra : Type)
  | cairo (c : Cairo)
  | sierra (c : Sierra)

/-- `ClassWithLayout`. -/
structure ClassWithLayout (Cairo Sierra : Type) where
  blockNumber : BlockNumber
  definition : ClassDefinition
  layout : GwClassDefinition Cairo Sierra

section Stages

variable {Cairo Sierra : Type} (backend : ClassBackend Cairo Sierra)

/-- `<VerifyLayout as ProcessStage>::map`. -/
def VerifyLayout.map : P2PClassDefinition → Except SyncError2 (ClassWithLayout Cairo Sierra)
  | .cairo blockNumber definition =>
    match backend.fromSliceCairo definition with
    | none => .error .badClassLayout
    | some layout => .ok ⟨blockNumber, .cairo definition, .cairo layout⟩
  | .sierra blockNumber sierraDefinition =>
    match backend.fromSliceSierra sierraDefinition with
    | none => .error .badClassLayout
    | some layout => .ok ⟨blockNumber, .sierra sierraDefinition, .sierra layout⟩

/-- The `match layout` that `ComputeHash::map`, `compute_hash` and `compute_hash0` share: the
class hash of a parsed layout. -/
def layoutClassHash : GwClassDefinition Cairo Sierra → Except AnyhowError ClassHash
  | .cairo c => backend.computeCairoClassHash c
  | .sierra c => backend.computeSierraClassHash c

/-- `<ComputeHash as ProcessStage>::map`. -/
def ComputeHash.map (input : ClassWithLayout Cairo Sierra) : Except SyncError2 Class :=
  match layoutClassHash backend input.layout with
  | .error e => .error (.other e)
  | .ok hash => .ok ⟨input.blockNumber, hash, input.definition⟩

/-- The `match definition` that `CompileSierraToCasm::map` and
`compile_sierra_to_casm_or_fetch` share: a Sierra class is compiled, and its CASM fetched from
the gateway for its hash when compilation fails. -/
def compileDefinition (hash : ClassHash) :
    ClassDefinition → Except AnyhowError CompiledClassDefinition
  | .cairo c => .ok (.cairo c)
  | .sierra sierraDefinition =>
    let casmDefinition : Except AnyhowError Bytes :=
      match Except.context (backend.compileToCasm sierraDefinition) "Compiling Sierra class" with
      | .ok x => .ok x
      | .error _ =>
        Except.context (backend.pendingCasmByHash hash) "Fetching casm definition from gateway"
    casmDefinition.map (.sierra sierraDefinition)

/-- `<CompileSierraToCasm as ProcessStage>::map`. -/
def CompileSierraToCasm.map (input : Class) : Except SyncError2 CompiledClass :=
  match compileDefinition backend input.hash input.definition with
  | .error e => .error (.other e)
  | .ok definition => .ok ⟨input.blockNumber, input.hash, definition⟩

end Stages

/-- Modelled from the spec: the chain `VerifyLayout -> ComputeHash -> VerifyDeclaredAt ->
CompileSierraToCasm -> Store` over the blobs peers sent, each stage run by `pipe` on what the
stage before passed on, and `VerifyDeclaredAt` reading what `ExpectedDeclarationsSource::spawn`
sends it. It returns the classes `Store` committed, in order, and the committed state after:
what reached storage. -/
def classPipeline {Cairo Sierra σ : Type} (backend : ClassBackend Cairo Sierra)
    (source : ExpectedDeclarationsSource) (store : Store σ) (committed : σ)
    (blobs : List P2PClassDefinition) : List CompiledClass × σ :=
  let layouts := (runStage (stateless (VerifyLayout.map backend)) () blobs).1
  let classes := (runStage (stateless (ComputeHash.map backend)) () layouts).1
  let declared := (runStage VerifyDeclaredAt.map (.new (source.spawn .alive).output) classes).1
  let compiled := (runStage (stateless (CompileSierraToCasm.map backend)) () declared).1
  let stored := runStage store.map committed compiled
  (compiled.take stored.1.length, stored.2.2)

/-! ## What the chain writes -/

section Provenance

variable {Cairo Sierra : Type} (backend : ClassBackend Cairo Sierra)

/-- How a class `Store` writes comes from the blob a peer sent: at the blob's block, with the
blob's bytes as its definition, its hash computed from the layout parsed out of those bytes by
the function the transport's tag chooses, and, for a Sierra class, as CASM what
`compile_to_casm` made of those bytes or, where it failed, the gateway's reply for the hash. -/
def Derived : P2PClassDefinition → CompiledClass → Prop
  | .cairo blockNumber definition, w =>
    w.blockNumber = blockNumber ∧ w.definition = .cairo definition ∧
      ∃ layout, backend.fromSliceCairo definition = some layout ∧
        backend.computeCairoClassHash layout = .ok w.hash
  | .sierra blockNumber sierraDefinition, w =>
    w.blockNumber = blockNumber ∧
      (∃ layout, backend.fromSliceSierra sierraDefinition = some layout ∧
        backend.computeSierraClassHash layout = .ok w.hash) ∧
      ∃ casmDefinition, w.definition = .sierra sierraDefinition casmDefinition ∧
        match backend.compileToCasm sierraDefinition with
        | .ok casm => casmDefinition = casm
        | .error _ => backend.pendingCasmByHash w.hash = .ok casmDefinition

/-- A blob that gets through the three stateless stages becomes a class `Derived` from it. -/
theorem derived_of_stages {blob : P2PClassDefinition} {l : ClassWithLayout Cairo Sierra}
    {c : Class} {w : CompiledClass} (h₁ : VerifyLayout.map backend blob = .ok l)
    (h₂ : ComputeHash.map backend l = .ok c) (h₃ : CompileSierraToCasm.map backend c = .ok w) :
    Derived backend blob w := by
  rcases blob with ⟨b, definition⟩ | ⟨b, definition⟩
  · rcases hp : backend.fromSliceCairo definition with _ | layout <;>
      simp only [VerifyLayout.map, hp, Except.ok.injEq, reduceCtorEq] at h₁
    subst h₁
    rcases hh : backend.computeCairoClassHash layout with e | hash <;>
      simp only [ComputeHash.map, layoutClassHash, hh, Except.ok.injEq, reduceCtorEq] at h₂
    subst h₂
    simp only [CompileSierraToCasm.map, compileDefinition, Except.ok.injEq] at h₃
    subst h₃
    exact ⟨rfl, rfl, layout, hp, hh⟩
  · rcases hp : backend.fromSliceSierra definition with _ | layout <;>
      simp only [VerifyLayout.map, hp, Except.ok.injEq, reduceCtorEq] at h₁
    subst h₁
    rcases hh : backend.computeSierraClassHash layout with e | hash <;>
      simp only [ComputeHash.map, layoutClassHash, hh, Except.ok.injEq, reduceCtorEq] at h₂
    subst h₂
    rcases hc : backend.compileToCasm definition with e | casm
    · rcases hg : backend.pendingCasmByHash hash with e' | casm' <;>
        simp [CompileSierraToCasm.map, compileDefinition, hc, hg, Except.map] at h₃
      subst h₃
      exact ⟨rfl, ⟨layout, hp, hh⟩, casm', rfl, by simp [hc, hg]⟩
    · simp [CompileSierraToCasm.map, compileDefinition, hc, Except.map] at h₃
      subst h₃
      exact ⟨rfl, ⟨layout, hp, hh⟩, casm, rfl, by simp [hc]⟩

/-- Compiling keeps a class's block and hash. -/
theorem compileSierraToCasm_keeps {c : Class} {w : CompiledClass}
    (h : CompileSierraToCasm.map backend c = .ok w) :
    (w.blockNumber, w.hash) = (c.blockNumber, c.hash) := by
  unfold CompileSierraToCasm.map at h
  split at h <;> cases h
  rfl

end Provenance

/-- What `Store` passed on says how much of its input it committed: the classes it committed,
one transaction each, are the first as many of its input as the block numbers it passed on. -/
theorem commitsEach_take_runStage_store {σ : Type} (store : Store σ) (committed : σ)
    (compiled : List CompiledClass) :
    CommitsEach store.connection committed
      (compiled.take (runStage store.map committed compiled).1.length)
      (runStage store.map committed compiled).2.2 := by
  obtain ⟨k, hout, heach, -⟩ := runStage_store_cases store committed compiled
  have htake : compiled.take (min k compiled.length) = compiled.take k :=
    List.take_eq_take.mpr (by omega)
  rwa [hout, List.length_map, List.length_take, htake]

/-- Every class the chain writes is declared, at a block of the range, in storage as
`declared_classes_at` reads it; it is `Derived` from the blob at its position among the blobs
the peers sent; no `(block, hash)` pair is written twice; and the committed state is what
committing the written classes in order, each in a transaction of its own, leads to, each
with the calls `WritesClass` names on its hash and its bytes: the blob's bytes, and for a
Sierra class the CASM `Derived` names. -/
theorem classPipeline_writes_declared_classes {Cairo Sierra σ : Type}
    (backend : ClassBackend Cairo Sierra) (source : ExpectedDeclarationsSource) (store : Store σ)
    (committed : σ) (blobs : List P2PClassDefinition) :
    let written := (classPipeline backend source store committed blobs).1
    (∀ w ∈ written, source.start ≤ w.blockNumber ∧ w.blockNumber ≤ source.stop ∧
      ∃ db hashes, source.dbConnection.transaction = .ok db ∧
        db.declaredClassesAt w.blockNumber = .ok (some hashes) ∧ w.hash ∈ hashes) ∧
    PrefixImage (Derived backend) blobs written ∧
    (written.map fun w => (w.blockNumber, w.hash)).Nodup ∧
    CommitsEach store.connection committed written
      (classPipeline backend source store committed blobs).2 := by
  intro written
  set E := (source.spawn .alive).output
  set layouts := (runStage (stateless (VerifyLayout.map backend)) () blobs).1
  set classes := (runStage (stateless (ComputeHash.map backend)) () layouts).1
  set declared := (runStage VerifyDeclaredAt.map (.new E) classes).1
  set compiled := (runStage (stateless (CompileSierraToCasm.map backend)) () declared).1
  have h1 := runStage_prefixImage (stateless (VerifyLayout.map backend)) () blobs
  have h2 := runStage_prefixImage (stateless (ComputeHash.map backend)) () layouts
  have h3 : PrefixImage Eq classes declared :=
    (runStage_prefixImage VerifyDeclaredAt.map (.new E) classes).imp
      fun _ _ ⟨_, _, h⟩ => (VerifyDeclaredAt.map_passes_input h).symm
  have h4 := runStage_prefixImage (stateless (CompileSierraToCasm.map backend)) () declared
  have h5 : PrefixImage Eq compiled written :=
    ⟨(runStage store.map committed compiled).1.length, List.forall₂_same.mpr fun _ _ => rfl⟩
  obtain ⟨hsorted, hE⟩ := spawn_output_alive source
  obtain ⟨hdecl, hnodup⟩ := VerifyDeclaredAt.runStage_declared E hsorted classes
  -- the pairs written are those of a prefix of what `VerifyDeclaredAt` passed
  obtain ⟨n, hpairs⟩ := PrefixImage.map_eq (f := fun w : CompiledClass => (w.blockNumber, w.hash))
    (g := fun c : Class => (c.blockNumber, c.hash))
    ((h4.comp h5).imp fun _ _ ⟨_, ⟨_, _, h⟩, he⟩ => he ▸ compileSierraToCasm_keeps backend
      (stateless_eq_ok.mp h))
  refine ⟨fun w hw => ?_, ?_, ?_, commitsEach_take_runStage_store store committed compiled⟩
  · obtain ⟨c, hc, hcw⟩ := List.mem_map.mp (hpairs ▸ List.mem_map_of_mem _ hw)
    obtain ⟨hb, hh⟩ := Prod.mk.inj hcw
    obtain ⟨e, he, hbe, hhe⟩ := hdecl c (List.mem_of_mem_take hc)
    obtain ⟨hstart, hstop, db, hashes, htx, hd, hs⟩ := hE e he
    rw [← hb, hbe, ← hh]
    exact ⟨hstart, hstop, db, hashes, htx, hd, List.mem_toFinset.mp (hs ▸ hhe)⟩
  · exact ((((h1.comp h2).comp h3).comp h4).comp h5).imp
      fun _ _ ⟨_, ⟨_, ⟨_, ⟨_, ⟨_, _, hl⟩, ⟨_, _, hc⟩⟩, rfl⟩, ⟨_, _, hw⟩⟩, rfl⟩ =>
        derived_of_stages backend (stateless_eq_ok.mp hl) (stateless_eq_ok.mp hc)
          (stateless_eq_ok.mp hw)
  · rw [hpairs, List.map_take]
    exact hnodup.sublist (List.take_sublist _ _)

/-- Whatever the peers send, the chain writes classes in non-decreasing block order:
`VerifyDeclaredAt` passes classes in the order of the source's ascending blocks, compiling
keeps each class's block, and `Store` writes a prefix of what it is given. -/
theorem classPipeline_writes_in_block_order {Cairo Sierra σ : Type}
    (backend : ClassBackend Cairo Sierra) (source : ExpectedDeclarationsSource) (store : Store σ)
    (committed : σ) (blobs : List P2PClassDefinition) :
    ((classPipeline backend source store committed blobs).1.map (·.blockNumber.get)).Sorted
      (· ≤ ·) := by
  set layouts := (runStage (stateless (VerifyLayout.map backend)) () blobs).1
  set classes := (runStage (stateless (ComputeHash.map backend)) () layouts).1
  set declared := (runStage VerifyDeclaredAt.map (.new (source.spawn .alive).output) classes).1
  have hsorted := VerifyDeclaredAt.runStage_sorted _ (spawn_output_alive source).1 classes
  -- the blocks compiled are those of a prefix of what `VerifyDeclaredAt` passed
  obtain ⟨n, hblocks⟩ := PrefixImage.map_eq (f := fun w : CompiledClass => w.blockNumber.get)
    (g := fun c : Class => c.blockNumber.get)
    ((runStage_prefixImage (stateless (CompileSierraToCasm.map backend)) () declared).imp
      fun _ _ ⟨_, _, h⟩ => congrArg (·.1.get) (compileSierraToCasm_keeps backend
        (stateless_eq_ok.mp h)))
  simp only [classPipeline, List.map_take, hblocks]
  exact (hsorted.sublist (List.take_sublist n _)).sublist (List.take_sublist _ _)

/-- Where every class commits, `Store` commits them all. -/
theorem runStage_store_of_commits {σ : Type} (store : Store σ)
    (hstore : ∀ s cls, ∃ s', CommitsClass store.connection s cls s') (committed : σ)
    (compiled : List CompiledClass) :
    (runStage store.map committed compiled).1.length = compiled.length := by
  obtain ⟨k, hout, -, hend⟩ := runStage_store_cases store committed compiled
  rcases hend with ⟨-, rfl⟩ | ⟨cls, e, -, -, hno⟩
  · simp [hout]
  · exact absurd (hstore _ cls) hno

/-- Where the peers are honest and nothing fails, the chain writes a class derived from every
blob, in order, and commits them all, each with its own calls: every blob parses and hashes;
the classes they hash to begin, in order, an enumeration block by block of the declarations
the source reads from storage, whatever peers tag them with; every class compiles; and the
database commits a transaction for every class from every state. -/
theorem classPipeline_writes_every_blob {Cairo Sierra σ : Type}
    (backend : ClassBackend Cairo Sierra) (source : ExpectedDeclarationsSource) (store : Store σ)
    (committed : σ) (blobs : List P2PClassDefinition) (classes : List Class)
    (hhash : List.Forall₂ (fun blob c => ∃ l, VerifyLayout.map backend blob = .ok l ∧
      ComputeHash.map backend l = .ok c) blobs classes)
    (blocks : List (List (PeerData Class)))
    (hb : List.Forall₂ (fun e L => Cursor.Enumerates (e.blockNumber, e.classes) L)
      (source.spawn .alive).output blocks)
    (hpre : classes <+: blocks.flatten.map (·.data))
    (hcompile : ∀ c ∈ classes, ∃ w, CompileSierraToCasm.map backend c = .ok w)
    (hstore : ∀ s cls, ∃ s', CommitsClass store.connection s cls s') :
    List.Forall₂ (Derived backend) blobs
      (classPipeline backend source store committed blobs).1 ∧
    CommitsEach store.connection committed (classPipeline backend source store committed blobs).1
      (classPipeline backend source store committed blobs).2 := by
  obtain ⟨layouts, hl, hc⟩ := exists_forall₂_of_comp hhash
  obtain ⟨compiled, hw⟩ := exists_forall₂_of_forall_mem hcompile
  -- the classes are those of a prefix of what the peers sent
  have hcs : (blocks.flatten.take classes.length).map (·.data) = classes := by
    rw [List.map_take]
    exact (List.prefix_iff_eq_take.mp hpre).symm
  have hpass := (VerifyDeclaredAt.runStage_honest _ hb
    (List.take_prefix classes.length blocks.flatten)).1
  rw [hcs] at hpass
  have heach := commitsEach_take_runStage_store store committed compiled
  simp only [classPipeline, runStage_stateless hl, runStage_stateless hc, hpass,
    runStage_stateless hw, runStage_store_of_commits store hstore, List.take_length] at heach ⊢
  exact ⟨(forall₂_comp (forall₂_comp hl hc) hw).imp
    fun _ _ ⟨_, ⟨_, h₁, h₂⟩, h₃⟩ => derived_of_stages backend h₁ h₂ h₃, heach⟩

/-- A backend over raw bytes: every blob parses as itself, a class's hash is its length, and
compilation returns the Sierra bytes. -/
def lengthBackend : ClassBackend Bytes Bytes where
  fromSliceCairo := some
  fromSliceSierra := some
  computeCairoClassHash := fun d => .ok ⟨d.length⟩
  computeSierraClassHash := fun d => .ok ⟨d.length⟩
  compileToCasm := .ok
  pendingCasmByHash := fun _ => .error (.msg "no gateway")

/-- A source over block `1` alone, which declares the class `1`. -/
def blockOneSource : ExpectedDeclarationsSource where
  dbConnection := ⟨.ok ⟨fun b => .ok (some (if b.get = 1 then [⟨1⟩] else []))⟩⟩
  start := ⟨1, by decide⟩
  stop := ⟨1, by decide⟩

theorem classPipeline_writes_every_blob_block_one :
    let blobs : List P2PClassDefinition := [.cairo ⟨1, by decide⟩ [7]]
    let classes : List Class := [⟨⟨1, by decide⟩, ⟨1⟩, .cairo [7]⟩]
    let blocks := [classes.map (PeerData.mk ⟨0⟩)]
    List.Forall₂ (fun blob c => ∃ l, VerifyLayout.map lengthBackend blob = .ok l ∧
        ComputeHash.map lengthBackend l = .ok c) blobs classes ∧
      List.Forall₂ (fun e L => Cursor.Enumerates (e.blockNumber, e.classes) L)
        (blockOneSource.spawn .alive).output blocks ∧
      classes <+: blocks.flatten.map (·.data) ∧
      (∀ c ∈ classes, ∃ w, CompileSierraToCasm.map lengthBackend c = .ok w) ∧
      (∀ s cls, ∃ s', CommitsClass loggingDb s cls s') ∧
      List.Forall₂ (Derived lengthBackend) blobs
        (classPipeline lengthBackend blockOneSource ⟨loggingDb⟩ [] blobs).1 ∧
      CommitsEach loggingDb [] (classPipeline lengthBackend blockOneSource ⟨loggingDb⟩ [] blobs).1
        (classPipeline lengthBackend blockOneSource ⟨loggingDb⟩ [] blobs).2 := by
  intro blobs classes blocks
  refine ⟨?hash, ?enum, ?pre, ?compile, ?store, classPipeline_writes_every_blob lengthBackend
    blockOneSource ⟨loggingDb⟩ [] blobs classes ?hash blocks ?enum ?pre ?compile ?store⟩
  case hash => exact .cons ⟨_, rfl, rfl⟩ .nil
  case enum =>
    have hout : (blockOneSource.spawn .alive).output = [⟨⟨1, by decide⟩, {⟨1⟩}⟩] := by
      simp [ExpectedDeclarationsSource.spawn, blockOneSource, spawnLoop_eq_spawnTrace,
        blocksFrom_of_le, blocksFrom_of_gt, spawnTrace, queryDeclared, Run.output, Except.bind,
        Except.map]
    rw [hout]
    exact .cons (by simp [Cursor.Enumerates, blocks, classes]) .nil
  case pre => exact List.prefix_refl _
  case compile => simp [classes, CompileSierraToCasm.map, compileDefinition]
  case store =>
    exact fun s ⟨b, h, d⟩ => by
      cases d
      · exact ⟨_, rfl, rfl, rfl⟩
      · exact ⟨_, rfl, ⟨_, rfl, rfl⟩, rfl⟩

end ClassSync
