import Mathlib.Data.Finset.Basic

/-!
# Basic — identifiers, classes and errors of the class-definition sync

The value types that `sync/class_definitions.rs` moves between its stages: block numbers,
class hashes, peer-tagged data, the two class variants before and after compilation, the
per-block expectations read from storage, and the error types the stages return.

Hashes are compared and never computed on here, so each keeps the integer value of the
field element it wraps. A `HashSet` of hashes is a `Finset`: iteration order is unspecified
in the source, and nothing below depends on one.
-/

namespace ClassSync

/-! ## Block numbers -/

/-- `pathfinder_common::BlockNumber`: a `u64` that its constructors `new` and
`new_or_panic` keep at or below `i64::MAX`, the largest integer Sqlite stores. -/
structure BlockNumber where
  get : Nat
  get_lt : get < 2 ^ 63
  deriving DecidableEq, Repr

namespace BlockNumber

/-- `BlockNumber::GENESIS`, the `Default` of the type. -/
def genesis : BlockNumber := ⟨0, by decide⟩

instance : Inhabited BlockNumber := ⟨genesis⟩

instance : LE BlockNumber := ⟨fun a b => a.get ≤ b.get⟩
instance : LT BlockNumber := ⟨fun a b => a.get < b.get⟩

instance (a b : BlockNumber) : Decidable (a ≤ b) := inferInstanceAs (Decidable (a.get ≤ b.get))
instance (a b : BlockNumber) : Decidable (a < b) := inferInstanceAs (Decidable (a.get < b.get))

@[simp] theorem le_def {a b : BlockNumber} : a ≤ b ↔ a.get ≤ b.get := .rfl
@[simp] theorem lt_def {a b : BlockNumber} : a < b ↔ a.get < b.get := .rfl

end BlockNumber

/-! ## Hashes, peers, bytes -/

/-- `ClassHash(Felt)`. -/
structure ClassHash where
  felt : Nat
  deriving DecidableEq, Repr

/-- `SierraHash(Felt)`: the class hash of a Sierra class, as the key of the casm tables. -/
structure SierraHash where
  felt : Nat
  deriving DecidableEq, Repr

/-- `CasmHash(Felt)`: the hash of the compiled form of a Sierra class. -/
structure CasmHash where
  felt : Nat
  deriving DecidableEq, Repr

/-- The tag `p2p::PeerData` carries: which remote supplied an item. -/
structure PeerId where
  id : Nat
  deriving DecidableEq, Repr

/-- `p2p::PeerData<T>`. -/
structure PeerData (α : Type) where
  peer : PeerId
  data : α
  deriving DecidableEq, Repr

/-- A `Vec<u8>` of class definition bytes. -/
abbrev Bytes := List UInt8

/-! ## Classes -/

/-- `ClassDefinition`: the raw bytes a peer sent, tagged with the transport's variant. -/
inductive ClassDefinition
  | cairo (definition : Bytes)
  | sierra (definition : Bytes)
  deriving DecidableEq, Repr

/-- `Class`: a class whose hash has been computed. -/
structure Class where
  blockNumber : BlockNumber
  hash : ClassHash
  definition : ClassDefinition
  deriving DecidableEq, Repr

/-- `CompiledClassDefinition`. -/
inductive CompiledClassDefinition
  | cairo (definition : Bytes)
  | sierra (sierraDefinition : Bytes) (casmDefinition : Bytes)
  deriving DecidableEq, Repr

/-- `CompiledClass`. -/
structure CompiledClass where
  blockNumber : BlockNumber
  hash : ClassHash
  definition : CompiledClassDefinition
  deriving DecidableEq, Repr

/-- `ExpectedDeclarations`: the classes storage says are declared at one block. -/
structure ExpectedDeclarations where
  blockNumber : BlockNumber
  classes : Finset ClassHash
  deriving DecidableEq

/-- `#[derive(Default)]`: genesis with no classes. -/
instance : Inhabited ExpectedDeclarations := ⟨⟨default, ∅⟩⟩

/-! ## Errors -/

/-- An `anyhow::Error`, as its chain of messages with the outermost context first. -/
structure AnyhowError where
  chain : List String
  deriving DecidableEq, Repr

namespace AnyhowError

/-- `Option::context(msg)`: an error made of the message alone. -/
def msg (m : String) : AnyhowError := ⟨[m]⟩

/-- `Result::context(msg)`: the error wrapped in one more message. -/
def context (e : AnyhowError) (m : String) : AnyhowError := ⟨m :: e.chain⟩

end AnyhowError

/-- Results compare by value, so that a stage's output can be checked by evaluation. -/
instance decEqExcept {ε α : Type} [DecidableEq ε] [DecidableEq α] : DecidableEq (Except ε α)
  | .ok a, .ok b => decidable_of_iff (a = b) ⟨congrArg _, Except.ok.inj⟩
  | .error a, .error b => decidable_of_iff (a = b) ⟨congrArg _, Except.error.inj⟩
  | .ok _, .error _ => isFalse fun h => Except.noConfusion h
  | .error _, .ok _ => isFalse fun h => Except.noConfusion h

/-- `anyhow::Context` on a `Result`. -/
def Except.context {α : Type} (r : Except AnyhowError α) (m : String) : Except AnyhowError α :=
  r.mapError (·.context m)

/-- `anyhow::Context` on an `Option`. -/
def Option.context {α : Type} (o : Option α) (m : String) : Except AnyhowError α :=
  match o with
  | some a => .ok a
  | none => .error (AnyhowError.msg m)

section Context

variable {α : Type} (m : String)

@[simp] theorem Except.context_ok (a : α) : Except.context (.ok a) m = .ok a := rfl
@[simp] theorem Except.context_error (e : AnyhowError) :
    Except.context (.error e : Except AnyhowError α) m = .error (e.context m) := rfl
@[simp] theorem Except.context_eq_ok {r : Except AnyhowError α} {a : α} :
    Except.context r m = .ok a ↔ r = .ok a := by
  cases r <;> simp [Except.context, Except.mapError]
@[simp] theorem Except.exists_context_eq_error {r : Except AnyhowError α} :
    (∃ e, Except.context r m = .error e) ↔ ∃ e, r = .error e := by
  cases r <;> simp [Except.context, Except.mapError]
@[simp] theorem Option.context_some (a : α) : Option.context (some a) m = .ok a := rfl
@[simp] theorem Option.context_none : Option.context (none : Option α) m = .error (.msg m) := rfl

end Context

/-- `sync::error::SyncError`, in the variants the streaming functions produce; every other
error arrives through `From<anyhow::Error>`. -/
inductive SyncError
  | badClassLayout (peer : PeerId)
  | unexpectedClass (peer : PeerId)
  | other (e : AnyhowError)
  deriving DecidableEq, Repr

/-- `sync::error::SyncError2`, the error of the `ProcessStage` stages. -/
inductive SyncError2
  | badClassLayout
  | unexpectedClass
  | classDefinitionsDeclarationsMismatch
  | other (e : AnyhowError)
  deriving DecidableEq, Repr

end ClassSync
