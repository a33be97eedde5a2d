import ClassSync.Dechunker

/-!
# Cursor — matching classes against expected declarations, one class at a time

Both matchers of the source, the stream `verify_declared_at` and the stage
`VerifyDeclaredAt`, keep the same state: the block being matched, the hashes still expected
there, and the expectations not yet pulled. A `Cursor` is that state. `Cursor.check` is what
either matcher does with one class: pull expectations past empty blocks when the current set
is exhausted, then accept the class if it is declared at the current block and still
expected. `Cursor.run` is the stream's output over an already dechunked class stream.

The two source matchers are connected to this layer in `Matcher/Stream.lean` and
`Matcher/Stage.lean`; the properties of matching are proved here, once.
-/

namespace ClassSync

/-- The `expected_declarations` input of `verify_declared_at`. -/
abbrev ExpectedStream := List (Except AnyhowError (BlockNumber × Finset ClassHash))

/-- The check both matchers make: a class must be declared at `declaredAt` and its hash
still in `declared`; `declared.remove(&hash)` then takes the hash out. -/
def declaredCheck (declaredAt : BlockNumber) (declared : Finset ClassHash)
    (blockNumber : BlockNumber) (hash : ClassHash) : Option (Finset ClassHash) :=
  if declaredAt ≠ blockNumber then none
  else if hash ∈ declared then some (declared.erase hash) else none

theorem declaredCheck_eq_some_iff {a : BlockNumber} {s s' : Finset ClassHash} {b : BlockNumber}
    {h : ClassHash} : declaredCheck a s b h = some s' ↔ b = a ∧ h ∈ s ∧ s' = s.erase h := by
  unfold declaredCheck
  by_cases hab : a = b <;> by_cases hh : h ∈ s <;> simp [hab, hh, eq_comm]

theorem declaredCheck_eq_none_iff {a : BlockNumber} {s : Finset ClassHash} {b : BlockNumber}
    {h : ClassHash} : declaredCheck a s b h = none ↔ b ≠ a ∨ h ∉ s := by
  unfold declaredCheck
  by_cases hab : a = b <;> by_cases hh : h ∈ s <;> simp [hab, hh, eq_comm]

/-- Where matching stands. -/
structure Cursor where
  declaredAt : BlockNumber
  declared : Finset ClassHash
  pending : ExpectedStream

/-- Pull expectations past every empty block; `none` at an error or at the end. -/
def advance : ExpectedStream → Option Cursor
  | [] => none
  | .error _ :: _ => none
  | .ok (b, s) :: rest => if s = ∅ then advance rest else some ⟨b, s, rest⟩

/-- The matcher's start: nothing expected yet, so the first class pulls an expectation. -/
def Cursor.initial (expected : ExpectedStream) : Cursor := ⟨default, ∅, expected⟩

/-- The outcome of offering one class to the cursor. -/
inductive Verdict
  | accepted (cur : Cursor)
  | unexpected
  /-- The expectations ran out (or failed) before a non-empty block. -/
  | exhausted

namespace Cursor

/-- The cursor the next class is matched against. -/
def refill (cur : Cursor) : Option Cursor :=
  if cur.declared = ∅ then advance cur.pending else some cur

/-- Offer the class `(blockNumber, hash)` to the cursor. -/
def check (cur : Cursor) (blockNumber : BlockNumber) (hash : ClassHash) : Verdict :=
  match cur.refill with
  | none => .exhausted
  | some c =>
    match declaredCheck c.declaredAt c.declared blockNumber hash with
    | some s => .accepted { c with declared := s }
    | none => .unexpected

/-- The matcher's output over a dechunked class stream. -/
def run (cur : Cursor) : List Item → List Item
  | [] => []
  | .error e :: _ =>
    match cur.refill with
    | none => []
    | some _ => [.error e]
  | .ok c :: rest =>
    match cur.check c.data.blockNumber c.data.hash with
    | .accepted cur' => .ok c :: cur'.run rest
    | .unexpected => [.error (.unexpectedClass c.peer)]
    | .exhausted => []

/-- The cursor after accepting each of `cs` in turn, if it does. -/
def accepts (cur : Cursor) : List (PeerData Class) → Option Cursor
  | [] => some cur
  | c :: cs =>
    match cur.check c.data.blockNumber c.data.hash with
    | .accepted cur' => cur'.accepts cs
    | _ => none

/-! ## What the output depends on -/

theorem check_congr_refill {c₁ c₂ : Cursor} (h : c₁.refill = c₂.refill) (b : BlockNumber)
    (hash : ClassHash) : c₁.check b hash = c₂.check b hash := by
  simp only [check, h]

/-- The output depends on the cursor only through the cursor the next class meets. -/
theorem run_congr_refill {c₁ c₂ : Cursor} (h : c₁.refill = c₂.refill) (items : List Item) :
    c₁.run items = c₂.run items := by
  rcases items with _ | ⟨_ | c, rest⟩
  · rfl
  · simp only [run, h]
  · simp only [run, check_congr_refill h]

@[simp] theorem refill_of_empty {b : BlockNumber} {pending : ExpectedStream} :
    refill ⟨b, ∅, pending⟩ = advance pending := by
  simp [refill]

theorem refill_of_ne_empty {cur : Cursor} (h : cur.declared ≠ ∅) : cur.refill = some cur := by
  simp [refill, h]

/-- Pulling one more expectation: an exhausted cursor behaves as the entry it pulls. -/
theorem refill_pull {a b : BlockNumber} {s : Finset ClassHash} {rest : ExpectedStream} :
    refill ⟨a, ∅, .ok (b, s) :: rest⟩ = refill ⟨b, s, rest⟩ := by
  by_cases hs : s = ∅ <;> simp [refill, advance, hs]

theorem run_of_refill_none {cur : Cursor} (h : cur.refill = none) (items : List Item) :
    cur.run items = [] := by
  rcases items with _ | ⟨_ | c, rest⟩ <;> simp [run, check, h]

/-! ## `check` after a refill -/

theorem check_of_refill_accepted {cur c : Cursor} (h : cur.refill = some c) {b : BlockNumber}
    {hash : ClassHash} {s : Finset ClassHash}
    (hd : declaredCheck c.declaredAt c.declared b hash = some s) :
    cur.check b hash = .accepted { c with declared := s } := by
  simp [check, h, hd]

theorem check_of_refill_unexpected {cur c : Cursor} (h : cur.refill = some c) {b : BlockNumber}
    {hash : ClassHash} (hd : declaredCheck c.declaredAt c.declared b hash = none) :
    cur.check b hash = .unexpected := by
  simp [check, h, hd]

/-! ## Inversion of `check` -/

theorem check_eq_accepted {cur cur' : Cursor} {b : BlockNumber} {h : ClassHash}
    (hc : cur.check b h = .accepted cur') :
    ∃ c, cur.refill = some c ∧ b = c.declaredAt ∧ h ∈ c.declared ∧
      cur' = { c with declared := c.declared.erase h } := by
  unfold check at hc
  rcases hr : cur.refill with _ | c
  · simp [hr] at hc
  rcases hd : declaredCheck c.declaredAt c.declared b h with _ | s
  · simp [hr, hd] at hc
  simp only [hr, hd, Verdict.accepted.injEq] at hc
  obtain ⟨rfl, hh, rfl⟩ := declaredCheck_eq_some_iff.mp hd
  exact ⟨c, rfl, rfl, hh, hc.symm⟩

theorem check_eq_unexpected {cur : Cursor} {b : BlockNumber} {h : ClassHash}
    (hc : cur.check b h = .unexpected) :
    ∃ c, cur.refill = some c ∧ (b ≠ c.declaredAt ∨ h ∉ c.declared) := by
  unfold check at hc
  rcases hr : cur.refill with _ | c
  · simp [hr] at hc
  rcases hd : declaredCheck c.declaredAt c.declared b h with _ | s
  · exact ⟨c, rfl, declaredCheck_eq_none_iff.mp hd⟩
  · simp [hr, hd] at hc

end Cursor

end ClassSync
