import Mathlib.Data.List.AList
import ClassSync.Pipe

/-!
# VerifyHashes — `VerifyClassHashes`

The stage that checks each batch of compiled classes against the next `DeclaredClasses` of its
declarations stream. It removes every class's hash from the declared classes of its kind,
fails at the first class that is not there, and accepts the batch when nothing declared is
left; otherwise it logs what is left and fails.

A `HashSet` is a `Finset`, and the `HashMap` from Sierra hash to casm hash an `AList`, whose
keys are distinct. `removeDeclared_isSome_iff` and `mem_of_removeDeclared` are the loop's
invariant; `VerifyClassHashes.map_eq` turns it into what the stage accepts, and
`mem_missing_of_mapLogged` into what it logs on a mismatch: for the Sierra classes left, the
`missing` list holds the values of the map, their casm hashes, and not their class hashes.
-/

namespace ClassSync

/-- `pathfinder_common::state_update::DeclaredClasses`, as this stage reads it: the Cairo
classes by hash, and the Sierra classes by hash with the casm hash of each. -/
structure DeclaredClasses where
  cairo : Finset ClassHash
  sierra : AList (fun _ : SierraHash => CasmHash)

/-- The `for class in input.iter()` loop of `VerifyClassHashes::map`: each class's hash is
removed from the declared classes of its kind, and the loop returns early (`none`) at the first
class whose hash is not there. -/
def removeDeclared (declared : DeclaredClasses) : List CompiledClass → Option DeclaredClasses
  | [] => some declared
  | cls :: rest =>
    match cls.definition with
    | .cairo _ =>
      if cls.hash ∈ declared.cairo then
        removeDeclared { declared with cairo := declared.cairo.erase cls.hash } rest
      else none
    | .sierra _ _ =>
      match declared.sierra.lookup ⟨cls.hash.felt⟩ with
      | some _ =>
        removeDeclared { declared with sierra := declared.sierra.erase ⟨cls.hash.felt⟩ } rest
      | none => none

/-- The `missing` list `map` logs when declared classes are left after the loop: the Cairo
hashes left, then the values left in `sierra` turned into class hashes. `HashSet` and
`HashMap` iterate in no fixed order, so the list is kept as a multiset. -/
def missing (remaining : DeclaredClasses) : Multiset ClassHash :=
  remaining.cairo.val + ↑(remaining.sierra.entries.map fun e => (⟨e.2.felt⟩ : ClassHash))

/-- `VerifyClassHashes`: the declarations still to come. -/
structure VerifyClassHashes where
  declarations : List DeclaredClasses

namespace VerifyClassHashes

/-- `VerifyClassHashes::map`, with the `missing` list it logs when it gets to it. -/
def mapLogged (self : VerifyClassHashes) (input : List CompiledClass) :
    Except SyncError2 (List CompiledClass × VerifyClassHashes) × Option (Multiset ClassHash) :=
  match self.declarations with
  | [] => (.error (.other (AnyhowError.msg "Getting declared classes")), none)
  | declared :: rest =>
    match removeDeclared declared input with
    | none => (.error .classDefinitionsDeclarationsMismatch, none)
    | some remaining =>
      if remaining.cairo = ∅ ∧ remaining.sierra.keys = [] then (.ok (input, ⟨rest⟩), none)
      else (.error .classDefinitionsDeclarationsMismatch, some (missing remaining))

/-- `VerifyClassHashes::map`. -/
def map (self : VerifyClassHashes) (input : List CompiledClass) :
    Except SyncError2 (List CompiledClass × VerifyClassHashes) :=
  (self.mapLogged input).1

end VerifyClassHashes

/-! ## What the stage accepts -/

/-- The Cairo class hashes of a batch, in order. -/
def cairoHashes (input : List CompiledClass) : List ClassHash :=
  input.filterMap fun cls =>
    match cls.definition with
    | .cairo _ => some cls.hash
    | .sierra _ _ => none

/-- The Sierra class hashes of a batch, in order. -/
def sierraHashes (input : List CompiledClass) : List SierraHash :=
  input.filterMap fun cls =>
    match cls.definition with
    | .cairo _ => none
    | .sierra _ _ => some ⟨cls.hash.felt⟩

/-- A batch matches a declaration when its Cairo hashes are distinct and are the declared Cairo
classes, and its Sierra hashes are distinct and are the keys of the declared Sierra classes. -/
def Matches (input : List CompiledClass) (declared : DeclaredClasses) : Prop :=
  (cairoHashes input).Nodup ∧ (cairoHashes input).toFinset = declared.cairo ∧
    (sierraHashes input).Nodup ∧ (sierraHashes input).toFinset = declared.sierra.keys.toFinset

instance (input : List CompiledClass) (declared : DeclaredClasses) :
    Decidable (Matches input declared) := by
  unfold Matches; infer_instance

section Hashes

variable (b : BlockNumber) (h : ClassHash) (rest : List CompiledClass)

@[simp] theorem cairoHashes_nil : cairoHashes [] = [] := rfl
@[simp] theorem cairoHashes_cons_cairo (d : Bytes) :
    cairoHashes (⟨b, h, .cairo d⟩ :: rest) = h :: cairoHashes rest := rfl
@[simp] theorem cairoHashes_cons_sierra (s c : Bytes) :
    cairoHashes (⟨b, h, .sierra s c⟩ :: rest) = cairoHashes rest := rfl
@[simp] theorem sierraHashes_nil : sierraHashes [] = [] := rfl
@[simp] theorem sierraHashes_cons_cairo (d : Bytes) :
    sierraHashes (⟨b, h, .cairo d⟩ :: rest) = sierraHashes rest := rfl
@[simp] theorem sierraHashes_cons_sierra (s c : Bytes) :
    sierraHashes (⟨b, h, .sierra s c⟩ :: rest) = ⟨h.felt⟩ :: sierraHashes rest := rfl

end Hashes

/-- The loop gets through the batch exactly when the batch's hashes of each kind are distinct
and declared. -/
theorem removeDeclared_isSome_iff (declared : DeclaredClasses) (input : List CompiledClass) :
    (removeDeclared declared input).isSome ↔
      (cairoHashes input).Nodup ∧ (∀ h ∈ cairoHashes input, h ∈ declared.cairo) ∧
      (sierraHashes input).Nodup ∧ ∀ k ∈ sierraHashes input, k ∈ declared.sierra := by
  induction input generalizing declared with
  | nil => simp [removeDeclared]
  | cons cls rest ih =>
    rcases cls with ⟨b, h, d | ⟨s, c⟩⟩
    · by_cases hh : h ∈ declared.cairo
      · simp only [removeDeclared, hh, if_true, ih, cairoHashes_cons_cairo,
          sierraHashes_cons_cairo, Finset.mem_erase, List.nodup_cons, List.mem_cons,
          forall_eq_or_imp, ne_eq, imp_and, forall_and, List.forall_mem_ne', true_and]
        tauto
      · simp [removeDeclared, hh]
    · by_cases hk : (⟨h.felt⟩ : SierraHash) ∈ declared.sierra
      · obtain ⟨v, hv⟩ := Option.isSome_iff_exists.mp (AList.lookup_isSome.mpr hk)
        simp only [removeDeclared, hv, ih, cairoHashes_cons_sierra, sierraHashes_cons_sierra,
          AList.mem_erase, List.nodup_cons, List.mem_cons, forall_eq_or_imp, ne_eq, imp_and,
          forall_and, List.forall_mem_ne', hk, true_and]
        tauto
      · simp [removeDeclared, AList.lookup_eq_none.mpr hk, hk]

/-- What the loop leaves: the declared classes of each kind that the batch did not supply. -/
theorem mem_of_removeDeclared {declared r : DeclaredClasses} {input : List CompiledClass}
    (hr : removeDeclared declared input = some r) :
    (∀ x, x ∈ r.cairo ↔ x ∈ declared.cairo ∧ x ∉ cairoHashes input) ∧
      ∀ k, k ∈ r.sierra ↔ k ∈ declared.sierra ∧ k ∉ sierraHashes input := by
  induction input generalizing declared with
  | nil =>
    cases hr
    simp
  | cons cls rest ih =>
    rcases cls with ⟨b, h, d | ⟨s, c⟩⟩
    · by_cases hh : h ∈ declared.cairo
      · simp only [removeDeclared, hh, if_true] at hr
        obtain ⟨hc, hs⟩ := ih hr
        refine ⟨fun x => ?_, hs⟩
        rw [hc x]
        simp only [Finset.mem_erase, cairoHashes_cons_cairo, List.mem_cons, not_or]
        tauto
      · simp [removeDeclared, hh] at hr
    · cases hv : declared.sierra.lookup ⟨h.felt⟩ with
      | none => simp [removeDeclared, hv] at hr
      | some v =>
        simp only [removeDeclared, hv] at hr
        obtain ⟨hc, hs⟩ := ih hr
        refine ⟨hc, fun k => ?_⟩
        rw [hs k]
        simp only [AList.mem_erase, sierraHashes_cons_sierra, List.mem_cons, not_or]
        tauto

/-- Once the loop is through, the batch matches the declaration exactly when nothing declared
is left. -/
theorem matches_iff_of_removeDeclared {declared r : DeclaredClasses} {input : List CompiledClass}
    (hr : removeDeclared declared input = some r) :
    Matches input declared ↔ r.cairo = ∅ ∧ r.sierra.keys = [] := by
  obtain ⟨hn, hc, hs, hk⟩ := (removeDeclared_isSome_iff declared input).mp (by simp [hr])
  obtain ⟨hrc, hrs⟩ := mem_of_removeDeclared hr
  have hcairo : (cairoHashes input).toFinset = declared.cairo ↔ r.cairo = ∅ := by
    rw [Finset.eq_empty_iff_forall_not_mem, Finset.ext_iff]
    simp only [List.mem_toFinset, hrc]
    exact ⟨fun h x hx => hx.2 ((h x).mpr hx.1), fun h x => ⟨hc x, fun hx => by_contra fun hn => h x ⟨hx, hn⟩⟩⟩
  have hsierra : (sierraHashes input).toFinset = declared.sierra.keys.toFinset ↔
      r.sierra.keys = [] := by
    rw [List.eq_nil_iff_forall_not_mem, Finset.ext_iff]
    simp only [List.mem_toFinset, ← AList.mem_keys, hrs]
    exact ⟨fun h k hk' => hk'.2 ((h k).mpr hk'.1), fun h k => ⟨hk k, fun hk' => by_contra fun hn => h k ⟨hk', hn⟩⟩⟩
  simp only [Matches, hn, hs, true_and, hcairo, hsierra]

namespace VerifyClassHashes

/-- `map` pulls the next declaration and accepts the batch, unchanged, exactly when it matches
it; otherwise it fails with the mismatch. With no declaration left it fails to get one. -/
theorem map_eq (declarations : List DeclaredClasses) (input : List CompiledClass) :
    map ⟨declarations⟩ input =
      match declarations with
      | [] => .error (.other (AnyhowError.msg "Getting declared classes"))
      | declared :: rest =>
        if Matches input declared then .ok (input, ⟨rest⟩)
        else .error .classDefinitionsDeclarationsMismatch := by
  rcases declarations with _ | ⟨declared, rest⟩
  · rfl
  simp only [map, mapLogged]
  rcases hr : removeDeclared declared input with _ | r
  · have hm : ¬ Matches input declared := fun ⟨hn, hc, hs, hk⟩ =>
      absurd ((removeDeclared_isSome_iff declared input).mpr
        ⟨hn, fun x hx => hc ▸ List.mem_toFinset.mpr hx, hs,
          fun k hk' => AList.mem_keys.mpr (List.mem_toFinset.mp (hk ▸ List.mem_toFinset.mpr hk'))⟩)
        (by simp [hr])
    simp [hm]
  · by_cases hm : Matches input declared
    · simp [hm, (matches_iff_of_removeDeclared hr).mp hm]
    · simp [hm, ← matches_iff_of_removeDeclared hr]

end VerifyClassHashes

/-- Over a run, the stage passes the batches, each checked against the declaration at its own
position, up to the first that does not match its declaration or has none. -/
theorem runStage_verifyClassHashes (declarations : List DeclaredClasses)
    (batches : List (List CompiledClass)) :
    (runStage VerifyClassHashes.map ⟨declarations⟩ batches).1 =
      ((batches.zip declarations).takeWhile fun p => decide (Matches p.1 p.2)).map Prod.fst := by
  induction batches generalizing declarations with
  | nil => rfl
  | cons batch batches ih =>
    rcases declarations with _ | ⟨declared, rest⟩
    · simp [runStage_cons_error _ (VerifyClassHashes.map_eq [] batch)]
    by_cases hm : Matches batch declared
    · have hmap := VerifyClassHashes.map_eq (declared :: rest) batch
      simp only [hm, if_true] at hmap
      simp [runStage_cons_ok _ hmap, hm, ih]
    · have hmap := VerifyClassHashes.map_eq (declared :: rest) batch
      simp only [hm, if_false] at hmap
      simp [runStage_cons_error _ hmap, hm]

/-- `VerifyClassHashes::map` accepts a batch, unchanged, exactly when it matches the next
declaration, consuming that declaration, and fails with the mismatch otherwise; so over a run
the `k`-th batch is checked against the `k`-th declaration. -/
theorem verifyClassHashes_checks_batch_against_declaration
    (declarations : List DeclaredClasses) (input : List CompiledClass)
    (batches : List (List CompiledClass)) :
    VerifyClassHashes.map ⟨declarations⟩ input =
      (match declarations with
      | [] => .error (.other (AnyhowError.msg "Getting declared classes"))
      | declared :: rest =>
        if Matches input declared then .ok (input, ⟨rest⟩)
        else .error .classDefinitionsDeclarationsMismatch) ∧
    (runStage VerifyClassHashes.map ⟨declarations⟩ batches).1 =
      ((batches.zip declarations).takeWhile fun p => decide (Matches p.1 p.2)).map Prod.fst :=
  ⟨VerifyClassHashes.map_eq declarations input, runStage_verifyClassHashes declarations batches⟩

/-! ## What the stage logs -/

/-- What the loop leaves of the Sierra classes, with their casm hashes: the declared entries
whose key the batch did not supply. -/
theorem lookup_of_removeDeclared {declared r : DeclaredClasses} {input : List CompiledClass}
    (hr : removeDeclared declared input = some r) (k : SierraHash) (v : CasmHash) :
    r.sierra.lookup k = some v ↔ declared.sierra.lookup k = some v ∧ k ∉ sierraHashes input := by
  induction input generalizing declared with
  | nil =>
    cases hr
    simp
  | cons cls rest ih =>
    rcases cls with ⟨b, h, d | ⟨s, c⟩⟩
    · by_cases hh : h ∈ declared.cairo
      · simp only [removeDeclared, hh, if_true] at hr
        simpa using ih hr
      · simp [removeDeclared, hh] at hr
    · cases hv : declared.sierra.lookup ⟨h.felt⟩ with
      | none => simp [removeDeclared, hv] at hr
      | some v' =>
        simp only [removeDeclared, hv] at hr
        rcases eq_or_ne k ⟨h.felt⟩ with rfl | hk
        · simp [ih hr]
        · simp [ih hr, AList.lookup_erase_ne hk, hk]

/-- The `missing` list holds the Cairo hashes left and the casm hashes of the Sierra classes
left, turned into class hashes. -/
theorem mem_missing (r : DeclaredClasses) (x : ClassHash) :
    x ∈ missing r ↔ x ∈ r.cairo ∨ ∃ k v, r.sierra.lookup k = some v ∧ x = ⟨v.felt⟩ := by
  simp only [missing, Multiset.mem_add, Finset.mem_val, Multiset.mem_coe, List.mem_map,
    Sigma.exists]
  exact or_congr_right ⟨fun ⟨k, v, hm, hx⟩ => ⟨k, v, AList.mem_lookup_iff.mpr hm, hx.symm⟩,
    fun ⟨k, v, hm, hx⟩ => ⟨k, v, AList.mem_lookup_iff.mp hm, hx.symm⟩⟩

/-- Whenever `map` gets through the batch with declared classes left, for every batch and every
declaration, the batch does not match the declaration, and the list it logs holds the declared
Cairo hashes the batch did not supply and, for each declared Sierra class the batch did not
supply, its casm hash turned into a class hash. -/
theorem mem_missing_of_mapLogged {declared : DeclaredClasses} {rest : List DeclaredClasses}
    {input : List CompiledClass} {m : Multiset ClassHash}
    (h : (VerifyClassHashes.mapLogged ⟨declared :: rest⟩ input).2 = some m) :
    ¬ Matches input declared ∧ ∀ x, x ∈ m ↔ (x ∈ declared.cairo ∧ x ∉ cairoHashes input) ∨
      ∃ k v, declared.sierra.lookup k = some v ∧ k ∉ sierraHashes input ∧ x = ⟨v.felt⟩ := by
  rcases hr : removeDeclared declared input with _ | r
  · simp [VerifyClassHashes.mapLogged, hr] at h
  by_cases hleft : r.cairo = ∅ ∧ r.sierra.keys = []
  · simp [VerifyClassHashes.mapLogged, hr, hleft] at h
  simp only [VerifyClassHashes.mapLogged, hr, hleft, if_false, Option.some.injEq] at h
  subst h
  refine ⟨fun hm => hleft ((matches_iff_of_removeDeclared hr).mp hm), fun x => ?_⟩
  simp only [mem_missing, (mem_of_removeDeclared hr).1, lookup_of_removeDeclared hr, and_assoc]

/-- A Sierra class the batch leaves out is logged under its casm hash: the batch supplies the
Cairo class `5` but not the Sierra class `1`, whose casm hash is `2`; the list `map` logs is
`[2]`, and the class hash `1` of the Sierra class left is not in it. -/
theorem verifyClassHashes_missing_lists_casm_hash :
    VerifyClassHashes.mapLogged
        ⟨[⟨{⟨5⟩}, ⟨[⟨⟨1⟩, ⟨2⟩⟩], List.nodupKeys_singleton _⟩⟩]⟩ [⟨⟨7, by decide⟩, ⟨5⟩, .cairo []⟩] =
      (.error .classDefinitionsDeclarationsMismatch, some {⟨2⟩}) ∧
    (⟨1⟩ : SierraHash) ∈
      (⟨[⟨⟨1⟩, ⟨2⟩⟩], List.nodupKeys_singleton _⟩ : AList fun _ : SierraHash => CasmHash) ∧
    (⟨1⟩ : SierraHash) ∉ sierraHashes [⟨⟨7, by decide⟩, ⟨5⟩, .cairo []⟩] ∧
    (⟨1⟩ : ClassHash) ∉ ({⟨2⟩} : Multiset ClassHash) :=
  ⟨rfl, by decide, by decide, by decide⟩

end ClassSync
