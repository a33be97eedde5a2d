import Mathlib.Data.List.Forall2
import ClassSync.Basic

/-!
# Pipe — a `ProcessStage` over its input channel

The stages of `class_definitions.rs` implement `ProcessStage::map`, one input at a time on a
state of their own. The combinator that runs a stage over a channel, `pipe` in
`sync::stream`, is not among the files modelled here; we take its behaviour from the spec:
each stage maps its inputs in order, and the first error is sent on and ends the stage,
which closes the channel downstream.
-/

namespace ClassSync

/-- Modelled from the spec: `pipe` of `sync::stream`, absent from the modelled files, running
a stage's `map` over its inputs in order with the stage's state threaded through. It returns
what the stage passed on, the error that stopped it if any, and its last state. -/
def runStage {σ α β : Type} (map : σ → α → Except SyncError2 (β × σ)) :
    σ → List α → List β × Option SyncError2 × σ
  | s, [] => ([], none, s)
  | s, a :: as =>
    match map s a with
    | .error e => ([], some e, s)
    | .ok (b, s') =>
      let r := runStage map s' as
      (b :: r.1, r.2.1, r.2.2)

/-- A stage whose `map` keeps no state, as `pipe` runs it. -/
def stateless {α β : Type} (map : α → Except SyncError2 β) : Unit → α → Except SyncError2 (β × Unit) :=
  fun _ a => (map a).map fun b => (b, ())

@[simp] theorem stateless_eq_ok {α β : Type} {map : α → Except SyncError2 β} {s s' : Unit} {a : α}
    {b : β} : stateless map s a = .ok (b, s') ↔ map a = .ok b := by
  simp only [stateless]
  cases map a <;> simp [Except.map]

section

variable {σ α β : Type} (map : σ → α → Except SyncError2 (β × σ))

@[simp] theorem runStage_nil (s : σ) : runStage map s [] = ([], none, s) := rfl

theorem runStage_cons_ok {s s' : σ} {a : α} {b : β} (h : map s a = .ok (b, s')) (as : List α) :
    runStage map s (a :: as) =
      (b :: (runStage map s' as).1, (runStage map s' as).2.1, (runStage map s' as).2.2) := by
  simp [runStage, h]

theorem runStage_cons_error {s : σ} {a : α} {e : SyncError2} (h : map s a = .error e)
    (as : List α) : runStage map s (a :: as) = ([], some e, s) := by
  simp [runStage, h]

end

/-- A stateless stage whose `map` succeeds on every input passes them all on. -/
theorem runStage_stateless {α β : Type} {map : α → Except SyncError2 β} {as : List α}
    {bs : List β} (h : List.Forall₂ (fun a b => map a = .ok b) as bs) :
    runStage (stateless map) () as = (bs, none, ()) := by
  induction h with
  | nil => rfl
  | @cons a b as bs hab _ ih =>
    rw [runStage_cons_ok _ ((@stateless_eq_ok _ _ map () () a b).mpr hab), ih]

/-! ## What a chain of stages passes on -/

section PrefixImage

variable {α β γ : Type}

/-- `bs` is what a stage made of a prefix of its inputs `as`, the `i`-th output from the
`i`-th input as `R` says. -/
def PrefixImage (R : α → β → Prop) (as : List α) (bs : List β) : Prop :=
  ∃ n, List.Forall₂ R (as.take n) bs

/-- Two relations between lists of the same middle list compose. -/
theorem forall₂_comp {R : α → β → Prop} {S : β → γ → Prop} {as : List α} {bs : List β}
    {cs : List γ} (h₁ : List.Forall₂ R as bs) (h₂ : List.Forall₂ S bs cs) :
    List.Forall₂ (fun a c => ∃ b, R a b ∧ S b c) as cs := by
  induction h₁ generalizing cs with
  | nil => cases h₂; exact .nil
  | cons hab _ ih =>
    cases h₂ with
    | cons hbc h₂ => exact .cons ⟨_, hab, hbc⟩ (ih h₂)

/-- A relation through a middle list splits at the middle list. -/
theorem exists_forall₂_of_comp {R : α → β → Prop} {S : β → γ → Prop} {as : List α}
    {cs : List γ} (h : List.Forall₂ (fun a c => ∃ b, R a b ∧ S b c) as cs) :
    ∃ bs, List.Forall₂ R as bs ∧ List.Forall₂ S bs cs := by
  induction h with
  | nil => exact ⟨[], .nil, .nil⟩
  | cons habc _ ih =>
    obtain ⟨b, hab, hbc⟩ := habc
    obtain ⟨bs, h₁, h₂⟩ := ih
    exact ⟨b :: bs, .cons hab h₁, .cons hbc h₂⟩

/-- Every element related to something makes a related list. -/
theorem exists_forall₂_of_forall_mem {R : α → β → Prop} {as : List α}
    (h : ∀ a ∈ as, ∃ b, R a b) : ∃ bs, List.Forall₂ R as bs := by
  induction as with
  | nil => exact ⟨[], .nil⟩
  | cons a as ih =>
    obtain ⟨b, hab⟩ := h a (List.mem_cons_self a as)
    obtain ⟨bs, hbs⟩ := ih fun a' ha' => h a' (List.mem_cons_of_mem a ha')
    exact ⟨b :: bs, .cons hab hbs⟩

theorem PrefixImage.comp {R : α → β → Prop} {S : β → γ → Prop} {as : List α} {bs : List β}
    {cs : List γ} (h₁ : PrefixImage R as bs) (h₂ : PrefixImage S bs cs) :
    PrefixImage (fun a c => ∃ b, R a b ∧ S b c) as cs := by
  obtain ⟨n, h₁⟩ := h₁
  obtain ⟨m, h₂⟩ := h₂
  refine ⟨min m n, ?_⟩
  rw [← List.take_take]
  exact forall₂_comp (List.forall₂_take m h₁) h₂

theorem PrefixImage.imp {R S : α → β → Prop} {as : List α} {bs : List β}
    (h : PrefixImage R as bs) (hRS : ∀ a b, R a b → S a b) : PrefixImage S as bs :=
  let ⟨n, hn⟩ := h
  ⟨n, hn.imp hRS⟩

/-- A stage passes on what its `map` made of a prefix of its inputs. -/
theorem runStage_prefixImage {σ : Type} (map : σ → α → Except SyncError2 (β × σ)) (s : σ)
    (as : List α) :
    PrefixImage (fun a b => ∃ s s', map s a = .ok (b, s')) as (runStage map s as).1 := by
  induction as generalizing s with
  | nil => exact ⟨0, .nil⟩
  | cons a as ih =>
    rcases h : map s a with e | ⟨b, s'⟩
    · exact ⟨0, by simp [runStage_cons_error _ h]⟩
    · obtain ⟨n, hn⟩ := ih s'
      refine ⟨n + 1, ?_⟩
      rw [runStage_cons_ok _ h]
      exact .cons ⟨s, s', h⟩ hn

/-- Outputs that keep a feature of their inputs: the features of the outputs are those of a
prefix of the inputs. -/
theorem PrefixImage.map_eq {δ : Type} {f : β → δ} {g : α → δ} {as : List α} {bs : List β}
    (h : PrefixImage (fun a b => f b = g a) as bs) : ∃ n, bs.map f = (as.take n).map g := by
  obtain ⟨n, hn⟩ := h
  refine ⟨n, ?_⟩
  generalize as.take n = l at hn ⊢
  induction hn with
  | nil => rfl
  | cons hab _ ih => simp [hab, ih]

end PrefixImage

end ClassSync
