import Mathlib.Data.List.Sort
import ClassSync.Matcher.Cursor

/-!
# Run — what the cursor accepts over a whole class stream

Properties of `Cursor.run` and `Cursor.accepts` over every class stream:

* `run_cases`: the output is a prefix of accepted classes followed by at
  most one error, which is the stream's own error or the rejection of the first class the
  cursor does not accept;
* `accepts_declared`, `accepts_ordered`: every accepted class is declared at its block, and
  over ascending expectations no `(block, hash)` pair is accepted twice and blocks never go
  back;
* `run_honest`: a stream that lists each expected block's hashes once is accepted whole;
* `run_dropEmptyBlocks`: empty blocks among the expectations change nothing.

Expectations without errors are `entries.map .ok`; lemmas about them are stated that way.
-/

namespace ClassSync

/-- The expectations without their empty blocks. -/
def dropEmptyBlocks (es : ExpectedStream) : ExpectedStream :=
  es.filter fun
    | .ok (_, s) => decide (s ≠ ∅)
    | .error _ => true

namespace Cursor

/-! ## Accepted prefixes -/

theorem accepts_cons_of_check {cur cur' : Cursor} {c : PeerData Class}
    (h : cur.check c.data.blockNumber c.data.hash = .accepted cur') (cs : List (PeerData Class)) :
    cur.accepts (c :: cs) = cur'.accepts cs := by
  simp [accepts, h]

theorem accepts_cons_eq_some {cur cur' : Cursor} {c : PeerData Class} {cs : List (PeerData Class)}
    (h : cur.accepts (c :: cs) = some cur') :
    ∃ cur'', cur.check c.data.blockNumber c.data.hash = .accepted cur'' ∧
      cur''.accepts cs = some cur' := by
  unfold accepts at h
  split at h
  · exact ⟨_, ‹_›, h⟩
  · cases h

/-- Everything `run` can do: accept a prefix, then stop at the end of the stream, at an error
of the stream (passed on unless the expectations ran out first), or at the first class it
does not accept (rejected, or dropped when the expectations ran out). -/
theorem run_cases (cur : Cursor) (items : List Item) :
    ∃ oks cur', cur.accepts oks = some cur' ∧
      (items = oks.map .ok ∧ cur.run items = oks.map .ok ∨
       (∃ e rest, items = oks.map .ok ++ .error e :: rest ∧
         (cur'.refill = none ∧ cur.run items = oks.map .ok ∨
          cur'.refill ≠ none ∧ cur.run items = oks.map .ok ++ [.error e])) ∨
       (∃ c rest, items = oks.map .ok ++ .ok c :: rest ∧
         (cur'.check c.data.blockNumber c.data.hash = .exhausted ∧ cur.run items = oks.map .ok ∨
          cur'.check c.data.blockNumber c.data.hash = .unexpected ∧
            cur.run items = oks.map .ok ++ [.error (.unexpectedClass c.peer)]))) := by
  induction items generalizing cur with
  | nil => exact ⟨[], cur, rfl, .inl ⟨rfl, rfl⟩⟩
  | cons x rest ih =>
    rcases x with e | c
    · refine ⟨[], cur, rfl, .inr (.inl ⟨e, rest, rfl, ?_⟩)⟩
      rcases hr : cur.refill with _ | r
      · exact .inl ⟨rfl, by simp [run, hr]⟩
      · exact .inr ⟨by simp, by simp [run, hr]⟩
    rcases hc : cur.check c.data.blockNumber c.data.hash with cur'' | _ | _
    · obtain ⟨oks, cur', hacc, hcases⟩ := ih cur''
      have hrun : cur.run (.ok c :: rest) = .ok c :: cur''.run rest := by simp [run, hc]
      refine ⟨c :: oks, cur', by rw [accepts_cons_of_check hc, hacc], ?_⟩
      rcases hcases with ⟨rfl, h⟩ | ⟨e, rest', rfl, h⟩ | ⟨c', rest', rfl, h⟩
      · exact .inl ⟨rfl, by simp [hrun, h]⟩
      · exact .inr (.inl ⟨e, rest', by simp, by simpa [hrun] using h⟩)
      · exact .inr (.inr ⟨c', rest', by simp, by simpa [hrun] using h⟩)
    · exact ⟨[], cur, rfl, .inr (.inr ⟨c, rest, rfl, .inr ⟨hc, by simp [run, hc]⟩⟩)⟩
    · exact ⟨[], cur, rfl, .inr (.inr ⟨c, rest, rfl, .inl ⟨hc, by simp [run, hc]⟩⟩)⟩

/-! ## Accepted classes are declared, once, in block order -/

/-- The cursor a class meets is the current one, or an entry pulled from the expectations. -/
theorem refill_map_ok {cur r : Cursor} {entries : List (BlockNumber × Finset ClassHash)}
    (hp : cur.pending = entries.map .ok) (h : cur.refill = some r) :
    r = cur ∧ cur.declared ≠ ∅ ∨
      ∃ pre rest, entries = pre ++ (r.declaredAt, r.declared) :: rest ∧
        r.pending = rest.map .ok ∧ r.declared ≠ ∅ := by
  by_cases hd : cur.declared = ∅
  · refine .inr ?_
    rw [refill, if_pos hd, hp] at h
    clear hp hd
    induction entries with
    | nil => cases h
    | cons e es ih =>
      obtain ⟨b, s⟩ := e
      by_cases hs : s = ∅
      · simp only [List.map_cons, advance, if_pos hs] at h
        obtain ⟨pre, rest, rfl, hr⟩ := ih h
        exact ⟨(b, s) :: pre, rest, rfl, hr⟩
      · simp only [List.map_cons, advance, if_neg hs, Option.some.injEq] at h
        subst h
        exact ⟨[], es, rfl, rfl, hs⟩
  · exact .inl ⟨by simpa [refill_of_ne_empty hd] using h.symm, hd⟩

/-- Every accepted class is still expected at the cursor's block, or is declared by an
entry not yet pulled. -/
theorem accepts_declared {cur cur' : Cursor} {entries : List (BlockNumber × Finset ClassHash)}
    (hp : cur.pending = entries.map .ok) {oks : List (PeerData Class)}
    (h : cur.accepts oks = some cur') :
    ∀ c ∈ oks, (c.data.blockNumber = cur.declaredAt ∧ c.data.hash ∈ cur.declared) ∨
      ∃ e ∈ entries, c.data.blockNumber = e.1 ∧ c.data.hash ∈ e.2 := by
  induction oks generalizing cur entries with
  | nil => simp
  | cons c cs ih =>
    obtain ⟨cur'', hc, hcs⟩ := accepts_cons_eq_some h
    obtain ⟨r, hr, hb, hh, rfl⟩ := check_eq_accepted hc
    -- each class is declared at the block of `r`, or by an entry `r` has not pulled
    have hat : ∀ {rest : List (BlockNumber × Finset ClassHash)}, r.pending = rest.map .ok →
        ∀ c' ∈ c :: cs, (c'.data.blockNumber = r.declaredAt ∧ c'.data.hash ∈ r.declared) ∨
          ∃ e ∈ rest, c'.data.blockNumber = e.1 ∧ c'.data.hash ∈ e.2 := fun hrp c' hc' => by
      rcases List.mem_cons.mp hc' with rfl | hc'
      · exact .inl ⟨hb, hh⟩
      · exact (@ih { r with declared := r.declared.erase c.data.hash } _ hrp hcs c' hc').imp_left
          fun ⟨hb', hh'⟩ => ⟨hb', Finset.mem_of_mem_erase hh'⟩
    rcases refill_map_ok hp hr with ⟨rfl, -⟩ | ⟨pre, rest, rfl, hrp, -⟩
    · exact hat hp
    · intro c' hc'
      rcases hat hrp c' hc' with ⟨hb', hh'⟩ | ⟨e, he, hbe⟩
      · exact .inr ⟨(r.declaredAt, r.declared), by simp, hb', hh'⟩
      · exact .inr ⟨e, by simp [he], hbe⟩

/-- Pending entries come in strictly ascending block order, after the current block while
it still expects classes. -/
def Ordered (cur : Cursor) : Prop :=
  ∃ entries : List (BlockNumber × Finset ClassHash), cur.pending = entries.map .ok ∧
    (entries.map (·.1.get)).Sorted (· < ·) ∧
    (cur.declared ≠ ∅ → ∀ e ∈ entries, cur.declaredAt.get < e.1.get)

theorem refill_ordered {cur r : Cursor} (ho : cur.Ordered) (h : cur.refill = some r) :
    r.Ordered ∧ r.declared ≠ ∅ := by
  obtain ⟨entries, hp, hs, ha⟩ := ho
  rcases refill_map_ok hp h with ⟨rfl, hd⟩ | ⟨pre, rest, rfl, hrp, hd⟩
  · exact ⟨⟨entries, hp, hs, ha⟩, hd⟩
  · simp only [List.map_append, List.map_cons, List.Sorted, List.pairwise_append,
      List.pairwise_cons] at hs
    refine ⟨⟨rest, hrp, hs.2.1.2, fun _ e he => hs.2.1.1 _ (List.mem_map_of_mem _ he)⟩, hd⟩

/-- Over ordered expectations, the accepted classes carry distinct `(block, hash)` pairs and
non-decreasing block numbers. -/
theorem accepts_ordered {cur cur' : Cursor} (ho : cur.Ordered) {oks : List (PeerData Class)}
    (h : cur.accepts oks = some cur') :
    (oks.map fun c => (c.data.blockNumber, c.data.hash)).Nodup ∧
      (oks.map (·.data.blockNumber.get)).Sorted (· ≤ ·) := by
  induction oks generalizing cur with
  | nil => simp
  | cons c cs ih =>
    obtain ⟨cur'', hc, hcs⟩ := accepts_cons_eq_some h
    obtain ⟨r, hr, hb, hh, rfl⟩ := check_eq_accepted hc
    obtain ⟨⟨entries, hp, hsort, hafter⟩, hd⟩ := refill_ordered ho hr
    have ho'' : Ordered { r with declared := r.declared.erase c.data.hash } :=
      ⟨entries, hp, hsort, fun _ => hafter hd⟩
    have hlater := @accepts_declared { r with declared := r.declared.erase c.data.hash } _ _ hp _
      hcs
    obtain ⟨ihn, ihs⟩ := ih ho'' hcs
    refine ⟨List.nodup_cons.mpr ⟨?_, ihn⟩, List.sorted_cons.mpr ⟨?_, ihs⟩⟩
    · simp only [List.mem_map, not_exists, not_and, Prod.mk.injEq]
      intro c' hc' hbc hhc
      rcases hlater c' hc' with ⟨-, hh'⟩ | ⟨e, he, hbe, -⟩
      · simp [hhc] at hh'
      · have := hafter hd e he
        rw [← hbe, hbc, hb] at this
        exact lt_irrefl _ this
    · simp only [List.mem_map, forall_exists_index, and_imp]
      rintro _ c' hc' rfl
      rcases hlater c' hc' with ⟨hb', -⟩ | ⟨e, he, hbe, -⟩
      · rw [hb', hb]
      · rw [hbe, hb]; exact (hafter hd e he).le

/-! ## Honest streams are accepted whole -/

/-- `cs` lists the classes of one expected entry: each of its hashes once, in any order, all
at its block. -/
def Enumerates (entry : BlockNumber × Finset ClassHash) (cs : List (PeerData Class)) : Prop :=
  (∀ c ∈ cs, c.data.blockNumber = entry.1) ∧ (cs.map (·.data.hash)).Nodup ∧
    (cs.map (·.data.hash)).toFinset = entry.2

theorem Enumerates.eq_nil {entry : BlockNumber × Finset ClassHash} {cs : List (PeerData Class)}
    (h : Enumerates entry cs) (hs : entry.2 = ∅) : cs = [] := by
  have := h.2.2
  rwa [hs, List.toFinset_eq_empty_iff, List.map_eq_nil_iff] at this

theorem Enumerates.ne_nil {entry : BlockNumber × Finset ClassHash} {cs : List (PeerData Class)}
    (h : Enumerates entry cs) (hs : entry.2 ≠ ∅) : cs ≠ [] := by
  rintro rfl
  exact hs (by simpa [Enumerates, eq_comm] using h)

/-- The first class of an enumeration is accepted, and the rest enumerates what is left. -/
theorem Enumerates.cons {b : BlockNumber} {s : Finset ClassHash} {c : PeerData Class}
    {cs : List (PeerData Class)} (h : Enumerates (b, s) (c :: cs)) :
    declaredCheck b s c.data.blockNumber c.data.hash = some (s.erase c.data.hash) ∧
      Enumerates (b, s.erase c.data.hash) cs := by
  obtain ⟨hb, hnd, hs⟩ := h
  simp only [List.map_cons, List.nodup_cons, List.toFinset_cons] at hnd hs
  refine ⟨declaredCheck_eq_some_iff.mpr ⟨hb c (List.mem_cons_self _ _), ?_, rfl⟩,
    fun c' hc' => hb c' (List.mem_cons_of_mem _ hc'), hnd.2, ?_⟩
  · rw [← hs]; exact Finset.mem_insert_self _ _
  · rw [← hs, Finset.erase_insert (by simpa using hnd.1)]

/-- Pulling expectations along an enumeration reaches the next block with classes, and the
classes that start there. -/
theorem advance_enumerates {entries : List (BlockNumber × Finset ClassHash)}
    {blocks : List (List (PeerData Class))} (hb : List.Forall₂ Enumerates entries blocks)
    (hne : blocks.flatten ≠ []) :
    ∃ b s rest L blocks', advance (entries.map .ok) = some ⟨b, s, rest.map .ok⟩ ∧
      Enumerates (b, s) L ∧ L ≠ [] ∧ List.Forall₂ Enumerates rest blocks' ∧
      blocks.flatten = L ++ blocks'.flatten := by
  induction hb with
  | nil => simp at hne
  | @cons e L es bs he hrest ih =>
    obtain ⟨b, s⟩ := e
    by_cases hs : s = ∅
    · obtain rfl := he.eq_nil hs
      simpa [advance, hs] using ih (by simpa using hne)
    · exact ⟨b, s, es, L, bs, by simp [advance, hs], he, he.ne_nil hs, hrest, rfl⟩

theorem refill_enumerates {cur : Cursor} {entries : List (BlockNumber × Finset ClassHash)}
    {L : List (PeerData Class)} {blocks : List (List (PeerData Class))}
    (hp : cur.pending = entries.map .ok) (hL : Enumerates (cur.declaredAt, cur.declared) L)
    (hb : List.Forall₂ Enumerates entries blocks) (hne : L ++ blocks.flatten ≠ []) :
    ∃ r L' entries' blocks', cur.refill = some r ∧ r.pending = entries'.map .ok ∧
      Enumerates (r.declaredAt, r.declared) L' ∧ L' ≠ [] ∧
      List.Forall₂ Enumerates entries' blocks' ∧ L ++ blocks.flatten = L' ++ blocks'.flatten := by
  by_cases hd : cur.declared = ∅
  · obtain rfl := hL.eq_nil hd
    obtain ⟨b, s, rest, L', blocks', hadv, hen, hne', hrest, hjoin⟩ :=
      advance_enumerates hb (by simpa using hne)
    exact ⟨⟨b, s, rest.map .ok⟩, L', rest, blocks', by simp [refill, hd, hp, hadv], rfl, hen,
      hne', hrest, by simpa using hjoin⟩
  · exact ⟨cur, L, entries, blocks, refill_of_ne_empty hd, hp, hL, hL.ne_nil hd, hb, rfl⟩

/-- A stream that is a prefix of an enumeration of the expectations, the current block's
classes first, is accepted whole and passed on unchanged. -/
theorem run_honest {cs : List (PeerData Class)} :
    ∀ {cur : Cursor} {entries : List (BlockNumber × Finset ClassHash)}
      {L : List (PeerData Class)} {blocks : List (List (PeerData Class))},
      cur.pending = entries.map .ok → Enumerates (cur.declaredAt, cur.declared) L →
      List.Forall₂ Enumerates entries blocks → cs <+: L ++ blocks.flatten →
      cur.run (cs.map .ok) = cs.map .ok := by
  induction cs with
  | nil => intros; rfl
  | cons c cs ih =>
    intro cur entries L blocks hp hL hb hpre
    obtain ⟨r, L', entries', blocks', hr, hrp, hen, hne, hrest, hjoin⟩ :=
      refill_enumerates hp hL hb (fun h => by simp [h] at hpre)
    obtain ⟨l, L'', rfl⟩ := List.exists_cons_of_ne_nil hne
    rw [hjoin, List.cons_append, List.cons_prefix_cons] at hpre
    obtain ⟨rfl, hpre'⟩ := hpre
    obtain ⟨hcheck, hen'⟩ := hen.cons
    have hc : cur.check c.data.blockNumber c.data.hash =
        .accepted { r with declared := r.declared.erase c.data.hash } := by
      simp [check, hr, hcheck]
    simp [run, hc, @ih { r with declared := r.declared.erase c.data.hash } _ _ _ hrp hen' hrest
      hpre']

/-! ## Empty blocks change nothing -/

/-- The cursor with the empty blocks among its pending expectations dropped. -/
def dropEmpty (cur : Cursor) : Cursor := { cur with pending := dropEmptyBlocks cur.pending }

@[simp] theorem dropEmpty_declaredAt (cur : Cursor) : cur.dropEmpty.declaredAt = cur.declaredAt :=
  rfl

@[simp] theorem dropEmpty_declared (cur : Cursor) : cur.dropEmpty.declared = cur.declared := rfl

theorem advance_dropEmptyBlocks (es : ExpectedStream) :
    advance (dropEmptyBlocks es) = (advance es).map dropEmpty := by
  induction es with
  | nil => rfl
  | cons e es ih =>
    rcases e with err | ⟨b, s⟩
    · simp [dropEmptyBlocks, advance]
    · by_cases hs : s = ∅
      · simpa [dropEmptyBlocks, advance, hs] using ih
      · simp [dropEmptyBlocks, advance, hs, dropEmpty]

theorem refill_dropEmpty (cur : Cursor) : cur.dropEmpty.refill = cur.refill.map dropEmpty := by
  by_cases hd : cur.declared = ∅
  · simp [refill, dropEmpty, hd, advance_dropEmptyBlocks]
  · simp [refill, dropEmpty, hd]

theorem check_dropEmpty (cur : Cursor) (b : BlockNumber) (h : ClassHash) :
    cur.dropEmpty.check b h =
      match cur.check b h with
      | .accepted c => .accepted c.dropEmpty
      | .unexpected => .unexpected
      | .exhausted => .exhausted := by
  simp only [check, refill_dropEmpty]
  rcases cur.refill with _ | r
  · rfl
  · simp only [Option.map_some', dropEmpty_declaredAt, dropEmpty_declared]
    cases declaredCheck r.declaredAt r.declared b h <;> rfl

/-- The output does not see the empty blocks among the expectations. -/
theorem run_dropEmpty (cur : Cursor) (items : List Item) : cur.dropEmpty.run items = cur.run items := by
  induction items generalizing cur with
  | nil => rfl
  | cons x rest ih =>
    rcases x with e | c
    · simp only [run, refill_dropEmpty]
      cases cur.refill <;> rfl
    · simp only [run, check_dropEmpty]
      cases cur.check c.data.blockNumber c.data.hash <;> simp [ih]

/-! ## Expectations past an error are never read -/

/-- The cursor with the expectations `t` after its pending ones. -/
def appendPending (t : ExpectedStream) (cur : Cursor) : Cursor :=
  { cur with pending := cur.pending ++ t }

@[simp] theorem appendPending_declaredAt (t : ExpectedStream) (cur : Cursor) :
    (cur.appendPending t).declaredAt = cur.declaredAt := rfl

@[simp] theorem appendPending_declared (t : ExpectedStream) (cur : Cursor) :
    (cur.appendPending t).declared = cur.declared := rfl

/-- Expectations that `advance` cannot get past, an error first among them, are never
pulled: pulling from `es ++ t` stops where pulling from `es` does. -/
theorem advance_append {t : ExpectedStream} (ht : advance t = none) (es : ExpectedStream) :
    advance (es ++ t) = (advance es).map (appendPending t) := by
  induction es with
  | nil => simpa using ht
  | cons e es ih =>
    rcases e with err | ⟨b, s⟩
    · rfl
    · by_cases hs : s = ∅
      · simpa [advance, hs] using ih
      · simp [advance, hs, appendPending]

theorem refill_appendPending {t : ExpectedStream} (ht : advance t = none) (cur : Cursor) :
    (cur.appendPending t).refill = cur.refill.map (appendPending t) := by
  by_cases hd : cur.declared = ∅
  · simp [refill, appendPending, hd, advance_append ht]
  · simp [refill, appendPending, hd]

theorem check_appendPending {t : ExpectedStream} (ht : advance t = none) (cur : Cursor)
    (b : BlockNumber) (h : ClassHash) :
    (cur.appendPending t).check b h =
      match cur.check b h with
      | .accepted c => .accepted (c.appendPending t)
      | .unexpected => .unexpected
      | .exhausted => .exhausted := by
  simp only [check, refill_appendPending ht]
  rcases cur.refill with _ | r
  · rfl
  · simp only [Option.map_some', appendPending_declaredAt, appendPending_declared]
    cases declaredCheck r.declaredAt r.declared b h <;> rfl

/-- The output does not see expectations past the point `advance` stops at. -/
theorem run_appendPending {t : ExpectedStream} (ht : advance t = none) (cur : Cursor)
    (items : List Item) : (cur.appendPending t).run items = cur.run items := by
  induction items generalizing cur with
  | nil => rfl
  | cons x rest ih =>
    rcases x with e | c
    · simp only [run, refill_appendPending ht]
      cases cur.refill <;> rfl
    · simp only [run, check_appendPending ht]
      cases cur.check c.data.blockNumber c.data.hash <;> simp [ih]

end Cursor

end ClassSync
