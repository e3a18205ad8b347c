/-
  StarServer.Framing.Joined — blocks joined to messages by a flag each.

  A block that opens a message starts a new one; any other is added to the message before it,
  and lost where there is none.

  Proved:
    * `joinStep_split`: a block cut in two joins to the same;
    * `joined_injective`: for blocks that are not empty, what comes out says which of them
      opened a message;
    * `joined_of_opened`: where no block is added once one has opened a message, what comes out
      is whole blocks;
    * `joined_added`: otherwise two of them come out in one piece.
-/

import Mathlib.Data.List.Induction

namespace StarServer.Framing

variable {α : Type}

/-- Adds `x` to the last message. -/
def addLast (ms : List (List α)) (x : List α) : List (List α) :=
  match ms.getLast? with
  | none => []
  | some m => ms.dropLast ++ [m ++ x]

def joinStep (ms : List (List α)) (p : Bool × List α) : List (List α) := if p.1 then ms ++ [p.2] else addLast ms p.2

/-- The messages that blocks with their flags are joined to. -/
def joined (ps : List (Bool × List α)) : List (List α) := ps.foldl joinStep []

@[simp] theorem addLast_nil (x : List α) : addLast [] x = [] := rfl

@[simp] theorem addLast_concat (ms : List (List α)) (m x : List α) : addLast (ms ++ [m]) x = ms ++ [m ++ x] := by
  simp [addLast]

@[simp] theorem joinStep_open (ms : List (List α)) (x : List α) : joinStep ms (true, x) = ms ++ [x] := rfl

@[simp] theorem joinStep_add (ms : List (List α)) (x : List α) : joinStep ms (false, x) = addLast ms x := rfl

theorem joined_concat (ps : List (Bool × List α)) (p : Bool × List α) : joined (ps ++ [p]) = joinStep (joined ps) p := by
  simp [joined]

theorem addLast_append (ms : List (List α)) (x y : List α) : addLast (addLast ms x) y = addLast ms (x ++ y) := by
  rcases List.eq_nil_or_concat ms with rfl | ⟨ms, m, rfl⟩
  · rfl
  · simp

theorem joinStep_split (ms : List (List α)) (b : Bool) (x y : List α) :
    joinStep (joinStep ms (b, x)) (false, y) = joinStep ms (b, x ++ y) := by
  cases b with
  | true => simp
  | false => exact addLast_append ms x y

/-- A message of several blocks. -/
theorem joinStep_blocks (ms : List (List α)) (b : Bool) (x : List α) (xs : List (List α)) :
    (xs.map fun y => (false, y)).foldl joinStep (joinStep ms (b, x)) = joinStep ms (b, x ++ xs.flatten) := by
  induction xs generalizing x with
  | nil => simp
  | cons y xs ih => rw [List.map_cons, List.foldl_cons, joinStep_split, ih, List.flatten_cons, List.append_assoc]

/-! ## What comes out -/

theorem addLast_ne_nil {ms : List (List α)} {x : List α} (h : ∀ m ∈ ms, m ≠ []) : ∀ m ∈ addLast ms x, m ≠ [] := by
  rcases List.eq_nil_or_concat ms with rfl | ⟨ms, m, rfl⟩
  · simp
  · intro m' hm'
    rw [List.concat_eq_append] at h
    simp only [List.concat_eq_append, addLast_concat, List.mem_append, List.mem_singleton] at hm'
    rcases hm' with hm' | rfl
    · exact h m' (by simp [hm'])
    · have := h m (by simp)
      simp [this]

theorem joined_ne_nil {ps : List (Bool × List α)} (h : ∀ p ∈ ps, p.2 ≠ []) : ∀ m ∈ joined ps, m ≠ [] := by
  induction ps using List.reverseRecOn with
  | nil =>
    intro m hm
    cases hm
  | append_singleton ps p ih =>
    have hms := ih fun q hq => h q (by simp [hq])
    rw [joined_concat]
    obtain ⟨b, x⟩ := p
    cases b with
    | true =>
      intro m hm
      rw [joinStep_open, List.mem_append, List.mem_singleton] at hm
      rcases hm with hm | rfl
      · exact hms m hm
      · exact h (true, m) (by simp)
    | false => exact addLast_ne_nil hms

/-- The last message tells an opened block from an added one. -/
theorem opened_ne_added {ms ms' : List (List α)} {x : List α} (h : ∀ m ∈ ms', m ≠ []) : ms ++ [x] ≠ addLast ms' x := by
  rcases List.eq_nil_or_concat ms' with rfl | ⟨ms', m, rfl⟩
  · simp
  · intro heq
    rw [List.concat_eq_append, addLast_concat] at heq
    have hlast := (List.append_inj' heq rfl).2
    have hm : m = [] := by simpa using hlast
    exact h m (by simp) hm

theorem addLast_injective {ms ms' : List (List α)} {x : List α} (h : addLast ms x = addLast ms' x) : ms = ms' := by
  rcases List.eq_nil_or_concat ms with rfl | ⟨ms, m, rfl⟩
  · rcases List.eq_nil_or_concat ms' with rfl | ⟨ms', m', rfl⟩
    · rfl
    · simp at h
  · rcases List.eq_nil_or_concat ms' with rfl | ⟨ms', m', rfl⟩
    · simp at h
    · simp only [List.concat_eq_append, addLast_concat] at h ⊢
      obtain ⟨hinit, hlast⟩ := List.append_inj' h rfl
      have hm : m = m' := by simpa using hlast
      rw [hinit, hm]

theorem joined_injective {ps ps' : List (Bool × List α)} (hblocks : ps.map Prod.snd = ps'.map Prod.snd)
    (hne : ∀ p ∈ ps, p.2 ≠ []) (h : joined ps = joined ps') : ps = ps' := by
  induction ps using List.reverseRecOn generalizing ps' with
  | nil => simpa using hblocks
  | append_singleton ps p ih =>
    rcases List.eq_nil_or_concat ps' with rfl | ⟨ps', p', rfl⟩
    · simp at hblocks
    · rw [List.concat_eq_append] at hblocks h ⊢
      rw [List.map_append, List.map_append] at hblocks
      obtain ⟨hinit, hlast⟩ := List.append_inj' hblocks rfl
      have hne' : ∀ q ∈ ps, q.2 ≠ [] := fun q hq => hne q (by simp [hq])
      have hne'' : ∀ q ∈ ps', q.2 ≠ [] := by
        intro q hq
        have hmem : q.2 ∈ ps.map Prod.snd := by
          rw [hinit]
          exact List.mem_map_of_mem hq
        obtain ⟨q', hq', he⟩ := List.mem_map.mp hmem
        exact he ▸ hne' q' hq'
      obtain ⟨b, x⟩ := p
      obtain ⟨b', x'⟩ := p'
      obtain rfl : x = x' := by simpa using hlast
      rw [joined_concat, joined_concat] at h
      cases b with
      | true =>
        cases b' with
        | true => rw [ih hinit hne' (List.append_cancel_right h)]
        | false => exact absurd h (opened_ne_added (joined_ne_nil hne''))
      | false =>
        cases b' with
        | true => exact absurd h.symm (opened_ne_added (joined_ne_nil hne'))
        | false => rw [ih hinit hne' (addLast_injective h)]

/-! ## Whole messages -/

/-- No block is added once one has opened a message. -/
def OnlyOpened (flags : List Bool) : Prop := flags.Pairwise fun a b => a = true → b = true

instance (flags : List Bool) : Decidable (OnlyOpened flags) := by unfold OnlyOpened; infer_instance

theorem foldl_opened {ps : List (Bool × List α)} (h : ∀ p ∈ ps, p.1 = true) (ms : List (List α)) :
    ps.foldl joinStep ms = ms ++ ps.map Prod.snd := by
  induction ps generalizing ms with
  | nil => simp
  | cons p ps ih =>
    obtain ⟨b, x⟩ := p
    have hb : b = true := h (b, x) List.mem_cons_self
    subst hb
    rw [List.foldl_cons, joinStep_open, ih fun q hq => h q (List.mem_cons_of_mem _ hq)]
    simp

/-- What comes out is the blocks that open a message: those in front of them are lost. -/
theorem joined_of_opened {ps : List (Bool × List α)} (h : OnlyOpened (ps.map Prod.fst)) :
    joined ps = (ps.filter Prod.fst).map Prod.snd := by
  induction ps with
  | nil => rfl
  | cons p ps ih =>
    obtain ⟨b, x⟩ := p
    obtain ⟨hall, hrest⟩ := List.pairwise_cons.mp h
    cases b with
    | false =>
      rw [List.filter_cons_of_neg (by simp)]
      exact ih hrest
    | true =>
      have hopen : ∀ q ∈ ps, q.1 = true := fun q hq => hall q.1 (List.mem_map_of_mem hq) rfl
      have hfilter : ps.filter Prod.fst = ps := List.filter_eq_self.mpr hopen
      show ps.foldl joinStep [x] = _
      rw [foldl_opened hopen, List.filter_cons_of_pos rfl, hfilter]
      rfl

/-- Messages before the last stay as they are. -/
theorem joinStep_append (ms : List (List α)) {ns : List (List α)} (hns : ns ≠ []) (p : Bool × List α) :
    joinStep (ms ++ ns) p = ms ++ joinStep ns p := by
  obtain ⟨b, x⟩ := p
  rcases List.eq_nil_or_concat ns with rfl | ⟨ns, n, rfl⟩
  · exact absurd rfl hns
  · cases b with
    | true => simp
    | false => rw [List.concat_eq_append, ← List.append_assoc, joinStep_add, joinStep_add, addLast_concat, addLast_concat,
        List.append_assoc]

theorem joinStep_ne_nil {ns : List (List α)} (hns : ns ≠ []) (p : Bool × List α) : joinStep ns p ≠ [] := by
  obtain ⟨b, x⟩ := p
  rcases List.eq_nil_or_concat ns with rfl | ⟨ns, n, rfl⟩
  · exact absurd rfl hns
  · cases b with
    | true => simp
    | false => simp

theorem foldl_append (ms : List (List α)) {ns : List (List α)} (hns : ns ≠ []) (ps : List (Bool × List α)) :
    ps.foldl joinStep (ms ++ ns) = ms ++ ps.foldl joinStep ns := by
  induction ps generalizing ns with
  | nil => rfl
  | cons p ps ih => rw [List.foldl_cons, joinStep_append ms hns, ih (joinStep_ne_nil hns p), List.foldl_cons]

/-- An open message only grows. -/
theorem opened_grows (m : List α) (ps : List (Bool × List α)) : ∃ v, m ++ v ∈ ps.foldl joinStep [m] := by
  induction ps generalizing m with
  | nil => exact ⟨[], by simp⟩
  | cons p ps ih =>
    obtain ⟨b, x⟩ := p
    cases b with
    | true =>
      refine ⟨[], ?_⟩
      have happ := @foldl_append α [m] [x] (by simp) ps
      show m ++ [] ∈ ps.foldl joinStep ([m] ++ [x])
      rw [happ]
      simp
    | false =>
      obtain ⟨v, hv⟩ := ih (m ++ x)
      exact ⟨x ++ v, by rw [← List.append_assoc]; exact hv⟩

theorem added_after_opened {ps : List (Bool × List α)} (h : ¬OnlyOpened (ps.map Prod.fst)) :
    ∃ A x y B, ps = A ++ (true, x) :: (false, y) :: B := by
  induction ps with
  | nil => exact absurd List.Pairwise.nil h
  | cons p ps ih =>
    by_cases hrest : OnlyOpened (ps.map Prod.fst)
    · obtain ⟨b, x⟩ := p
      cases b with
      | false => exact absurd (List.pairwise_cons.mpr ⟨fun _ _ hf => absurd hf (by simp), hrest⟩) h
      | true =>
        rcases ps with _ | ⟨⟨b, y⟩, ps⟩
        · exact absurd (List.pairwise_singleton _ _) h
        · cases b with
          | false => exact ⟨[], x, y, ps, rfl⟩
          | true =>
            refine absurd (List.pairwise_cons.mpr ⟨?_, hrest⟩) h
            intro b hb _
            rcases List.mem_cons.mp hb with rfl | hb
            · rfl
            · exact (List.pairwise_cons.mp hrest).1 b hb rfl
    · obtain ⟨A, x, y, B, rfl⟩ := ih hrest
      exact ⟨p :: A, x, y, B, rfl⟩

/-- Otherwise two blocks come out in one piece. -/
theorem joined_added {ps : List (Bool × List α)} (h : ¬OnlyOpened (ps.map Prod.fst)) :
    ∃ x ∈ ps.map Prod.snd, ∃ y ∈ ps.map Prod.snd, ∃ v, x ++ y ++ v ∈ joined ps := by
  obtain ⟨A, x, y, B, rfl⟩ := added_after_opened h
  obtain ⟨v, hv⟩ := opened_grows (x ++ y) B
  refine ⟨x, by simp, y, by simp, v, ?_⟩
  have happ := @foldl_append α (joined A) [x ++ y] (by simp) B
  have hjoined : joined (A ++ (true, x) :: (false, y) :: B) = B.foldl joinStep (joined A ++ [x ++ y]) := by
    simp [joined]
  rw [hjoined, happ]
  exact List.mem_append_right _ hv

end StarServer.Framing
