/-
  StarServer.Socket.WholeMessages — messages that fit the queue, and those that do not.

  `STSV_SendData` tests the queue's 62 blocks before the first block of a message and again
  after each: a message is dropped whole only when the queue is full before it (`fitsAll`).
  One that fits in part is cut, takes a number, and its caller is told nothing.

  Proved:
    * `queueKept_iff`: a message that does not fit leaves the queue as it was exactly when the
      queue was full already;
    * `messagesOf_pieces`: messages queued whole are joined as if each were one block;
    * `whole_messages_iff`: whatever the messages' bytes, every one decoded is one that was sent,
      and one that does not fit changes nothing, exactly when none is cut and the numbers of
      those queued open messages once they have opened one;
    * `cut_message_delivered`: of 1025 bytes the receiver is given 1024.
-/

import StarServer.Socket.Rejoin

namespace StarServer.Socket

open StarServer.Memory StarServer.Framing

/-! ## Sizes -/

/-- The blocks a message of this size takes. -/
def blocksOf (size : Nat) : Nat := (size + 1023) / 1024

/-- No message is cut: each one finds room for all its blocks, or the queue full. -/
def fitsAll : Nat → List Nat → Bool
  | _, [] => true
  | used, n :: ns => (decide (62 ≤ used) || decide (used + blocksOf n ≤ 62)) && fitsAll (min 62 (used + blocksOf n)) ns

/-- The numbers of the messages that queue a block; a full queue gives none away. -/
def takenNumbers : Nat → Nat → List Nat → List Nat
  | _, _, [] => []
  | no, used, n :: ns =>
    if used < 62 then
      if n = 0 then takenNumbers (no + 1) used ns else no :: takenNumbers (no + 1) (min 62 (used + blocksOf n)) ns
    else []

/-- The same messages with their numbers. -/
def taken : Nat → Nat → List (List Byte) → List (List Byte × Nat)
  | _, _, [] => []
  | no, used, m :: ms =>
    if used < 62 then
      if m = [] then taken (no + 1) used ms else (m, no) :: taken (no + 1) (min 62 (used + blocksOf m.length)) ms
    else []

theorem length_pieces (m : List Byte) : (pieces m).length = blocksOf m.length := length_chunks (by decide) m

theorem taken_numbers (no used : Nat) (ms : List (List Byte)) :
    (taken no used ms).map Prod.snd = takenNumbers no used (ms.map List.length) := by
  induction ms generalizing no used with
  | nil => rfl
  | cons m ms ih =>
    simp only [taken, takenNumbers, List.map_cons]
    by_cases hused : used < 62
    · by_cases hm : m = []
      · simp [hused, hm, ih]
      · have hlen : ¬ m.length = 0 := fun h => hm (List.eq_nil_of_length_eq_zero h)
        simp [hused, hm, hlen, ih]
    · simp [hused]

theorem mem_taken {no used : Nat} {ms : List (List Byte)} : ∀ x ∈ taken no used ms, x.1 ∈ ms ∧ x.1 ≠ [] := by
  induction ms generalizing no used with
  | nil =>
    intro x hx
    cases hx
  | cons m ms ih =>
    intro x hx
    simp only [taken] at hx
    split at hx
    · split at hx
      · obtain ⟨h1, h2⟩ := ih x hx
        exact ⟨List.mem_cons_of_mem _ h1, h2⟩
      · rename_i hm
        rcases List.mem_cons.mp hx with rfl | hx
        · exact ⟨List.mem_cons_self, hm⟩
        · obtain ⟨h1, h2⟩ := ih x hx
          exact ⟨List.mem_cons_of_mem _ h1, h2⟩
    · cases hx

/-! ## The queue of whole messages -/

theorem send_full {t : Tally} (h : ¬ t.blocks.length < 62) (ms : List (List Byte)) : ms.foldl Tally.send t = t := by
  induction ms with
  | nil => rfl
  | cons m ms ih =>
    have hsend : t.send m = t := if_neg h
    rw [List.foldl_cons, hsend, ih]

/-- Messages that are not cut are queued as all their pieces. -/
theorem send_whole {t : Tally} {ms : List (List Byte)} (hfit : fitsAll t.blocks.length (ms.map List.length) = true) :
    (ms.foldl Tally.send t).blocks =
      t.blocks ++ (taken t.no t.blocks.length ms).flatMap fun x => (pieces x.1).map fun p => (p, x.2) := by
  induction ms generalizing t with
  | nil => simp [taken]
  | cons m ms ih =>
    by_cases hused : t.blocks.length < 62
    · simp only [List.map_cons, fitsAll, Bool.and_eq_true, Bool.or_eq_true, decide_eq_true_eq] at hfit
      obtain ⟨hroom, hrest⟩ := hfit
      have hle : t.blocks.length + blocksOf m.length ≤ 62 := by omega
      have hmin : min 62 (t.blocks.length + blocksOf m.length) = t.blocks.length + blocksOf m.length := Nat.min_eq_right hle
      have hlen := length_pieces m
      have htake : (pieces m).take (62 - t.blocks.length) = pieces m := List.take_of_length_le (by omega)
      have hsend : t.send m = ⟨t.no + 1, t.blocks ++ (pieces m).map fun p => (p, t.no)⟩ := by
        unfold Tally.send
        rw [if_pos hused, htake]
      have hlen' : (t.send m).blocks.length = t.blocks.length + blocksOf m.length := by
        rw [hsend]
        simp [hlen]
      rw [hmin, ← hlen'] at hrest
      rw [List.foldl_cons, ih hrest, hlen', hsend]
      simp only [taken, hused, if_true]
      by_cases hm : m = []
      · subst hm
        simp [pieces, blocksOf]
      · simp [hm, hmin]
    · have hsend : t.send m = t := if_neg hused
      rw [List.foldl_cons, hsend, send_full hused]
      simp [taken, hused]

/-- The blocks of one message: only the first can open one. -/
theorem boundaries_message (last : Option Nat) (n k : Nat) (ns : List Nat) :
    ∃ b, (∀ ms, boundaries last (n :: ms) = b :: boundaries (some n) ms) ∧
      boundaries last (List.replicate (k + 1) n ++ ns) = b :: List.replicate k false ++ boundaries (some n) ns := by
  have hsame : boundaries (some n) (List.replicate k n ++ ns) = List.replicate k false ++ boundaries (some n) ns := by
    induction k with
    | zero => rfl
    | succ k ih => simp [List.replicate_succ, boundaries, ih]
  cases last with
  | none =>
    refine ⟨n % 256 == 0, fun _ => rfl, ?_⟩
    rw [List.replicate_succ, List.cons_append, boundaries, hsame]
    rfl
  | some last =>
    refine ⟨n % 256 != last % 256, fun _ => rfl, ?_⟩
    rw [List.replicate_succ, List.cons_append, boundaries, hsame]
    rfl

theorem zip_added (ps : List (List Byte)) : (List.replicate ps.length false).zip ps = ps.map fun p => (false, p) := by
  induction ps with
  | nil => rfl
  | cons p ps ih => simp [List.replicate_succ, ih]

/-- The pieces of messages are joined as the messages would be. -/
theorem foldl_pieces {xs : List (List Byte × Nat)} (hne : ∀ x ∈ xs, x.1 ≠ []) (last : Option Nat) (ms : List (List Byte)) :
    let bs := xs.flatMap fun x => (pieces x.1).map fun p => (p, x.2)
    ((boundaries last (bs.map Prod.snd)).zip (bs.map Prod.fst)).foldl joinStep ms =
      ((boundaries last (xs.map Prod.snd)).zip (xs.map Prod.fst)).foldl joinStep ms := by
  induction xs generalizing last ms with
  | nil => rfl
  | cons x xs ih =>
    obtain ⟨m, n⟩ := x
    have hm : m ≠ [] := hne (m, n) List.mem_cons_self
    obtain ⟨p, ps, hps⟩ := List.exists_cons_of_ne_nil (show pieces m ≠ [] from chunks_ne_nil (by decide) hm)
    have hflat : p ++ ps.flatten = m := by
      have := chunks_flatten (show 0 < clientDefaultBuffer by decide) m
      rw [pieces] at hps
      rwa [hps] at this
    have ih := @ih (fun y hy => hne y (List.mem_cons_of_mem _ hy)) (some n)
    intro bs
    generalize hrest : (xs.flatMap fun x => (pieces x.1).map fun p => (p, x.2)) = rest at ih
    have hbs : bs = (p, n) :: ps.map (fun p => (p, n)) ++ rest := by
      simp only [bs, List.flatMap_cons, hps, hrest, List.map_cons]
    have hfst : bs.map Prod.fst = p :: ps ++ rest.map Prod.fst := by simp [hbs, Function.comp_def]
    have hsnd : bs.map Prod.snd = List.replicate (ps.length + 1) n ++ rest.map Prod.snd := by
      simp [hbs, Function.comp_def, List.map_const', List.replicate_succ]
    obtain ⟨b, hone, hall⟩ := boundaries_message last n ps.length (rest.map Prod.snd)
    rw [hfst, hsnd, hall, List.map_cons, List.map_cons, hone, List.cons_append, List.cons_append, List.zip_cons_cons,
      List.zip_cons_cons, List.foldl_cons, List.foldl_cons, List.zip_append (by simp), List.foldl_append, zip_added,
      joinStep_blocks, hflat]
    exact ih _

theorem messagesOf_pieces {xs : List (List Byte × Nat)} (hne : ∀ x ∈ xs, x.1 ≠ []) :
    messagesOf (xs.flatMap fun x => (pieces x.1).map fun p => (p, x.2)) = messagesOf xs := foldl_pieces hne none []

theorem sendAll_tallied {t : Tally} {c : Client} (h : Tallied t c) (ms : List (List Byte)) :
    Tallied (ms.foldl Tally.send t) (ms.foldl stsvSendData c) := by
  induction ms generalizing t c with
  | nil => exact h
  | cons m ms ih => exact ih (h.send m)

/-- What the receiver is given of a round whose messages are not cut. -/
theorem frame_whole {env : Env} {fs : FS} {c : Client} {ms : List (List Byte)} (h0 : c.sendCount = 0)
    (hrest : c.fileDataSending = true → (sendRest c).toNat < 2 ^ 31) (hfit : fitsAll 0 (ms.map List.length) = true)
    (r : Client) : received (processMessagePacket (placed r (packFrame env fs (ms.foldl stsvSendData c)))) =
      messagesOf (taken c.curPacketNo.toNat 0 ms) := by
  have hempty : queue c = [] := List.eq_nil_of_length_eq_zero (by rw [length_queue, h0])
  have htally : tallyOf c = ⟨c.curPacketNo.toNat, []⟩ := by simp [tallyOf, hempty]
  have ht := sendAll_tallied (tallyOf_tallied (queueOk_empty h0)) ms
  have hsame := sendAll_same c ms
  have hsent : (ms.foldl stsvSendData c).fileDataSending = true →
      (sendRest (ms.foldl stsvSendData c)).toNat < 2 ^ 31 := by
    intro hs
    rw [hsame.sending] at hs
    unfold sendRest
    rw [hsame.size, hsame.done]
    exact hrest hs
  have hwhole := @send_whole ⟨c.curPacketNo.toNat, []⟩ ms hfit
  rw [List.nil_append] at hwhole
  rw [@Tallied.frame env fs _ _ ht hsent r, htally, hwhole, messagesOf_pieces fun x hx => (mem_taken x hx).2]
  rfl

/-! ## A message that does not fit -/

/-- `sendCount`, the queue with its block sizes, and `curPacketNo` as they were. -/
structure SameQueue (c d : Client) : Prop where
  sendCount : d.sendCount = c.sendCount
  sizes : d.sendBufferMSGSize = c.sendBufferMSGSize
  queue : queue d = queue c
  curPacketNo : d.curPacketNo = c.curPacketNo

/-- Every message that needs more blocks than there are left changes nothing. -/
def QueueKept (c : Client) (ms : List (List Byte)) : Prop :=
  ∀ before m after, ms = before ++ m :: after →
    62 < (before.foldl stsvSendData c).sendCount + (pieces m).length →
      SameQueue (before.foldl stsvSendData c) (stsvSendData (before.foldl stsvSendData c) m)

theorem sendCount_min {c : Client} (h : QueueOk c) (m : List Byte) :
    (stsvSendData c m).sendCount = min 62 (c.sendCount + blocksOf m.length) := by
  have hcount := h.count
  have hlen := length_pieces m
  rw [sendCount_sendData h]
  omega

theorem queueKept_iff {c : Client} (h : QueueOk c) (ms : List (List Byte)) :
    QueueKept c ms ↔ fitsAll c.sendCount (ms.map List.length) = true := by
  induction ms generalizing c with
  | nil =>
    refine ⟨fun _ => rfl, ?_⟩
    intro _ before m after he
    simp at he
  | cons m ms ih =>
    have hcount := h.count
    have hnext := sendCount_min h m
    have hlen := length_pieces m
    have ih := ih (sendData_ok h m)
    rw [hnext] at ih
    simp only [List.map_cons, fitsAll, Bool.and_eq_true, Bool.or_eq_true, decide_eq_true_eq]
    constructor
    · intro hu
      refine ⟨?_, ih.mp ?_⟩
      · -- cut, it would leave more blocks than before
        by_cases hfit : c.sendCount + blocksOf m.length ≤ 62
        · exact Or.inr hfit
        · have hsame := (hu [] m ms rfl (by rw [hlen]; exact Nat.lt_of_not_le hfit)).sendCount
          simp only [List.foldl_nil] at hsame
          omega
      · intro before x after he hroom
        exact hu (m :: before) x after (by rw [he]; rfl) hroom
    · intro hparts before x after he hroom
      obtain ⟨hhead, hrest⟩ := hparts
      rcases before with _ | ⟨y, before⟩
      · simp only [List.nil_append, List.cons.injEq] at he
        obtain ⟨rfl, -⟩ := he
        simp only [List.foldl_nil] at hroom ⊢
        have hfull : stsvSendData c m = c := by
          unfold stsvSendData
          exact if_neg (by simp only [clientDefaultMaxBlock]; omega)
        rw [hfull]
        exact ⟨rfl, rfl, rfl, rfl⟩
      · simp only [List.cons_append, List.cons.injEq] at he
        obtain ⟨rfl, he⟩ := he
        exact ih.mpr hrest before x after he hroom

/-! ## Whole messages -/

/-- A round is all or nothing: the frame packed after it decodes to messages that were sent,
    and what does not fit leaves the queue alone. -/
structure AllOrNothing (env : Env) (fs : FS) (c : Client) (ms : List (List Byte)) : Prop where
  whole : ∀ r, ∀ x ∈ received (processMessagePacket (placed r (packFrame env fs (ms.foldl stsvSendData c)))), x ∈ ms
  kept : QueueKept c ms

/-- The same for all messages of these sizes. -/
def AllOrNothingFor (env : Env) (fs : FS) (c : Client) (sizes : List Nat) : Prop :=
  ∀ ms : List (List Byte), ms.map List.length = sizes → AllOrNothing env fs c ms

/-- A message of this size that ends in its only 1. -/
def marked : Nat → List Byte
  | 0 => []
  | n + 1 => List.replicate n 0 ++ [1]

theorem length_marked (n : Nat) : (marked n).length = n := by
  cases n with
  | zero => rfl
  | succ n => simp [marked]

theorem count_marked (n : Nat) : (marked (n + 1)).count 1 = 1 := by
  have hzero : (List.replicate n (0 : Byte)).count 1 = 0 := List.count_eq_zero_of_not_mem fun h =>
    absurd (List.eq_of_mem_replicate h) (by decide)
  rw [marked, List.count_append, hzero]
  rfl

/-- Two messages in one piece are none of those sent. -/
theorem not_marked {sizes : List Nat} {x y : List Byte} (hx : x ∈ sizes.map marked) (hy : y ∈ sizes.map marked)
    (hx0 : x ≠ []) (hy0 : y ≠ []) (v : List Byte) : x ++ y ++ v ∉ sizes.map marked := by
  have hone : ∀ z ∈ sizes.map marked, z ≠ [] → z.count 1 = 1 := by
    intro z hz hz0
    obtain ⟨n, -, rfl⟩ := List.mem_map.mp hz
    rcases n with _ | n
    · exact absurd rfl hz0
    · exact count_marked n
  intro hmem
  have hcount := hone _ hmem (by simp [hx0])
  rw [List.count_append, List.count_append, hone x hx hx0, hone y hy hy0] at hcount
  omega

/-- **All or nothing, exactly when nothing is cut and nothing is added to a message opened
    before.** The slot is as an `EndPackSendData` leaves it: nothing queued, any
    `curPacketNo`, and perhaps a file going out. -/
theorem whole_messages_iff {env : Env} {fs : FS} {c : Client} {sizes : List Nat} (h0 : c.sendCount = 0)
    (hrest : c.fileDataSending = true → (sendRest c).toNat < 2 ^ 31) :
    AllOrNothingFor env fs c sizes ↔
      fitsAll 0 sizes = true ∧ OnlyOpened (boundaries none (takenNumbers c.curPacketNo.toNat 0 sizes)) := by
  have hok := queueOk_empty h0
  have hflags : ∀ ms : List (List Byte), ms.map List.length = sizes →
      (((boundaries none ((taken c.curPacketNo.toNat 0 ms).map Prod.snd)).zip
        ((taken c.curPacketNo.toNat 0 ms).map Prod.fst)).map Prod.fst) =
          boundaries none (takenNumbers c.curPacketNo.toNat 0 sizes) := by
    intro ms hms
    rw [List.map_fst_zip (by simp), taken_numbers, hms]
  constructor
  · intro hall
    have hmarked : (sizes.map marked).map List.length = sizes := by
      rw [List.map_map]
      exact (List.map_congr_left fun n _ => length_marked n).trans (List.map_id' sizes)
    obtain ⟨hwhole, hkept⟩ := hall (sizes.map marked) hmarked
    have hfit := (queueKept_iff hok _).mp hkept
    rw [h0, hmarked] at hfit
    refine ⟨hfit, ?_⟩
    by_contra hadded
    rw [← hflags _ hmarked] at hadded
    obtain ⟨x, hx, y, hy, v, hv⟩ := joined_added hadded
    rw [List.map_snd_zip (by simp)] at hx hy
    obtain ⟨p, hp, rfl⟩ := List.mem_map.mp hx
    obtain ⟨q, hq, rfl⟩ := List.mem_map.mp hy
    obtain ⟨hp1, hp0⟩ := mem_taken p hp
    obtain ⟨hq1, hq0⟩ := mem_taken q hq
    have hframe := @frame_whole env fs c (sizes.map marked) h0 hrest (by rw [hmarked]; exact hfit) c
    exact not_marked hp1 hq1 hp0 hq0 v (hwhole c _ (by rw [hframe]; exact hv))
  · intro hboth ms hms
    obtain ⟨hfit, hopened⟩ := hboth
    refine ⟨?_, (queueKept_iff hok ms).mpr (by rw [h0, hms]; exact hfit)⟩
    intro r x hx
    rw [frame_whole h0 hrest (by rw [hms]; exact hfit), messagesOf,
      joined_of_opened (by rw [hflags ms hms]; exact hopened)] at hx
    obtain ⟨p, hp, rfl⟩ := List.mem_map.mp hx
    obtain ⟨q, hq, he⟩ := List.mem_map.mp (List.of_mem_zip (List.mem_filter.mp hp).1).2
    rw [← he]
    exact (mem_taken q hq).1

/-- Three bytes, none, and two blocks. -/
theorem whole_messages_three : AllOrNothingFor quietEnv (fun _ => none) (newConn [] [] []).client [3, 0, 2000] := by
  have hnone : (newConn [] [] []).client.fileDataSending = true →
      (sendRest (newConn [] [] []).client).toNat < 2 ^ 31 := by decide
  exact (whole_messages_iff rfl hnone).mpr ⟨by decide, by decide⟩

/-- **1025 bytes with one block left.** The first 1024 are queued and delivered as a message. -/
theorem cut_message_delivered :
    let c := (newConn [] [] []).client
    let ms := List.replicate 61 [0] ++ [List.replicate 1025 0]
    (∀ r, received (processMessagePacket (placed r (packFrame quietEnv (fun _ => none) (ms.foldl stsvSendData c)))) =
        List.replicate 61 [0] ++ [List.replicate 1024 0]) ∧
      ¬AllOrNothing quietEnv (fun _ => none) c ms := by
  intro c ms
  have ht := sendAll_tallied (tallyOf_tallied (queueOk_empty (show c.sendCount = 0 from rfl))) ms
  have hnone : (ms.foldl stsvSendData c).fileDataSending = true →
      (sendRest (ms.foldl stsvSendData c)).toNat < 2 ^ 31 := by
    intro hs
    rw [(sendAll_same c ms).sending] at hs
    cases hs
  have hframe : ∀ r, received (processMessagePacket (placed r (packFrame quietEnv (fun _ => none)
      (ms.foldl stsvSendData c)))) = List.replicate 61 [0] ++ [List.replicate 1024 0] := by
    intro r
    rw [@Tallied.frame quietEnv (fun _ => none) _ _ ht hnone r]
    decide +kernel
  refine ⟨hframe, ?_⟩
  intro h
  have hmem : List.replicate 1024 (0 : Byte) ∈ ms :=
    h.whole c _ (by rw [hframe]; exact List.mem_append_right _ (List.mem_singleton_self _))
  have hsizes : ∀ m ∈ ms, m.length = 1 ∨ m.length = 1025 := by
    intro m hm
    rcases List.mem_append.mp hm with hm | hm
    · rw [List.eq_of_mem_replicate hm]
      exact Or.inl rfl
    · rw [List.mem_singleton.mp hm]
      exact Or.inr List.length_replicate
  have := hsizes _ hmem
  rw [List.length_replicate] at this
  omega

end StarServer.Socket
