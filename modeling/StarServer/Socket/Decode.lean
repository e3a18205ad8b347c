/-
  StarServer.Socket.Decode — what `_processMessagePacket`'s loop does with any size table.

  The loop never looks at the received size, at 64 or at the first tag; what it leaves is
  still simple. Message 0 starts at or after the table's end, each message starts where
  the one before it ends, and the last ends at `startDataAddr` (`Tiled`, for every
  table). The index it writes at runs from -1, where an entry with tag 1 in front keeps
  it, up to one less than the number of tag changes.

  Proved:
    * `decode_safe_iff`: the writes, the table and the messages are all within bounds
      exactly when the first tag is not 1, the tags change at most 64 times, and table and
      blocks end inside the frame;
    * `decode_unsafe`: a frame that passes every check and writes at index -1.
-/

import StarServer.Socket.Dispatch
import StarServer.Socket.Session

namespace StarServer.Socket

open StarServer.Memory

/-! ## The loop's invariant -/

/-- How often the tag changes along a table, from the tag before it. -/
def tagChanges : BitVec 16 → List (BitVec 16) → Nat
  | _, [] => 0
  | t, e :: es => (if t ≠ entryTag e then 1 else 0) + tagChanges (entryTag e) es

/-- The bytes a table's entries stand for. -/
def tableBytes (es : List (BitVec 16)) : Nat := (es.map entryLen).sum

/-- The messages opened so far lie one behind the other between `A` and `startDataAddr`. -/
structure Tiled (A : Int) (st : DecodeSt) : Prop where
  cur : -1 ≤ st.curPacket
  addr : A ≤ st.startDataAddr
  first : 0 ≤ st.curPacket → A ≤ st.recvBufferMSG 0
  size : ∀ k, 0 ≤ k → k ≤ st.curPacket → 0 ≤ st.recvBufferMSGSize k
  next : ∀ k, 0 ≤ k → k < st.curPacket → st.recvBufferMSG (k + 1) = st.recvBufferMSG k + st.recvBufferMSGSize k
  last : 0 ≤ st.curPacket → st.recvBufferMSG st.curPacket + st.recvBufferMSGSize st.curPacket = st.startDataAddr

theorem openPacket_tiled {A : Int} {st : DecodeSt} (h : Tiled A st) : Tiled A (openPacket st) := by
  have hcur := h.cur
  refine ⟨?_, h.addr, fun _ => ?_, fun k h0 hk => ?_, fun k h0 hk => ?_, fun _ => ?_⟩
  · show -1 ≤ st.curPacket + 1
    omega
  · show A ≤ Function.update st.recvBufferMSG (st.curPacket + 1) st.startDataAddr 0
    by_cases e : 0 = st.curPacket + 1
    · rw [← e, Function.update_self]
      exact h.addr
    · rw [Function.update_of_ne e]
      exact h.first (by omega)
  · show 0 ≤ Function.update st.recvBufferMSGSize (st.curPacket + 1) 0 k
    by_cases e : k = st.curPacket + 1
    · refine Int.le_of_eq ?_
      rw [e, Function.update_self]
    · rw [Function.update_of_ne e]
      have hk' : k ≤ st.curPacket + 1 := hk
      exact h.size k h0 (by omega)
  · have hk' : k < st.curPacket + 1 := hk
    show Function.update st.recvBufferMSG _ _ (k + 1) =
      Function.update st.recvBufferMSG _ _ k + Function.update st.recvBufferMSGSize _ _ k
    rw [Function.update_of_ne (show k ≠ _ by omega), Function.update_of_ne (show k ≠ _ by omega)]
    by_cases e : k = st.curPacket
    · -- the message being closed ends where the new one starts
      subst e
      rw [Function.update_self]
      exact (h.last h0).symm
    · rw [Function.update_of_ne (by omega)]
      exact h.next k h0 (by omega)
  · show Function.update st.recvBufferMSG (st.curPacket + 1) st.startDataAddr (st.curPacket + 1) +
      Function.update st.recvBufferMSGSize (st.curPacket + 1) 0 (st.curPacket + 1) = st.startDataAddr
    rw [Function.update_self, Function.update_self, Int.add_zero]

theorem addBlock_tiled {A : Int} {st : DecodeSt} (e : BitVec 16) (h : Tiled A st) : Tiled A (addBlock st e) := by
  have haddr := h.addr
  refine ⟨h.cur, ?_, h.first, fun k h0 hk => ?_, fun k h0 hk => ?_, fun h0 => ?_⟩
  · show A ≤ st.startDataAddr + entryLen e
    omega
  · show 0 ≤ Function.update st.recvBufferMSGSize st.curPacket _ k
    have hs := h.size k h0 hk
    by_cases e' : k = st.curPacket
    · subst e'
      rw [Function.update_self]
      omega
    · rw [Function.update_of_ne e']
      exact hs
  · have hk' : k < st.curPacket := hk
    show _ = _ + Function.update st.recvBufferMSGSize st.curPacket _ k
    rw [Function.update_of_ne (by omega)]
    exact h.next k h0 hk
  · show _ + Function.update st.recvBufferMSGSize st.curPacket _ st.curPacket = st.startDataAddr + entryLen e
    rw [Function.update_self, ← h.last h0, Int.add_assoc]
    rfl

theorem decodeStep_tiled {A : Int} {st : DecodeSt} (e : BitVec 16) (h : Tiled A st) : Tiled A (decodeStep st e) := by
  unfold decodeStep
  split
  · exact addBlock_tiled e (openPacket_tiled h)
  · exact addBlock_tiled e h

theorem decode_tiled {A : Int} {st : DecodeSt} (h : Tiled A st) (es : List (BitVec 16)) :
    Tiled A (es.foldl decodeStep st) := by
  induction es generalizing st with
  | nil => exact h
  | cons e es ih => exact ih (decodeStep_tiled e h)

/-! ## Index, address and the writes -/

theorem decodeStep_curPacket (st : DecodeSt) (e : BitVec 16) :
    (decodeStep st e).curPacket = st.curPacket + if st.continuePack ≠ entryTag e then 1 else 0 := by
  unfold decodeStep
  split
  · rfl
  · exact (Int.add_zero _).symm

theorem decodeStep_startDataAddr (st : DecodeSt) (e : BitVec 16) :
    (decodeStep st e).startDataAddr = st.startDataAddr + entryLen e := by
  unfold decodeStep
  split
  · rfl
  · rfl

@[simp] theorem decodeStep_continuePack (st : DecodeSt) (e : BitVec 16) :
    (decodeStep st e).continuePack = entryTag e := rfl

theorem decodeStep_touched (st : DecodeSt) (e : BitVec 16) :
    (decodeStep st e).touched = st.touched ++
      if st.continuePack ≠ entryTag e then [st.curPacket + 1, st.curPacket + 1] else [st.curPacket] := by
  unfold decodeStep
  split
  · simp [addBlock, openPacket]
  · simp [addBlock]

theorem decode_curPacket (es : List (BitVec 16)) (st : DecodeSt) :
    (es.foldl decodeStep st).curPacket = st.curPacket + tagChanges st.continuePack es := by
  induction es generalizing st with
  | nil => simp [tagChanges]
  | cons e es ih =>
    rw [List.foldl_cons, ih, decodeStep_curPacket, decodeStep_continuePack, tagChanges]
    split <;> push_cast <;> omega

theorem decode_startDataAddr (es : List (BitVec 16)) (st : DecodeSt) :
    (es.foldl decodeStep st).startDataAddr = st.startDataAddr + tableBytes es := by
  induction es generalizing st with
  | nil => simp [tableBytes]
  | cons e es ih =>
    rw [List.foldl_cons, ih, decodeStep_startDataAddr]
    simp only [tableBytes, List.map_cons, List.sum_cons]
    push_cast
    omega

/-- The writes are at the indices from the one the loop starts with to the one it ends
    with. -/
theorem decode_touched_between (es : List (BitVec 16)) (st : DecodeSt) :
    ∀ i ∈ (es.foldl decodeStep st).touched,
      i ∈ st.touched ∨ (st.curPacket ≤ i ∧ i ≤ st.curPacket + tagChanges st.continuePack es) := by
  induction es generalizing st with
  | nil =>
    intro i hi
    exact Or.inl hi
  | cons e es ih =>
    intro i hi
    rw [List.foldl_cons] at hi
    have hcur := decodeStep_curPacket st e
    rcases ih _ i hi with h | ⟨h1, h2⟩
    · rw [decodeStep_touched] at h
      rcases List.mem_append.mp h with h | h
      · exact Or.inl h
      · refine Or.inr ?_
        rw [tagChanges]
        by_cases ht : st.continuePack ≠ entryTag e
        · simp only [ht, ne_eq, not_false_eq_true, if_true, List.mem_cons, List.not_mem_nil, or_false] at h ⊢
          omega
        · simp only [ht, if_false, List.mem_singleton] at h ⊢
          omega
    · refine Or.inr ?_
      rw [decodeStep_continuePack] at h2
      rw [tagChanges]
      split at hcur
      · rename_i ht
        rw [if_pos ht]
        omega
      · rename_i ht
        rw [if_neg ht]
        omega

theorem decode_touched_mono (es : List (BitVec 16)) (st : DecodeSt) {i : Int} (h : i ∈ st.touched) :
    i ∈ (es.foldl decodeStep st).touched := by
  induction es generalizing st with
  | nil => exact h
  | cons e es ih =>
    refine ih _ ?_
    rw [decodeStep_touched]
    exact List.mem_append_left _ h

/-- Each entry is added at the index of its message, the last one's last. -/
theorem decodeStep_touches (st : DecodeSt) (e : BitVec 16) :
    (decodeStep st e).curPacket ∈ (decodeStep st e).touched := by
  rw [decodeStep_touched, decodeStep_curPacket]
  split <;> simp

theorem decode_touches_last {es : List (BitVec 16)} (hne : es ≠ []) (st : DecodeSt) :
    (es.foldl decodeStep st).curPacket ∈ (es.foldl decodeStep st).touched := by
  obtain ⟨es, e, rfl⟩ := List.eq_nil_or_concat es |>.resolve_left hne
  rw [List.concat_eq_append, List.foldl_append]
  exact decodeStep_touches _ e

/-! ## Tiled messages -/

theorem Tiled.before {A : Int} {st : DecodeSt} (h : Tiled A st) {j : Int} (hj : 0 ≤ j) :
    ∀ d : Nat, j + 1 + d ≤ st.curPacket → st.recvBufferMSG j + st.recvBufferMSGSize j ≤ st.recvBufferMSG (j + 1 + d) := by
  intro d
  induction d with
  | zero =>
    intro hd
    have := h.next j hj (by omega)
    simp only [Int.natCast_zero, Int.add_zero]
    omega
  | succ d ih =>
    intro hd
    have hle := ih (by omega)
    have hn := h.next (j + 1 + d) (by omega) (by omega)
    have hs := h.size (j + 1 + d) (by omega) (by omega)
    have he : j + 1 + ((d + 1 : Nat) : Int) = j + 1 + d + 1 := by omega
    rw [he, hn]
    omega

/-- An earlier message ends before a later one starts. -/
theorem Tiled.disjoint {A : Int} {st : DecodeSt} (h : Tiled A st) {j k : Int} (hj : 0 ≤ j) (hjk : j < k)
    (hk : k ≤ st.curPacket) : st.recvBufferMSG j + st.recvBufferMSGSize j ≤ st.recvBufferMSG k := by
  obtain ⟨d, hd⟩ := Int.eq_ofNat_of_zero_le (show 0 ≤ k - (j + 1) by omega)
  have he : k = j + 1 + d := by omega
  rw [he] at hk ⊢
  exact h.before hj d hk

/-- Every message lies between `A` and `startDataAddr`. -/
theorem Tiled.inside {A : Int} {st : DecodeSt} (h : Tiled A st) {k : Int} (h0 : 0 ≤ k) (hk : k ≤ st.curPacket) :
    A ≤ st.recvBufferMSG k ∧ st.recvBufferMSG k + st.recvBufferMSGSize k ≤ st.startDataAddr := by
  have hfirst := h.first (by omega)
  have hsize0 := h.size 0 (Int.le_refl 0) (by omega)
  have hlast := h.last (by omega)
  refine ⟨?_, ?_⟩
  · rcases Int.lt_or_eq_of_le h0 with hpos | rfl
    · have := h.disjoint (Int.le_refl 0) hpos hk
      omega
    · exact hfirst
  · rcases Int.lt_or_eq_of_le hk with hlt | rfl
    · have := h.disjoint h0 hlt (Int.le_refl _)
      have := h.size st.curPacket (by omega) (Int.le_refl _)
      omega
    · omega

/-! ## Safety of the decoder -/

variable (srv : Server)

/-- `processMessageBuffer`, started in `s`, has read a frame that carries messages and
    passed its size, packNo and CRC; in `s2` it goes to `_processMessagePacket`. -/
structure Handed (s s2 : Conn) : Prop where
  read : ∃ n, DataRead srv s s2 n ∧ IsIntact n s2.client.recvBuffer
  fresh : IsFresh srv s2.client
  type : msgType s2.client.recvBuffer &&& StSockMsg.packdatasize ≠ 0

/-- The decoder stays inside its arrays and inside the frame it was given. -/
structure DecodedSafely (c : Client) : Prop where
  index : ∀ i ∈ (decodeTable c).touched, 0 ≤ i ∧ i < clientDefaultMaxBlock
  table : ∀ i : Nat, i < numData c.recvBuffer → (packDataLen + 2 * i + 2 : Int) ≤ dataSizeLen + msgSize c.recvBuffer
  range : ∀ k, 0 ≤ k → k < (processMessagePacket c).recvCount →
    dataSizeLen ≤ (processMessagePacket c).recvBufferMSG k ∧ 0 ≤ (processMessagePacket c).recvBufferMSGSize k ∧
      (processMessagePacket c).recvBufferMSG k + (processMessagePacket c).recvBufferMSGSize k ≤
        dataSizeLen + msgSize c.recvBuffer
  consecutive : ∀ k, 0 ≤ k → k + 1 < (processMessagePacket c).recvCount →
    (processMessagePacket c).recvBufferMSG (k + 1) =
      (processMessagePacket c).recvBufferMSG k + (processMessagePacket c).recvBufferMSGSize k
  disjoint : ∀ j k, 0 ≤ j → j < k → k < (processMessagePacket c).recvCount →
    (processMessagePacket c).recvBufferMSG j + (processMessagePacket c).recvBufferMSGSize j ≤
      (processMessagePacket c).recvBufferMSG k

/-- No table, or one whose first tag is not 1, whose tags open at most 64 messages, and
    which with its blocks ends inside the frame. -/
def TableFits (b : Buf) : Prop :=
  numData b ≤ 0 ∨
    (entryTag (b.u16 packDataLen) ≠ 1 ∧ tagChanges 1 (sizeTable b (numData b).toNat) ≤ clientDefaultMaxBlock ∧
      packDataLen + 2 * numData b + tableBytes (sizeTable b (numData b).toNat) ≤ dataSizeLen + msgSize b)

instance (b : Buf) : Decidable (TableFits b) := by unfold TableFits; infer_instance

theorem decodeStart_tiled (c : Client) : Tiled (packDataLen + 2 * numData c.recvBuffer) (decodeStart c) := by
  refine ⟨Int.le_refl _, Int.le_refl _, fun h => ?_, fun k h0 hk => ?_, fun k h0 hk => ?_, fun h => ?_⟩
  · have h' : (0 : Int) ≤ -1 := h
    omega
  · have hk' : k ≤ -1 := hk
    omega
  · have hk' : k < -1 := hk
    omega
  · have h' : (0 : Int) ≤ -1 := h
    omega

/-- A table that is there, taken apart at its first entry. -/
theorem sizeTable_cons {b : Buf} (h : 0 < numData b) :
    ∃ es, sizeTable b (numData b).toNat = b.u16 packDataLen :: es := by
  obtain ⟨m, hm⟩ : ∃ m, (numData b).toNat = m + 1 := ⟨(numData b).toNat - 1, by omega⟩
  rw [hm]
  exact ⟨_, by simp only [sizeTable, List.range_succ_eq_map, List.map_cons]; rfl⟩

theorem decodeTable_tiled (c : Client) : Tiled (packDataLen + 2 * numData c.recvBuffer) (decodeTable c) :=
  decode_tiled (decodeStart_tiled c) _

/-- With no table, or a negative count, nothing is decoded. -/
theorem processMessagePacket_none {c : Client} (hr : c.recvCount = 0) (h : numData c.recvBuffer ≤ 0) :
    (processMessagePacket c).recvCount = 0 ∧ (decodeTable c).touched = [] := by
  have htab : sizeTable c.recvBuffer (numData c.recvBuffer).toNat = [] := by
    rw [Int.toNat_of_nonpos h]
    rfl
  unfold processMessagePacket decodeTable
  rw [htab]
  split
  · exact ⟨hr, rfl⟩
  · exact ⟨rfl, rfl⟩

theorem processMessagePacket_some {c : Client} (h : 0 < numData c.recvBuffer) :
    (processMessagePacket c).recvBufferMSG = (decodeTable c).recvBufferMSG ∧
      (processMessagePacket c).recvBufferMSGSize = (decodeTable c).recvBufferMSGSize ∧
      (processMessagePacket c).recvCount = (decodeTable c).curPacket + 1 := by
  unfold processMessagePacket
  rw [if_neg (by omega)]
  exact ⟨rfl, rfl, rfl⟩

theorem decodeTable_curPacket (c : Client) : (decodeTable c).curPacket =
    -1 + tagChanges 1 (sizeTable c.recvBuffer (numData c.recvBuffer).toNat) := decode_curPacket _ _

theorem decodeTable_startDataAddr (c : Client) : (decodeTable c).startDataAddr = packDataLen + 2 * numData c.recvBuffer +
    tableBytes (sizeTable c.recvBuffer (numData c.recvBuffer).toNat) := decode_startDataAddr _ _

/-- When the first tag is not 1 the first entry opens message 0, and no write is at -1. -/
theorem decodeTable_touched {c : Client} (hn : 0 < numData c.recvBuffer) (htag : entryTag (c.recvBuffer.u16 packDataLen) ≠ 1) :
    ∀ i ∈ (decodeTable c).touched, 0 ≤ i ∧ i ≤ (decodeTable c).curPacket := by
  intro i hi
  obtain ⟨es, hes⟩ := sizeTable_cons hn
  have hne : (decodeStart c).continuePack ≠ entryTag (c.recvBuffer.u16 packDataLen) := fun he => htag he.symm
  have hfirst : (decodeStep (decodeStart c) (c.recvBuffer.u16 packDataLen)).curPacket = 0 := by
    rw [decodeStep_curPacket, if_pos hne]
    rfl
  have htouch : (decodeStep (decodeStart c) (c.recvBuffer.u16 packDataLen)).touched = [0, 0] := by
    rw [decodeStep_touched, if_pos hne]
    rfl
  unfold decodeTable at hi ⊢
  rw [hes, List.foldl_cons] at hi ⊢
  rw [decode_curPacket, hfirst]
  rcases decode_touched_between _ _ i hi with h | ⟨h1, h2⟩
  · rw [htouch] at h
    have : i = 0 := by simpa using h
    omega
  · rw [hfirst] at h1 h2
    omega

/-- With tag 1 in front the first entry is added at -1. -/
theorem decodeTable_touched_neg {c : Client} (hn : 0 < numData c.recvBuffer)
    (htag : entryTag (c.recvBuffer.u16 packDataLen) = 1) : -1 ∈ (decodeTable c).touched := by
  obtain ⟨es, hes⟩ := sizeTable_cons hn
  unfold decodeTable
  rw [hes]
  refine decode_touched_mono es _ ?_
  rw [decodeStep_touched, if_neg (fun hne => hne htag.symm)]
  exact List.mem_singleton.mpr rfl

theorem safely_of_none {c : Client} (hr : c.recvCount = 0) (h : numData c.recvBuffer ≤ 0) : DecodedSafely c := by
  obtain ⟨hcount, htouched⟩ := processMessagePacket_none hr h
  refine ⟨fun i hi => ?_, fun i hi => ?_, fun k h0 hk => ?_, fun k h0 hk => ?_, fun j k h0 hjk hk => ?_⟩
  · rw [htouched] at hi
    cases hi
  all_goals omega

theorem safely_of_fits {c : Client} (hr : c.recvCount = 0) (h : TableFits c.recvBuffer) : DecodedSafely c := by
  by_cases hn : numData c.recvBuffer ≤ 0
  · exact safely_of_none hr hn
  obtain ⟨htag, hch, hend⟩ := h.resolve_left hn
  obtain ⟨hmsg, hsize, hcount⟩ := processMessagePacket_some (show 0 < numData c.recvBuffer by omega)
  have ht := decodeTable_tiled c
  have hcur := decodeTable_curPacket c
  have haddr := decodeTable_startDataAddr c
  have h16 : packDataLen = 16 := rfl
  have h12 : dataSizeLen = 12 := rfl
  refine ⟨fun i hi => ?_, fun i hi => ?_, fun k h0 hk => ?_, fun k h0 hk => ?_, fun j k h0 hjk hk => ?_⟩
  · have := decodeTable_touched (by omega) htag i hi
    omega
  · omega
  · rw [hcount] at hk
    obtain ⟨h1, h2⟩ := ht.inside h0 (by omega)
    rw [hmsg, hsize]
    exact ⟨by omega, ht.size k h0 (by omega), by omega⟩
  · rw [hcount] at hk
    rw [hmsg, hsize]
    exact ht.next k h0 (by omega)
  · rw [hcount] at hk
    rw [hmsg, hsize]
    exact ht.disjoint h0 hjk (by omega)

theorem fits_of_safely {c : Client} (h : DecodedSafely c) : TableFits c.recvBuffer := by
  by_cases hn : numData c.recvBuffer ≤ 0
  · exact Or.inl hn
  have hpos : 0 < numData c.recvBuffer := by omega
  obtain ⟨hmsg, hsize, hcount⟩ := processMessagePacket_some hpos
  have hcur := decodeTable_curPacket c
  have haddr := decodeTable_startDataAddr c
  obtain ⟨es, hes⟩ := sizeTable_cons hpos
  have hlast : (decodeTable c).curPacket ∈ (decodeTable c).touched := by
    unfold decodeTable
    rw [hes]
    exact decode_touches_last (List.cons_ne_nil _ _) _
  obtain ⟨hl0, hl64⟩ := h.index _ hlast
  refine Or.inr ⟨fun htag => ?_, by omega, ?_⟩
  · exact absurd (h.index _ (decodeTable_touched_neg hpos htag)).1 (by decide)
  · have hr := (h.range _ hl0 (by omega)).2.2
    rw [hmsg, hsize, (decodeTable_tiled c).last hl0] at hr
    omega

variable {srv}

theorem readFrom_recvCount {off count n : Nat} {s s' : Conn} (h : readFrom off count s = some (n, s')) :
    s'.client.recvCount = s.client.recvCount := by
  obtain ⟨got, rs, -, -, rfl⟩ := readFrom_blocking h
  rfl

/-- A frame on its way to the decoder finds no messages there. -/
theorem DataRead.recvCount {s s2 : Conn} {n : Nat} (h : DataRead srv s s2 n) : s2.client.recvCount = 0 := by
  obtain ⟨s1, hh, -, hr⟩ := h.read
  rw [readFrom_recvCount hr, readFrom_recvCount hh]
  rfl

/-- **The decoder is safe on a frame exactly when its table fits it**: nothing before the
    decoder has checked that. -/
theorem decode_safe_iff {s s2 : Conn} (h : Handed srv s s2) :
    DecodedSafely s2.client ↔ TableFits s2.client.recvBuffer := by
  obtain ⟨n, hd, -⟩ := h.read
  exact ⟨fits_of_safely, safely_of_fits hd.recvCount⟩

/-- One table entry, of length 0 and tag 0: nothing is amiss. -/
theorem decode_safe_iff_tagZero : ∃ s2, Handed defaultServer
    (newConn [1, 0, 0, 0, 1, 0, 0, 0, 6, 0, 0, 0, 0, 0, 1, 0, 0, 0] [some 12, some 6] []) s2 ∧
    (DecodedSafely s2.client ↔ TableFits s2.client.recvBuffer) := by
  obtain ⟨s2, h⟩ : ∃ s2, Handed defaultServer
      (newConn [1, 0, 0, 0, 1, 0, 0, 0, 6, 0, 0, 0, 0, 0, 1, 0, 0, 0] [some 12, some 6] []) s2 := by
    refine ⟨_, ⟨⟨6, ⟨⟨_, rfl, ⟨⟨⟨?_, ?_, ?_⟩, ?_, ?_⟩, ?_, ?_, ?_⟩, rfl⟩⟩, ?_, ?_⟩, ⟨?_, ?_⟩, ?_⟩⟩
    all_goals decide +kernel
  exact ⟨s2, h, decode_safe_iff h⟩

/-- **One table entry whose tag is 1.** The frame is as a client can send it, its CRC is
    right, and the decoder writes before both of its arrays. -/
theorem decode_unsafe : ∃ s2, Handed defaultServer
    (newConn [1, 0, 0, 0, 1, 0, 0, 0, 6, 0, 0, 0, 0x0e, 0xc0, 1, 0, 0, 8] [some 12, some 6] []) s2 ∧
    -1 ∈ (decodeTable s2.client).touched ∧ ¬ DecodedSafely s2.client := by
  obtain ⟨s2, h, hneg⟩ : ∃ s2, Handed defaultServer
      (newConn [1, 0, 0, 0, 1, 0, 0, 0, 6, 0, 0, 0, 0x0e, 0xc0, 1, 0, 0, 8] [some 12, some 6] []) s2 ∧
      -1 ∈ (decodeTable s2.client).touched := by
    refine ⟨_, ⟨⟨6, ⟨⟨_, rfl, ⟨⟨⟨?_, ?_, ?_⟩, ?_, ?_⟩, ?_, ?_, ?_⟩, rfl⟩⟩, ?_, ?_⟩, ⟨?_, ?_⟩, ?_⟩, ?_⟩
    all_goals decide +kernel
  exact ⟨s2, h, hneg, fun hs => absurd (hs.index (-1) hneg).1 (by decide)⟩

end StarServer.Socket
