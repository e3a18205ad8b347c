/-
  StarServer.Socket.DeadPeer — calls on a socket whose results are -1 from some point on.

  `ReadFrom` and `WriteTo` take -1 for "try again", whatever the error. So what they do on a
  sequence of results that ends in -1 for ever is decided by the results before it.

  Proved:
    * `readLoop_returns_iff`, `sendLoop_returns_iff`: the results of `recv` and `send` that
      end the loops: all the bytes, or a 0;
    * `dead_peer_iff`: for all such sequences, whether the two functions return; and whether
      the code around them (the header, a data message's payload, `EndPackSendData`) comes back
      with what it wanted or with the client offline;
    * `dead_peer_traps`: a peer that is gone from the start; no number of steps is enough.
-/

import StarServer.Runs.Prefixes
import StarServer.Socket.AtMostOnce
import StarServer.Socket.BlockingRead

namespace StarServer.Socket

open StarServer.Memory StarServer.Runs

/-! ## Results -/

/-- What results of `recv` bring, while there is more in the stream. -/
def recvBytes (rs : List (Option Nat)) : Nat := (rs.map fun r => match r with | none => 0 | some k => max k 1).sum

/-- A `recv` comes back after all `n` bytes of the stream: it returns 0. -/
def PastEnd : List (Option Nat) → Nat → Prop
  | [], _ => False
  | none :: rs, n => PastEnd rs n
  | some k :: rs, n => n = 0 ∨ PastEnd rs (n - max k 1)

/-- What results of `send` take. -/
def sendBytes (rs : List (Option Nat)) : Nat := (rs.map fun r => r.getD 0).sum

/-- A `send` returns 0 while some of the `n` bytes are missing. -/
def ZeroSend : List (Option Nat) → Nat → Prop
  | [], _ => False
  | none :: rs, n => ZeroSend rs n
  | some k :: rs, n => 0 < n ∧ (k = 0 ∨ ZeroSend rs (n - k))

/-- `count` bytes of the `n` in the stream arrive, or its end does. -/
def ReadEnds (count n : Nat) (rs : List (Option Nat)) : Prop := (count ≤ n ∧ count ≤ recvBytes rs) ∨ PastEnd rs n

/-- `count` bytes are taken, or a `send` returns 0 before. -/
def SendEnds (count : Nat) (rs : List (Option Nat)) : Prop := count ≤ sendBytes rs ∨ ZeroSend rs count

theorem recvBytes_append (rs ts : List (Option Nat)) : recvBytes (rs ++ ts) = recvBytes rs + recvBytes ts := by simp [recvBytes]

theorem sendBytes_append (rs ts : List (Option Nat)) : sendBytes (rs ++ ts) = sendBytes rs + sendBytes ts := by simp [sendBytes]

theorem recvBytes_errors (n : Nat) : recvBytes (List.replicate n none) = 0 := by simp [recvBytes]

theorem sendBytes_errors (n : Nat) : sendBytes (List.replicate n none) = 0 := by simp [sendBytes]

theorem pastEnd_append {rs : List (Option Nat)} (ts : List (Option Nat)) {n : Nat} (h : PastEnd rs n) : PastEnd (rs ++ ts) n := by
  induction rs generalizing n with
  | nil => exact absurd h id
  | cons r rs ih =>
    cases r with
    | none => exact ih h
    | some k => exact h.imp_right ih

theorem pastEnd_errors {rs : List (Option Nat)} {k n : Nat} (h : PastEnd (rs ++ List.replicate k none) n) : PastEnd rs n := by
  induction rs generalizing n with
  | nil =>
    induction k with
    | zero => exact h
    | succ k ih => exact ih h
  | cons r rs ih =>
    cases r with
    | none => exact ih h
    | some k => exact h.imp_right ih

theorem zeroSend_append {rs : List (Option Nat)} (ts : List (Option Nat)) {n : Nat} (h : ZeroSend rs n) : ZeroSend (rs ++ ts) n := by
  induction rs generalizing n with
  | nil => exact absurd h id
  | cons r rs ih =>
    cases r with
    | none => exact ih h
    | some k => exact ⟨h.1, h.2.imp_right ih⟩

theorem zeroSend_errors {rs : List (Option Nat)} {k n : Nat} (h : ZeroSend (rs ++ List.replicate k none) n) : ZeroSend rs n := by
  induction rs generalizing n with
  | nil =>
    induction k with
    | zero => exact h
    | succ k ih => exact ih h
  | cons r rs ih =>
    cases r with
    | none => exact ih h
    | some k => exact ⟨h.1, h.2.imp_right ih⟩

/-- The end comes behind the whole stream. -/
theorem PastEnd.le {rs : List (Option Nat)} {n : Nat} (h : PastEnd rs n) : n ≤ recvBytes rs := by
  induction rs generalizing n with
  | nil => exact absurd h id
  | cons r rs ih =>
    cases r with
    | none =>
      have := ih h
      simpa [recvBytes] using this
    | some k =>
      have hcons : recvBytes (some k :: rs) = max k 1 + recvBytes rs := by simp [recvBytes]
      rcases h with rfl | h
      · omega
      · have := ih h
        omega

/-! ## The two loops -/

theorem recvBytes_cons (k : Nat) (rs : List (Option Nat)) : recvBytes (some k :: rs) = max k 1 + recvBytes rs := by simp [recvBytes]

/-- A `recv` that brings a piece leaves as much to come as the piece is long. -/
theorem readEnds_piece {count n k : Nat} {rs : List (Option Nat)} (hcount : 0 < count) (hn : 0 < n) :
    ReadEnds (count - min (min (max k 1) count) n) (n - min (min (max k 1) count) n) rs ↔ ReadEnds count n (some k :: rs) := by
  simp only [ReadEnds, PastEnd, recvBytes_cons]
  -- the piece is all that was sent, all that was asked for, or all that was left
  by_cases hwhole : max k 1 ≤ count ∧ max k 1 ≤ n
  · have hmin : min (min (max k 1) count) n = max k 1 := by omega
    rw [hmin]
    constructor
    · rintro (⟨h1, h2⟩ | h)
      · exact Or.inl ⟨by omega, by omega⟩
      · exact Or.inr (Or.inr h)
    · rintro (⟨h1, h2⟩ | h0 | h)
      · exact Or.inl ⟨by omega, by omega⟩
      · omega
      · exact Or.inr h
  · by_cases hasked : count ≤ n
    · have hmin : min (min (max k 1) count) n = count := by omega
      rw [hmin]
      exact iff_of_true (Or.inl ⟨by omega, by omega⟩) (Or.inl ⟨by omega, by omega⟩)
    · have hmin : min (min (max k 1) count) n = n := by omega
      have hdrop : n - max k 1 = n - n := by omega
      rw [hmin, hdrop]
      constructor
      · rintro (⟨h1, h2⟩ | h)
        · omega
        · exact Or.inr (Or.inr h)
      · rintro (⟨h1, h2⟩ | h0 | h)
        · omega
        · omega
        · exact Or.inr h

theorem readLoop_returns_iff {count : Nat} {rs : List (Option Nat)} {got inp : List Byte} (hgot : got.length ≤ count) :
    (readLoop count rs got inp).isSome = true ↔ ReadEnds (count - got.length) inp.length rs := by
  induction rs generalizing got inp with
  | nil =>
    unfold ReadEnds recvBytes PastEnd
    by_cases hlt : got.length < count
    · simp only [readLoop, hlt, if_true, Option.isSome_none, Bool.false_eq_true, List.map_nil, List.sum_nil, or_false, false_iff]
      omega
    · rw [readLoop_done hlt]
      simp only [Option.isSome_some, List.map_nil, List.sum_nil, or_false, true_iff]
      omega
  | cons r rs ih =>
    by_cases hlt : got.length < count
    · rw [readLoop_cons hlt]
      cases r with
      | none =>
        have hsame : ReadEnds (count - got.length) inp.length (none :: rs) ↔ ReadEnds (count - got.length) inp.length rs := by
          simp [ReadEnds, recvBytes, PastEnd]
        rw [hsame]
        exact ih hgot
      | some k =>
        have hpiece : (recvTake k (count - got.length) inp).length = min (min (max k 1) (count - got.length)) inp.length :=
          List.length_take
        by_cases hnil : recvTake k (count - got.length) inp = []
        · have hend : inp.length = 0 := by
            rw [recvTake_nil (by omega) hnil]
            rfl
          simp only [hnil, if_true]
          exact iff_of_true rfl (Or.inr (Or.inl hend))
        · have hpos : 0 < inp.length := by
            have := List.length_pos_iff.mpr hnil
            omega
          have hrest := @ih (got ++ recvTake k (count - got.length) inp)
            (inp.drop (recvTake k (count - got.length) inp).length) (by rw [List.length_append]; omega)
          simp only [hnil, if_false]
          rw [hrest, List.length_append, List.length_drop, hpiece, ← Nat.sub_sub]
          exact readEnds_piece (by omega) hpos
    · rw [readLoop_done hlt]
      exact iff_of_true rfl (Or.inl ⟨by omega, by omega⟩)

theorem sendBytes_cons (k : Nat) (rs : List (Option Nat)) : sendBytes (some k :: rs) = k + sendBytes rs := by simp [sendBytes]

theorem sendLoop_done {count sent : Nat} {rs : List (Option Nat)} (h : ¬sent < count) :
    sendLoop count rs sent = some (sent, sent, rs) := by
  cases rs with
  | nil => simp only [sendLoop, h, if_false]
  | cons r rs => simp only [sendLoop, h, if_false]

theorem sendLoop_cons {count sent : Nat} {r : Option Nat} {rs : List (Option Nat)} (h : sent < count) :
    sendLoop count (r :: rs) sent = match r with
      | none => sendLoop count rs sent
      | some k => if k = 0 then some (0, sent, rs) else sendLoop count rs (sent + min k (count - sent)) := by
  cases r with
  | none => simp only [sendLoop, h, if_true]
  | some k => simp only [sendLoop, h, if_true]

theorem sendLoop_returns_iff {count sent : Nat} {rs : List (Option Nat)} (hsent : sent ≤ count) :
    (sendLoop count rs sent).isSome = true ↔ SendEnds (count - sent) rs := by
  induction rs generalizing sent with
  | nil =>
    unfold SendEnds sendBytes ZeroSend
    by_cases hlt : sent < count
    · simp only [sendLoop, hlt, if_true, Option.isSome_none, Bool.false_eq_true, List.map_nil, List.sum_nil, or_false, false_iff]
      omega
    · rw [sendLoop_done hlt]
      simp only [Option.isSome_some, List.map_nil, List.sum_nil, or_false, true_iff]
      omega
  | cons r rs ih =>
    by_cases hlt : sent < count
    · rw [sendLoop_cons hlt]
      cases r with
      | none =>
        have hsame : SendEnds (count - sent) (none :: rs) ↔ SendEnds (count - sent) rs := by simp [SendEnds, sendBytes, ZeroSend]
        rw [hsame]
        exact ih hsent
      | some k =>
        by_cases h0 : k = 0
        · simp only [h0, if_true]
          exact iff_of_true rfl (Or.inr ⟨by omega, Or.inl rfl⟩)
        · have hrest := @ih (sent + min k (count - sent)) (by omega)
          simp only [h0, if_false, hrest]
          simp only [SendEnds, ZeroSend, sendBytes_cons, h0, false_or]
          by_cases hall : k ≤ count - sent
          · have hmin : count - (sent + min k (count - sent)) = count - sent - k := by omega
            rw [hmin]
            constructor
            · rintro (h | h)
              · exact Or.inl (by omega)
              · exact Or.inr ⟨by omega, h⟩
            · rintro (h | ⟨-, h⟩)
              · exact Or.inl (by omega)
              · exact Or.inr h
          · exact iff_of_true (Or.inl (by omega)) (Or.inl (by omega))
    · rw [sendLoop_done hlt]
      exact iff_of_true rfl (Or.inl (by omega))

/-- The loop gives up exactly on a 0. -/
theorem sendLoop_zero_iff {count sent : Nat} {rs : List (Option Nat)} (hcount : 0 < count) (hsent : sent ≤ count) :
    (∃ sent' rs', sendLoop count rs sent = some (0, sent', rs')) ↔ ZeroSend rs (count - sent) := by
  induction rs generalizing sent with
  | nil =>
    refine iff_of_false ?_ id
    rintro ⟨sent', rs', h⟩
    by_cases hlt : sent < count
    · simp only [sendLoop, hlt, if_true] at h
      cases h
    · rw [sendLoop_done hlt] at h
      cases h
      omega
  | cons r rs ih =>
    by_cases hlt : sent < count
    · rw [sendLoop_cons hlt]
      cases r with
      | none => exact ih hsent
      | some k =>
        simp only [ZeroSend]
        by_cases h0 : k = 0
        · simp only [h0, if_true]
          exact iff_of_true ⟨_, _, rfl⟩ ⟨by omega, Or.inl trivial⟩
        · simp only [h0, if_false, false_or]
          rw [ih (by omega)]
          by_cases hall : k ≤ count - sent
          · have hmin : count - (sent + min k (count - sent)) = count - sent - k := by omega
            rw [hmin]
            exact ⟨fun h => ⟨by omega, h⟩, fun h => h.2⟩
          · have hmin : count - (sent + min k (count - sent)) = 0 := by omega
            have hless : count - sent - k = 0 := by omega
            rw [hmin, hless]
            exact ⟨fun h => ⟨by omega, h⟩, fun h => h.2⟩
    · rw [sendLoop_done hlt]
      have hzero : count - sent = 0 := by omega
      refine iff_of_false ?_ ?_
      · rintro ⟨sent', rs', h⟩
        cases h
        omega
      · rw [hzero]
        cases r with
        | none =>
          intro h
          have hrest := (@ih sent hsent).mpr (by rw [hzero]; exact h)
          rw [sendLoop_done hlt] at hrest
          obtain ⟨sent', rs', hs⟩ := hrest
          cases hs
          omega
        | some k => exact fun h => absurd h.1 (by decide)

theorem writeTo_sendLoop {srv : Server} (htcp : srv.nProtocol = .tcp) (msg : Buf) (count : Nat) (k : Sock) :
    writeTo srv msg count k = (sendLoop count k.sends 0).map fun r =>
      (r.1, { k with sends := r.2.2, out := k.out ++ [⟨msg, count, r.2.1⟩] }) := by
  unfold writeTo
  rw [htcp]
  simp only
  cases sendLoop count k.sends 0 with
  | none => rfl
  | some r => rfl

/-! ## Sequences of results -/

theorem readEnds_before {count n N : Nat} {σ : Nat → Option Nat} (h : ConstFrom σ none N) :
    (∃ i, ReadEnds count n (before σ i)) ↔ ReadEnds count n (before σ N) := by
  refine exists_before_iff (fun l r hl => ?_) (fun l k hl => ?_) h
  · rcases hl with ⟨h1, h2⟩ | hl
    · exact Or.inl ⟨h1, by rw [recvBytes_append]; omega⟩
    · exact Or.inr (pastEnd_append r hl)
  · rcases hl with ⟨h1, h2⟩ | hl
    · rw [recvBytes_append, recvBytes_errors] at h2
      exact Or.inl ⟨h1, h2⟩
    · exact Or.inr (pastEnd_errors hl)

theorem zeroSend_before {n N : Nat} {σ : Nat → Option Nat} (h : ConstFrom σ none N) :
    (∃ i, ZeroSend (before σ i) n) ↔ ZeroSend (before σ N) n :=
  exists_before_iff (P := fun l => ZeroSend l n) (fun _ r hl => zeroSend_append r hl) (fun _ _ hl => zeroSend_errors hl) h

theorem sendEnds_before {count N : Nat} {σ : Nat → Option Nat} (h : ConstFrom σ none N) :
    (∃ i, SendEnds count (before σ i)) ↔ SendEnds count (before σ N) := by
  refine exists_before_iff (fun l r hl => ?_) (fun l k hl => ?_) h
  · rcases hl with hl | hl
    · exact Or.inl (by rw [sendBytes_append]; omega)
    · exact Or.inr (zeroSend_append r hl)
  · rcases hl with hl | hl
    · rw [sendBytes_append, sendBytes_errors] at hl
      exact Or.inl hl
    · exact Or.inr (zeroSend_errors hl)

/-! ## The calling code -/

/-- A slot whose next `recv`s and `send`s give these results. -/
def withResults (s : Conn) (rs ts : List (Option Nat)) : Conn := { s with sock := { s.sock with recvs := rs, sends := ts } }

/-- `ReadFrom` in blocking mode comes back after finitely many results. -/
def ReadReturns (off count : Nat) (s : Conn) (σ : Nat → Option Nat) : Prop :=
  ∃ n, (readFrom off count (withResults s (before σ n) [])).isSome = true

def WriteReturns (srv : Server) (msg : Buf) (count : Nat) (k : Sock) (τ : Nat → Option Nat) : Prop :=
  ∃ n, (writeTo srv msg count { k with sends := before τ n }).isSome = true

/-- The header comes, or `processMessageBuffer` returns with the client offline. -/
def HeaderLeft (srv : Server) (env : Env) (s : Conn) (σ : Nat → Option Nat) : Prop :=
  ∃ n ret s1, readFrom 0 dataSizeLen (startMessage (withResults s (before σ n) [])) = some (ret, s1) ∧
    (ret = dataSizeLen ∨ ∃ s2, processMessageBuffer srv env (withResults s (before σ n) []) = some (-1, s2) ∧
      s2.client.online = false)

/-- A data message's payload comes, or its case returns with the client offline. -/
def PayloadLeft (srv : Server) (env : Env) (s : Conn) (σ τ : Nat → Option Nat) : Prop :=
  ∃ n m ret s1, readFrom dataSizeLen (msgSize s.client.recvBuffer).toNat (withResults s (before σ n) (before τ m)) = some (ret, s1) ∧
    ((ret : Int) = msgSize s.client.recvBuffer ∨
      ∃ s2, processDefault srv env (withResults s (before σ n) (before τ m)) = some (-1, s2) ∧ s2.client.online = false)

/-- `EndPackSendData` returns, and so `m_Mutex` is free again: the whole message is sent, or
    the client is offline. -/
def AnswerLeft (srv : Server) (env : Env) (s : Conn) (τ : Nat → Option Nat) : Prop :=
  ∃ n s1, endPackSendData srv env (withResults s [] (before τ n)) = some s1 ∧
    ∃ w, s1.sock.out = s.sock.out ++ [w] ∧ (w.sent = w.count ∨ s1.client.online = false)

/-- The length of what `EndPackSendData` writes: the frame, or a CONFIRM. -/
def answerSize (env : Env) (s : Conn) : Nat :=
  if s.client.sendCount > 0 ∨ s.client.fileDataSending = true then (packFrame env s.fs s.client).sendDataSize else dataSizeLen

/-- The payload comes; or the stream ends inside it, and the answer to that finds the peer
    gone too. -/
def PayloadEnds (srv : Server) (s : Conn) (rs ts : List (Option Nat)) : Prop :=
  let size := (msgSize s.client.recvBuffer).toNat
  (size ≤ s.sock.inp.length ∧ size ≤ recvBytes rs) ∨
    (s.sock.inp.length < size ∧ PastEnd rs s.sock.inp.length ∧ s.client.packRef < msgPackNo s.client.recvBuffer ∧
      (sessionOver srv s.client ∨ ZeroSend ts dataSizeLen))

variable {srv : Server} {env : Env}

theorem readFrom_returns_iff {off count : Nat} {s : Conn} :
    (readFrom off count s).isSome = true ↔ ReadEnds count s.sock.inp.length s.sock.recvs := by
  rw [show count = count - ([] : List Byte).length from rfl, ← readLoop_returns_iff (Nat.zero_le _)]
  unfold readFrom
  rw [List.length_nil, Nat.sub_zero]
  cases readLoop count s.sock.recvs [] s.sock.inp with
  | none => exact Iff.rfl
  | some r => exact Iff.rfl

theorem writeTo_returns_iff (htcp : srv.nProtocol = .tcp) {msg : Buf} {count : Nat} {k : Sock} :
    (writeTo srv msg count k).isSome = true ↔ SendEnds count k.sends := by
  rw [writeTo_sendLoop htcp, Option.isSome_map, sendLoop_returns_iff (Nat.zero_le _), Nat.sub_zero]

/-- `WriteTo` gives 0 for a message that is not empty exactly on a `send` of 0. -/
theorem writeTo_zero_iff (htcp : srv.nProtocol = .tcp) {msg : Buf} {count : Nat} (hcount : 0 < count) {k : Sock} :
    (∃ k', writeTo srv msg count k = some (0, k')) ↔ ZeroSend k.sends count := by
  have hzero := @sendLoop_zero_iff count 0 k.sends hcount (Nat.zero_le _)
  rw [Nat.sub_zero] at hzero
  rw [← hzero, writeTo_sendLoop htcp]
  constructor
  · rintro ⟨k', h⟩
    obtain ⟨⟨ret, sent, rs⟩, hloop, hr⟩ := Option.map_eq_some_iff.mp h
    cases hr
    exact ⟨sent, rs, hloop⟩
  · rintro ⟨sent, rs, hloop⟩
    rw [hloop]
    exact ⟨_, rfl⟩

/-- A RETRANSMIT puts the client offline exactly on a `send` of 0. -/
theorem sendReTrasmit_offline_iff (htcp : srv.nProtocol = .tcp) {s : Conn} (honline : s.client.online = true) {packNo : BitVec 32} :
    (∃ s', sendReTrasmit srv s packNo = some s' ∧ s'.client.online = false) ↔ ZeroSend s.sock.sends dataSizeLen := by
  have hzero := @writeTo_zero_iff srv htcp (dataSizeMsg StSockMsg.retrasmit stsockidServer packNo 0) dataSizeLen (by decide) s.sock
  rw [← hzero]
  unfold sendReTrasmit sendDataSizeMsg
  constructor
  · rintro ⟨s', h, hoff⟩
    split at h
    · cases h
    · rename_i ret k' hw
      cases h
      have hret : ret = 0 := by simpa [honline] using hoff
      subst hret
      exact ⟨k', hw⟩
  · rintro ⟨k', hw⟩
    rw [hw]
    exact ⟨_, rfl, by simp⟩

/-- A payload cut short: the RETRANSMIT that answers it does not end the session by itself. -/
theorem processPayload_cut (htcp : srv.nProtocol = .tcp) {s : Conn} (honline : s.client.online = true)
    (hsize : 0 < msgSize s.client.recvBuffer) :
    (∃ s', processPayload srv env 0 s = some (-1, s') ∧ s'.client.online = false) ↔
      s.client.packRef < msgPackNo s.client.recvBuffer ∧ (sessionOver srv s.client ∨ ZeroSend s.sock.sends dataSizeLen) := by
  unfold processPayload
  simp only
  by_cases hold : msgPackNo s.client.recvBuffer ≤ s.client.packRef
  · rw [if_pos hold]
    refine iff_of_false ?_ fun h => absurd hold (BitVec.not_le.mpr h.1)
    rintro ⟨s', h, hoff⟩
    cases h
    rw [honline] at hoff
    cases hoff
  · rw [if_neg hold]
    have hnew := BitVec.not_le.mp hold
    by_cases hover : sessionOver srv s.client
    · rw [if_pos hover]
      exact iff_of_true ⟨_, rfl, rfl⟩ ⟨hnew, Or.inl hover⟩
    · rw [if_neg hover, if_pos (by omega)]
      have hsend := @sendReTrasmit_offline_iff srv htcp s honline (msgPackNo s.client.recvBuffer)
      constructor
      · rintro ⟨s', h, hoff⟩
        obtain ⟨t, ht, he⟩ := Option.map_eq_some_iff.mp h
        cases he
        exact ⟨hnew, Or.inr (hsend.mp ⟨s', ht, hoff⟩)⟩
      · rintro ⟨-, h⟩
        obtain ⟨t, ht, hoff⟩ := hsend.mpr (h.resolve_left hover)
        rw [ht]
        exact ⟨t, rfl, hoff⟩

theorem processDefault_data {s : Conn} (h : IsData srv s.client.recvBuffer) :
    processDefault srv env s = match readFrom dataSizeLen (msgSize s.client.recvBuffer).toNat s with
      | none => none
      | some (readSize, s) => processPayload srv env readSize s := by
  have hid : ¬ (msgFromID s.client.recvBuffer < 0 ∨ msgFromID s.client.recvBuffer ≥ srv.nMaxConnection) := by
    have h1 := h.fromID
    have h2 := h.fromIDLt
    omega
  have hsize : ¬ (msgSize s.client.recvBuffer < 0 ∨ msgSize s.client.recvBuffer > stsvMaxBuffer) := by
    have h1 := h.size
    have h2 := h.sizeLe
    omega
  unfold processDefault
  exact (if_neg hid).trans ((if_neg h.type).trans (if_neg hsize))

/-- The same in `processMessageBuffer`: the payload that is cut leaves the header, `packRef`
    and the results of `send`. -/
theorem processDefault_cut (htcp : srv.nProtocol = .tcp) {s s1 : Conn} (hdata : IsData srv s.client.recvBuffer)
    (honline : s.client.online = true) (hsize : 0 < msgSize s.client.recvBuffer) {rs ts : List (Option Nat)}
    (hread : readFrom dataSizeLen (msgSize s.client.recvBuffer).toNat (withResults s rs ts) = some (0, s1)) :
    (∃ s2, processDefault srv env (withResults s rs ts) = some (-1, s2) ∧ s2.client.online = false) ↔
      s.client.packRef < msgPackNo s.client.recvBuffer ∧ (sessionOver srv s.client ∨ ZeroSend ts dataSizeLen) := by
  have hdefault := @processDefault_data srv env (withResults s rs ts) hdata
  have hr : readFrom dataSizeLen (msgSize (withResults s rs ts).client.recvBuffer).toNat (withResults s rs ts) = some (0, s1) := hread
  rw [hr] at hdefault
  rw [hdefault]
  obtain ⟨got, left, -, -, rfl⟩ := readFrom_blocking hread
  obtain ⟨htype, -, hno, hsz⟩ := header_store s.client.recvBuffer got
  have hpayload := @processPayload_cut srv env htcp
    { withResults s rs ts with
      client := { s.client with recvBuffer := s.client.recvBuffer.store dataSizeLen got }
      sock := { (withResults s rs ts).sock with inp := s.sock.inp.drop got.length, recvs := left }
      trace := s.trace ++ [.recv dataSizeLen (msgSize s.client.recvBuffer).toNat] } honline (hsz ▸ hsize)
  have hover : sessionOver srv { s.client with recvBuffer := s.client.recvBuffer.store dataSizeLen got } ↔ sessionOver srv s.client := by
    simp only [sessionOver, htype]
  simp only [hno, hover] at hpayload
  exact hpayload

/-- What `EndPackSendData` writes decides whether it returns. -/
theorem endPackSendData_left (htcp : srv.nProtocol = .tcp) {s : Conn} :
    (∃ s1, endPackSendData srv env s = some s1 ∧
      ∃ w, s1.sock.out = s.sock.out ++ [w] ∧ (w.sent = w.count ∨ s1.client.online = false)) ↔
      SendEnds (answerSize env s) s.sock.sends := by
  unfold endPackSendData answerSize
  by_cases hqueued : s.client.sendCount > 0 ∨ s.client.fileDataSending = true
  · rw [if_pos hqueued, if_pos hqueued]
    simp only
    rw [← @writeTo_returns_iff srv htcp (packFrame env s.fs s.client).sendBuffer]
    cases hw : writeTo srv (packFrame env s.fs s.client).sendBuffer (packFrame env s.fs s.client).sendDataSize s.sock with
    | none =>
      refine iff_of_false ?_ Bool.false_ne_true
      rintro ⟨s1, h, -⟩
      cases h
    | some r =>
      obtain ⟨sent, rs, -, hk, hcase⟩ := writeTo_cases hw
      refine iff_of_true ⟨_, rfl, ⟨_, _, sent⟩, congrArg Sock.out hk, ?_⟩ rfl
      rcases hcase with ⟨-, h⟩ | ⟨h, -⟩
      · exact Or.inl h
      · refine Or.inr ?_
        simp [h]
  · rw [if_neg hqueued, if_neg hqueued]
    unfold sendConfirmMessage sendDataSizeMsg
    rw [← @writeTo_returns_iff srv htcp (dataSizeMsg StSockMsg.confirm stsockidServer s.client.packRef 0)]
    cases hw : writeTo srv (dataSizeMsg StSockMsg.confirm stsockidServer s.client.packRef 0) dataSizeLen s.sock with
    | none =>
      refine iff_of_false ?_ Bool.false_ne_true
      rintro ⟨s1, h, -⟩
      cases h
    | some r =>
      obtain ⟨sent, rs, -, hk, hcase⟩ := writeTo_cases hw
      refine iff_of_true ?_ rfl
      have hleft : sent = dataSizeLen ∨ (s.client.online && r.1 != 0) = false := by
        rcases hcase with ⟨-, h⟩ | ⟨h, -⟩
        · exact Or.inl h
        · exact Or.inr (by simp [h])
      by_cases hone : srv.nServerType = .oneTime
      · exact ⟨_, if_pos hone, ⟨_, _, sent⟩, congrArg Sock.out hk, hleft⟩
      · exact ⟨_, if_neg hone, ⟨_, _, sent⟩, congrArg Sock.out hk, hleft⟩

/-- Without such results it does not return at all. -/
theorem endPackSendData_trapped (htcp : srv.nProtocol = .tcp) {s : Conn} (h : ¬SendEnds (answerSize env s) s.sock.sends) :
    endPackSendData srv env s = none := by
  have hnone : ∀ msg, writeTo srv msg (answerSize env s) s.sock = none := by
    intro msg
    rw [← Option.not_isSome_iff_eq_none, writeTo_returns_iff htcp]
    exact h
  unfold answerSize at hnone
  unfold endPackSendData
  by_cases hqueued : s.client.sendCount > 0 ∨ s.client.fileDataSending = true
  · rw [if_pos hqueued] at hnone ⊢
    simp only [hnone]
  · rw [if_neg hqueued] at hnone ⊢
    simp only [sendConfirmMessage, sendDataSizeMsg, hnone]

/-! ## Results that end in -1 -/

variable {σ τ : Nat → Option Nat} {N M : Nat}

theorem readReturns_iff (hσ : ConstFrom σ none N) {off count : Nat} {s : Conn} :
    ReadReturns off count s σ ↔ ReadEnds count s.sock.inp.length (before σ N) := by
  rw [← readEnds_before hσ]
  exact exists_congr fun n => readFrom_returns_iff

theorem writeReturns_iff (htcp : srv.nProtocol = .tcp) (hτ : ConstFrom τ none M) {msg : Buf} {count : Nat} {k : Sock} :
    WriteReturns srv msg count k τ ↔ SendEnds count (before τ M) := by
  rw [← sendEnds_before hτ]
  exact exists_congr fun n => writeTo_returns_iff htcp

theorem headerLeft_iff (hσ : ConstFrom σ none N) {s : Conn} :
    HeaderLeft srv env s σ ↔ ReadEnds dataSizeLen s.sock.inp.length (before σ N) := by
  rw [← readEnds_before hσ]
  refine exists_congr fun n => ?_
  have hreturns : (readFrom 0 dataSizeLen (startMessage (withResults s (before σ n) []))).isSome = true ↔
      ReadEnds dataSizeLen s.sock.inp.length (before σ n) := readFrom_returns_iff
  rw [← hreturns]
  constructor
  · rintro ⟨ret, s1, h, -⟩
    exact congrArg Option.isSome h
  · intro h
    obtain ⟨⟨ret, s1⟩, hread⟩ := Option.isSome_iff_exists.mp h
    refine ⟨ret, s1, hread, ?_⟩
    obtain ⟨-, -, -, ⟨hret, -⟩ | ⟨hret, -⟩, -⟩ := readFrom_blocking hread
    · exact Or.inl hret
    · subst hret
      refine Or.inr ⟨offline s1, ?_, rfl⟩
      unfold processMessageBuffer
      rw [hread]
      rfl

theorem payloadLeft_iff (htcp : srv.nProtocol = .tcp) (hσ : ConstFrom σ none N) (hτ : ConstFrom τ none M) {s : Conn}
    (hdata : IsData srv s.client.recvBuffer) (honline : s.client.online = true) :
    PayloadLeft srv env s σ τ ↔ PayloadEnds srv s (before σ N) (before τ M) := by
  have hpos := hdata.size
  constructor
  · rintro ⟨n, m, ret, s1, hread, hleft⟩
    have hends := (readEnds_before hσ).mp ⟨n, readFrom_returns_iff.mp (congrArg Option.isSome hread)⟩
    obtain ⟨-, -, -, ⟨hret, hlen, -⟩ | ⟨hret, hlen, -⟩, -⟩ := readFrom_blocking hread
    · refine Or.inl ⟨hlen, ?_⟩
      rcases hends with ⟨-, h⟩ | h
      · exact h
      · exact Nat.le_trans hlen h.le
    · subst hret
      have hshort : s.sock.inp.length < (msgSize s.client.recvBuffer).toNat := hlen
      have hend : PastEnd (before σ N) s.sock.inp.length := by
        rcases hends with ⟨h, -⟩ | h
        · exact absurd hlen (Nat.not_lt.mpr h)
        · exact h
      have hoff := hleft.resolve_left (by omega)
      obtain ⟨hnew, hgone⟩ := (processDefault_cut htcp hdata honline (by omega) hread).mp hoff
      exact Or.inr ⟨hshort, hend, hnew, hgone.imp_right fun h => (zeroSend_before hτ).mp ⟨m, h⟩⟩
  · intro h
    have hends : ReadEnds (msgSize s.client.recvBuffer).toNat s.sock.inp.length (before σ N) := by
      rcases h with h | ⟨-, h, -⟩
      · exact Or.inl h
      · exact Or.inr h
    have hsome : (readFrom dataSizeLen (msgSize s.client.recvBuffer).toNat (withResults s (before σ N) (before τ M))).isSome = true :=
      readFrom_returns_iff.mpr hends
    obtain ⟨⟨ret, s1⟩, hread⟩ := Option.isSome_iff_exists.mp hsome
    refine ⟨N, M, ret, s1, hread, ?_⟩
    obtain ⟨-, -, -, ⟨hret, -⟩ | ⟨hret, hlen, -⟩, -⟩ := readFrom_blocking hread
    · exact Or.inl (by omega)
    · subst hret
      have hshort : s.sock.inp.length < (msgSize s.client.recvBuffer).toNat := hlen
      refine Or.inr ((processDefault_cut htcp hdata honline (by omega) hread).mpr ?_)
      rcases h with ⟨h, -⟩ | ⟨-, -, h⟩
      · omega
      · exact h

theorem answerLeft_iff (htcp : srv.nProtocol = .tcp) (hτ : ConstFrom τ none M) {s : Conn} :
    AnswerLeft srv env s τ ↔ SendEnds (answerSize env s) (before τ M) := by
  rw [← sendEnds_before hτ]
  exact exists_congr fun n => endPackSendData_left htcp

/-- **Who gets away from a dead peer**: for results that are -1 from some point on, exactly
    those calls whose bytes came before it, or the end of the stream (a 0) did. -/
theorem dead_peer_iff (srv : Server) (env : Env) (htcp : srv.nProtocol = .tcp) {σ τ : Nat → Option Nat} {N M : Nat}
    (hσ : ConstFrom σ none N) (hτ : ConstFrom τ none M) :
    (∀ off count s, ReadReturns off count s σ ↔ ReadEnds count s.sock.inp.length (before σ N)) ∧
    (∀ msg count k, WriteReturns srv msg count k τ ↔ SendEnds count (before τ M)) ∧
    (∀ s, HeaderLeft srv env s σ ↔ ReadEnds dataSizeLen s.sock.inp.length (before σ N)) ∧
    (∀ s, IsData srv s.client.recvBuffer → s.client.online = true →
      (PayloadLeft srv env s σ τ ↔ PayloadEnds srv s (before σ N) (before τ M))) ∧
    (∀ s, AnswerLeft srv env s τ ↔ SendEnds (answerSize env s) (before τ M)) := by
  refine ⟨?_, ?_, ?_, ?_, ?_⟩
  · intro off count s
    exact readReturns_iff hσ
  · intro msg count k
    exact writeReturns_iff htcp hτ
  · intro s
    exact headerLeft_iff hσ
  · intro s hdata honline
    exact payloadLeft_iff htcp hσ hτ hdata honline
  · intro s
    exact answerLeft_iff htcp hτ

/-- Five bytes, and then the connection is reset. -/
def resetAfterFive (i : Nat) : Option Nat := if i = 0 then some 5 else none

theorem resetAfterFive_const : ConstFrom resetAfterFive none 1 := by
  intro i hi
  exact if_neg (by omega)

/-- A slot that has read the header of a data message of four bytes. -/
def headerTaken (inp : List Byte) : Conn :=
  let s := newConn inp [] []
  { s with client := { s.client with recvBuffer := s.client.recvBuffer.store 0 [8, 0, 0, 0, 1, 0, 0, 0, 4, 0, 0, 0] } }

/-- Five bytes are enough for a payload of four, and for none of the messages of twelve. -/
theorem dead_peer_iff_five :
    ReadReturns 12 4 (newConn [1, 2, 3, 4, 5] [] []) resetAfterFive ∧
    ¬WriteReturns defaultServer (dataSizeMsg 0 0 0 0) 12 (newConn [] [] []).sock resetAfterFive ∧
    ¬HeaderLeft defaultServer quietEnv (newConn [1, 2, 3, 4, 5] [] []) resetAfterFive ∧
    PayloadLeft defaultServer quietEnv (headerTaken [1, 2, 3, 4, 5]) resetAfterFive resetAfterFive ∧
    ¬AnswerLeft defaultServer quietEnv (newConn [] [] []) resetAfterFive := by
  obtain ⟨hread, hwrite, hheader, hpayload, hanswer⟩ :=
    dead_peer_iff defaultServer quietEnv rfl resetAfterFive_const resetAfterFive_const
  refine ⟨?_, ?_, ?_, ?_, ?_⟩
  · exact (hread 12 4 _).mpr (Or.inl ⟨by decide, by decide⟩)
  · rw [hwrite]
    simp [SendEnds, before, resetAfterFive, sendBytes, ZeroSend]
  · rw [hheader]
    simp [ReadEnds, before, resetAfterFive, recvBytes, PastEnd, newConn, dataSizeLen]
  · refine (hpayload _ ?_ rfl).mpr (Or.inl ⟨by decide +kernel, by decide +kernel⟩)
    exact ⟨⟨⟨by decide +kernel, by decide +kernel, by decide +kernel⟩, by decide +kernel, by decide +kernel⟩, by decide +kernel, by decide +kernel,
      by decide +kernel⟩
  · rw [hanswer]
    have hsize : answerSize quietEnv (newConn [] [] []) = 12 := rfl
    simp [hsize, SendEnds, before, resetAfterFive, sendBytes, ZeroSend]

/-- **A peer that resets in the middle of a header**, and one that is gone when it is
    answered: after no number of results do the two calls return. -/
theorem dead_peer_traps :
    ConstFrom resetAfterFive none 1 ∧ ConstFrom (fun _ => none : Nat → Option Nat) none 0 ∧
    ¬ReadReturns 0 dataSizeLen (newConn [8, 0, 0, 0, 1] [] []) resetAfterFive ∧
    (∀ n, processMessageBuffer defaultServer quietEnv (withResults (newConn [8, 0, 0, 0, 1] [] []) (before resetAfterFive n) []) = none) ∧
    ¬WriteReturns defaultServer (dataSizeMsg StSockMsg.confirm stsockidServer 0 0) dataSizeLen (newConn [] [] []).sock (fun _ => none) ∧
    ∀ n, endPackSendData defaultServer quietEnv (withResults (newConn [] [] []) [] (before (fun _ => none) n)) = none := by
  have hgone : ConstFrom (fun _ => none : Nat → Option Nat) none 0 := fun _ _ => rfl
  have hread : ¬ReadReturns 0 dataSizeLen (newConn [8, 0, 0, 0, 1] [] []) resetAfterFive := by
    rw [readReturns_iff resetAfterFive_const]
    simp [ReadEnds, before, resetAfterFive, recvBytes, PastEnd, newConn, dataSizeLen]
  have hwrite : ¬WriteReturns defaultServer (dataSizeMsg StSockMsg.confirm stsockidServer 0 0) dataSizeLen (newConn [] [] []).sock
      (fun _ => none) := by
    rw [writeReturns_iff rfl hgone]
    simp [SendEnds, before, sendBytes, ZeroSend, dataSizeLen]
  refine ⟨resetAfterFive_const, hgone, hread, ?_, hwrite, ?_⟩
  · intro n
    have hnone : readFrom 0 dataSizeLen (startMessage (withResults (newConn [8, 0, 0, 0, 1] [] []) (before resetAfterFive n) [])) = none := by
      rw [← Option.not_isSome_iff_eq_none, readFrom_returns_iff]
      exact fun h => hread ⟨n, readFrom_returns_iff.mpr h⟩
    unfold processMessageBuffer
    rw [hnone]
  · intro n
    have hsize : answerSize quietEnv (withResults (newConn [] [] []) [] (before (fun _ => none) n)) = dataSizeLen := rfl
    refine endPackSendData_trapped rfl fun h => hwrite ⟨n, (writeTo_returns_iff rfl).mpr ?_⟩
    rw [hsize] at h
    exact h

end StarServer.Socket
