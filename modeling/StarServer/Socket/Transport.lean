/-
  StarServer.Socket.Transport — `ReadFrom` and `WriteTo`.

  Both loop over the results the socket's next calls give. A result list that runs out
  is a call that has not returned: `none`. In blocking mode `ReadFrom` retries on -1 and
  gives up (0) only at the end of the stream, wherever the pieces fall; so what it
  returns is decided by the stream alone (`readFrom_blocking`). `WriteTo` retries on -1,
  gives up (0) on 0, and otherwise sends everything (`writeTo_cases`).
-/

import StarServer.Socket.State

namespace StarServer.Socket

open StarServer.Memory

/-! ## ReadFrom -/

/-- What a `recv` asking for `want` bytes takes of the stream, given its result; `[]` is
    the end of the stream. -/
def recvTake (k want : Nat) (inp : List Byte) : List Byte := inp.take (min (max k 1) want)

/-- The blocking loop: `got` bytes are in the buffer so far. Returns the result, the
    bytes now at the buffer's front, and what is left of the stream and the results. -/
def readLoop (count : Nat) : List (Option Nat) → List Byte → List Byte →
    Option (Nat × List Byte × List Byte × List (Option Nat))
  | [], got, inp => if got.length < count then none else some (got.length, got, inp, [])
  | r :: rs, got, inp =>
    if got.length < count then
      match r with
      | none => readLoop count rs got inp
      | some k =>
        let piece := recvTake k (count - got.length) inp
        if piece = [] then some (0, got, inp, rs)
        else readLoop count rs (got ++ piece) (inp.drop piece.length)
    else some (got.length, got, inp, r :: rs)

/-- `ReadFrom` in blocking mode, into `recvBuffer` at `off`. -/
def readFrom (off count : Nat) (s : Conn) : Option (Nat × Conn) :=
  match readLoop count s.sock.recvs [] s.sock.inp with
  | none => none
  | some (ret, got, inp, rs) =>
    some (ret, { s with
      client := { s.client with recvBuffer := s.client.recvBuffer.store off got }
      sock := { s.sock with inp := inp, recvs := rs }
      trace := s.trace ++ [.recv off count] })

/-- `ReadFrom` in non-blocking mode: one `recvfrom`. The count is the caller's `int`,
    taken as a `size_t`. -/
def readFromNonBlocking (off : Nat) (count : Int) (s : Conn) : Option (Int × Conn) :=
  match s.sock.recvs with
  | [] => none
  | r :: rs =>
    let s' := { s with sock := { s.sock with recvs := rs }, trace := s.trace ++ [.recv off count] }
    match r with
    | none => some (-1, s')
    | some k =>
      let piece := recvTake k (BitVec.ofInt 64 count).toNat s.sock.inp
      some (piece.length, { s' with
        client := { s.client with recvBuffer := s.client.recvBuffer.store off piece }
        sock := { s'.sock with inp := s.sock.inp.drop piece.length } })

theorem recvTake_append (k want : Nat) (inp : List Byte) :
    recvTake k want inp ++ inp.drop (recvTake k want inp).length = inp := by
  simp only [recvTake, List.length_take]
  by_cases h : min (max k 1) want ≤ inp.length
  · rw [Nat.min_eq_left h, List.take_append_drop]
  · rw [List.take_of_length_le (by omega), List.drop_of_length_le (by omega), List.append_nil]

theorem recvTake_length (k want : Nat) (inp : List Byte) : (recvTake k want inp).length ≤ want := by
  simp only [recvTake, List.length_take]; omega

theorem recvTake_nil {k want : Nat} {inp : List Byte} (hw : 0 < want) (h : recvTake k want inp = []) : inp = [] := by
  rcases List.take_eq_nil_iff.mp h with h | h
  · omega
  · exact h

/-- The loop ends with `count` bytes of the stream, or with the whole stream, shorter
    than that, and 0. -/
theorem readLoop_spec {count : Nat} {rs : List (Option Nat)} {got inp : List Byte} {ret : Nat} {got' inp' : List Byte}
    {rs' : List (Option Nat)} (hg : got.length ≤ count) (h : readLoop count rs got inp = some (ret, got', inp', rs')) :
    got' ++ inp' = got ++ inp ∧ rs' <:+ rs ∧
      ((ret = count ∧ got'.length = count) ∨ (ret = 0 ∧ got'.length < count ∧ inp' = [])) := by
  induction rs generalizing got inp with
  | nil =>
    simp only [readLoop] at h
    split at h
    · cases h
    · simp only [Option.some.injEq, Prod.mk.injEq] at h
      obtain ⟨rfl, rfl, rfl, rfl⟩ := h
      exact ⟨rfl, List.suffix_refl _, Or.inl ⟨by omega, by omega⟩⟩
  | cons r rs ih =>
    simp only [readLoop] at h
    split at h
    · rename_i hlt
      cases r with
      | none =>
        obtain ⟨h1, h2, h3⟩ := ih hg h
        exact ⟨h1, h2.trans (List.suffix_cons _ _), h3⟩
      | some k =>
        simp only at h
        split at h
        · rename_i hnil
          simp only [Option.some.injEq, Prod.mk.injEq] at h
          obtain ⟨rfl, rfl, rfl, rfl⟩ := h
          exact ⟨rfl, List.suffix_cons _ _, Or.inr ⟨rfl, hlt, recvTake_nil (by omega) hnil⟩⟩
        · have hlen := recvTake_length k (count - got.length) inp
          obtain ⟨h1, h2, h3⟩ := ih (by simp only [List.length_append]; omega) h
          refine ⟨?_, h2.trans (List.suffix_cons _ _), h3⟩
          rw [h1, List.append_assoc, recvTake_append]
    · simp only [Option.some.injEq, Prod.mk.injEq] at h
      obtain ⟨rfl, rfl, rfl, rfl⟩ := h
      exact ⟨rfl, List.suffix_refl _, Or.inl ⟨by omega, by omega⟩⟩

/-- What a blocking `ReadFrom` leaves, when it returns: the whole count was in the
    stream and is now in the buffer, or the stream ended first. Nothing else changes. -/
theorem readFrom_blocking {off count : Nat} {s s' : Conn} {ret : Nat} (h : readFrom off count s = some (ret, s')) :
    ∃ got rs, rs <:+ s.sock.recvs ∧
      ((ret = count ∧ count ≤ s.sock.inp.length ∧ got = s.sock.inp.take count) ∨
        (ret = 0 ∧ s.sock.inp.length < count ∧ got = s.sock.inp)) ∧
      s' = { s with
        client := { s.client with recvBuffer := s.client.recvBuffer.store off got }
        sock := { s.sock with inp := s.sock.inp.drop got.length, recvs := rs }
        trace := s.trace ++ [.recv off count] } := by
  unfold readFrom at h
  split at h
  · cases h
  · rename_i r got inp rs hl
    simp only [Option.some.injEq, Prod.mk.injEq] at h
    obtain ⟨rfl, rfl⟩ := h
    obtain ⟨happ, hsuf, hcase⟩ := readLoop_spec (by simp) hl
    rw [List.nil_append] at happ
    refine ⟨got, rs, hsuf, ?_, ?_⟩
    · rcases hcase with ⟨h1, h2⟩ | ⟨h1, h2, h3⟩
      · refine Or.inl ⟨h1, ?_, ?_⟩
        · rw [← happ, List.length_append]; omega
        · rw [← happ, ← h2, List.take_left]
      · subst h3
        rw [List.append_nil] at happ
        exact Or.inr ⟨h1, by rw [← happ]; exact h2, happ⟩
    · rw [← happ, List.drop_left]

/-- What the one `recvfrom` leaves: an error, or a piece of the stream in the buffer. -/
theorem readFromNonBlocking_cases {off : Nat} {count ret : Int} {s s' : Conn}
    (h : readFromNonBlocking off count s = some (ret, s')) :
    ∃ piece rs, (ret = -1 ∧ piece = [] ∨ ret = piece.length) ∧ piece ++ s.sock.inp.drop piece.length = s.sock.inp ∧
      s' = { s with
        client := { s.client with recvBuffer := s.client.recvBuffer.store off piece }
        sock := { s.sock with inp := s.sock.inp.drop piece.length, recvs := rs }
        trace := s.trace ++ [.recv off count] } := by
  unfold readFromNonBlocking at h
  split at h
  · cases h
  · rename_i r rs hr
    simp only at h
    split at h
    · cases h
      refine ⟨[], rs, Or.inl ⟨rfl, rfl⟩, rfl, ?_⟩
      rw [Buf.store_nil]
      rfl
    · rename_i k
      cases h
      exact ⟨_, rs, Or.inr rfl, recvTake_append _ _ _, rfl⟩

theorem readFromNonBlocking_trace {off : Nat} {count ret : Int} {s s' : Conn}
    (h : readFromNonBlocking off count s = some (ret, s')) : s'.trace = s.trace ++ [.recv off count] := by
  obtain ⟨piece, rs, -, -, rfl⟩ := readFromNonBlocking_cases h
  rfl

/-! ## WriteTo -/

/-- `WriteTo`'s loop over TCP: the value it returns and how many bytes were taken. -/
def sendLoop (count : Nat) : List (Option Nat) → Nat → Option (Nat × Nat × List (Option Nat))
  | [], sent => if sent < count then none else some (sent, sent, [])
  | r :: rs, sent =>
    if sent < count then
      match r with
      | none => sendLoop count rs sent
      | some k => if k = 0 then some (0, sent, rs) else sendLoop count rs (sent + min k (count - sent))
    else some (sent, sent, r :: rs)

/-- `WriteTo` of the first `count` bytes of `msg`. Over UDP it sends nothing. -/
def writeTo (srv : Server) (msg : Buf) (count : Nat) (sock : Sock) : Option (Nat × Sock) :=
  match srv.nProtocol with
  | .udp => some (0, { sock with out := sock.out ++ [⟨msg, count, 0⟩] })
  | .tcp =>
    match sendLoop count sock.sends 0 with
    | none => none
    | some (ret, sent, rs) => some (ret, { sock with sends := rs, out := sock.out ++ [⟨msg, count, sent⟩] })

theorem sendLoop_spec {count : Nat} {rs : List (Option Nat)} {sent ret sent' : Nat} {rs' : List (Option Nat)}
    (hs : sent ≤ count) (h : sendLoop count rs sent = some (ret, sent', rs')) :
    rs' <:+ rs ∧ ((ret = count ∧ sent' = count) ∨ (ret = 0 ∧ sent' < count ∧ some 0 ∈ rs)) := by
  induction rs generalizing sent with
  | nil =>
    simp only [sendLoop] at h
    split at h
    · cases h
    · simp only [Option.some.injEq, Prod.mk.injEq] at h
      obtain ⟨rfl, rfl, rfl⟩ := h
      exact ⟨List.suffix_refl _, Or.inl ⟨by omega, by omega⟩⟩
  | cons r rs ih =>
    simp only [sendLoop] at h
    split at h
    · rename_i hlt
      cases r with
      | none =>
        obtain ⟨h1, h2⟩ := ih hs h
        refine ⟨h1.trans (List.suffix_cons _ _), h2.imp_right fun ⟨a, b, c⟩ => ⟨a, b, List.mem_cons_of_mem _ c⟩⟩
      | some k =>
        simp only at h
        split at h
        · rename_i hk
          simp only [Option.some.injEq, Prod.mk.injEq] at h
          obtain ⟨rfl, rfl, rfl⟩ := h
          subst hk
          exact ⟨List.suffix_cons _ _, Or.inr ⟨rfl, hlt, List.mem_cons_self⟩⟩
        · obtain ⟨h1, h2⟩ := ih (by omega) h
          refine ⟨h1.trans (List.suffix_cons _ _), h2.imp_right fun ⟨a, b, c⟩ => ⟨a, b, List.mem_cons_of_mem _ c⟩⟩
    · simp only [Option.some.injEq, Prod.mk.injEq] at h
      obtain ⟨rfl, rfl, rfl⟩ := h
      exact ⟨List.suffix_refl _, Or.inl ⟨by omega, by omega⟩⟩

/-- A `WriteTo` that returns has written the whole message and returns its length, or
    returns 0 because a `send` gave 0 or the protocol is UDP. -/
theorem writeTo_cases {srv : Server} {msg : Buf} {count : Nat} {k k' : Sock} {ret : Nat}
    (h : writeTo srv msg count k = some (ret, k')) :
    ∃ sent rs, rs <:+ k.sends ∧ k' = { k with sends := rs, out := k.out ++ [⟨msg, count, sent⟩] } ∧
      ((ret = count ∧ sent = count) ∨ (ret = 0 ∧ sent ≤ count ∧ (srv.nProtocol = .udp ∨ some 0 ∈ k.sends))) := by
  unfold writeTo at h
  split at h
  · rename_i hp
    simp only [Option.some.injEq, Prod.mk.injEq] at h
    obtain ⟨rfl, rfl⟩ := h
    exact ⟨0, k.sends, List.suffix_refl _, rfl, Or.inr ⟨rfl, Nat.zero_le _, Or.inl hp⟩⟩
  · split at h
    · cases h
    · rename_i r sent rs hl
      simp only [Option.some.injEq, Prod.mk.injEq] at h
      obtain ⟨rfl, rfl⟩ := h
      obtain ⟨h1, h2⟩ := sendLoop_spec (Nat.zero_le _) hl
      exact ⟨sent, rs, h1, rfl, h2.imp_right fun ⟨a, b, c⟩ => ⟨a, by omega, Or.inr c⟩⟩

end StarServer.Socket
