/-
  StarServer.Socket.BlockingRead — `ReadFrom` in blocking mode, statement by statement.

  Two loops share `this_read`: the inner one asks `recv` until it is not negative, the outer
  one adds it up, moves `buf` and sets it to -1 again. `bytes_read` and `this_read` are `int`,
  the count is a `size_t`, and `recv` is asked for their difference.

  Proved:
    * `step_readInv`: what is in the buffer is what is gone from the stream, and between
      the loops the variables say how much that is;
    * `readFrom_exact`: in every run with results that `recv` can give, whatever they
      are, nothing is written outside `buf[0, count)`, and a return of `ReadFrom` has exactly
      the next `count` bytes in it or came because the stream ended before them;
    * `readLoop_refines`: the loop of `readFrom` gives the results of these runs.
-/

import StarServer.Runs.Steps
import StarServer.Socket.Transport

namespace StarServer.Socket

open StarServer.Memory

/-! ## The statements -/

/-- Before each statement: the test of the outer loop, the test of the inner one, the `recv`,
    the two additions, the test for 0, the reset, and after the return. -/
inductive ReadPc where
  | outer
  | inner
  | recv
  | count
  | move
  | test
  | reset
  | returned (ret : BitVec 32)
  deriving DecidableEq, Repr

/-- The locals of `ReadFrom`, `buf` as an address in `mem`, and the stream to come. -/
structure ReadSt where
  pc : ReadPc
  bytesRead : BitVec 32
  thisRead : BitVec 32
  buf : Int
  mem : Buf
  inp : List Byte

/-- The next statement runs, or the `recv` returns `r` and has put that many bytes at `buf`. -/
inductive ReadEv where
  | next
  | recv (r : Int)

/-- `count - bytes_read`, as `recv` gets it. -/
def wanted (count : Nat) (s : ReadSt) : Nat := (BitVec.ofNat 64 count - s.bytesRead.signExtend 64).toNat

def readNext (count : Nat) (s : ReadSt) : Option ReadSt :=
  match s.pc with
  | .outer =>
    some { s with pc := if s.bytesRead.signExtend 64 < BitVec.ofNat 64 count then .inner else .returned s.bytesRead }
  | .inner => some { s with pc := if s.thisRead.slt 0 then .recv else .count }
  | .recv => none
  | .count => some { s with bytesRead := s.bytesRead + s.thisRead, pc := .move }
  | .move => some { s with buf := s.buf + s.thisRead.toInt, pc := .test }
  | .test => some { s with pc := if s.thisRead = 0 then .returned 0 else .reset }
  | .reset => some { s with thisRead := -1, pc := .outer }
  | .returned _ => none

def readStep (count : Nat) (s : ReadSt) : ReadEv → Option ReadSt
  | .next => readNext count s
  | .recv r =>
    if s.pc = .recv then
      some { s with
        thisRead := BitVec.ofInt 32 r
        mem := s.mem.store s.buf.toNat (s.inp.take r.toNat)
        inp := s.inp.drop r.toNat
        pc := .inner }
    else none

/-- The call, with `buf` at `off`. -/
def readStart (off : Nat) (mem : Buf) (inp : List Byte) : ReadSt := ⟨.outer, 0, -1, off, mem, inp⟩

/-- What `recv` can return: an error, some of the bytes asked for, or 0 when there are no
    more. -/
def RecvAllowed (count : Nat) (s : ReadSt) : ReadEv → Prop
  | .next => True
  | .recv r => r = -1 ∨ (1 ≤ r ∧ r ≤ wanted count s ∧ r ≤ s.inp.length) ∨ (r = 0 ∧ s.inp = [])

instance (count : Nat) (s : ReadSt) (e : ReadEv) : Decidable (RecvAllowed count s e) := by
  cases e <;> unfold RecvAllowed <;> infer_instance

/-! ## The invariant -/

/-- The last `k` of `got` bytes are the ones `recv` has just returned; none of them is the end
    of the stream. -/
structure JustRead (count : Nat) (inp : List Byte) (got k : Nat) : Prop where
  le : k ≤ got
  ended : k = 0 → inp = [] ∧ got < count

/-- The variables at each statement, with `got` bytes in the buffer. -/
inductive ReadAt (count off : Nat) (inp : List Byte) (got : Nat) : ReadPc → BitVec 32 → BitVec 32 → Int → Prop
  | outer : ReadAt count off inp got .outer (BitVec.ofNat 32 got) (-1) (off + got : Nat)
  | again : got < count → ReadAt count off inp got .inner (BitVec.ofNat 32 got) (-1) (off + got : Nat)
  | recv : got < count → ReadAt count off inp got .recv (BitVec.ofNat 32 got) (-1) (off + got : Nat)
  | read (k : Nat) : JustRead count inp got k →
      ReadAt count off inp got .inner (BitVec.ofNat 32 (got - k)) (BitVec.ofNat 32 k) (off + (got - k) : Nat)
  | count (k : Nat) : JustRead count inp got k →
      ReadAt count off inp got .count (BitVec.ofNat 32 (got - k)) (BitVec.ofNat 32 k) (off + (got - k) : Nat)
  | move (k : Nat) : JustRead count inp got k →
      ReadAt count off inp got .move (BitVec.ofNat 32 got) (BitVec.ofNat 32 k) (off + (got - k) : Nat)
  | test (k : Nat) : JustRead count inp got k →
      ReadAt count off inp got .test (BitVec.ofNat 32 got) (BitVec.ofNat 32 k) (off + got : Nat)
  | reset (thisRead : BitVec 32) : ReadAt count off inp got .reset (BitVec.ofNat 32 got) thisRead (off + got : Nat)
  | full (thisRead : BitVec 32) (buf : Int) : got = count →
      ReadAt count off inp got (.returned (BitVec.ofNat 32 count)) (BitVec.ofNat 32 got) thisRead buf
  | ended (thisRead : BitVec 32) (buf : Int) : inp = [] → got < count →
      ReadAt count off inp got (.returned 0) (BitVec.ofNat 32 got) thisRead buf

/-- What has been taken from the stream is in the buffer. -/
structure ReadInv (count off : Nat) (mem : Buf) (inp taken : List Byte) (s : ReadSt) : Prop where
  stream : inp = taken ++ s.inp
  le : taken.length ≤ count
  mem : s.mem = mem.store off taken
  place : ReadAt count off s.inp taken.length s.pc s.bytesRead s.thisRead s.buf

/-- The bytes an event takes from the stream. -/
def evBytes (s : ReadSt) : ReadEv → List Byte
  | .next => []
  | .recv r => s.inp.take r.toNat

theorem signExtend_ofNat {n : Nat} (h : n < 2 ^ 31) : (BitVec.ofNat 32 n).signExtend 64 = BitVec.ofNat 64 n := by
  rw [BitVec.signExtend_eq_setWidth_of_msb_false]
  · apply BitVec.eq_of_toNat_eq
    rw [BitVec.toNat_setWidth, BitVec.toNat_ofNat, BitVec.toNat_ofNat]
    omega
  · rw [BitVec.msb_eq_false_iff_two_mul_lt, BitVec.toNat_ofNat]
    omega

theorem slt_ofNat {n : Nat} (h : n < 2 ^ 31) : (BitVec.ofNat 32 n).slt 0 = false := by
  rw [BitVec.slt_eq_decide, decide_eq_false_iff_not, BitVec.toInt_eq_toNat_of_lt]
  · have h0 : (0 : BitVec 32).toInt = 0 := rfl
    omega
  · rw [BitVec.toNat_ofNat]
    omega

theorem ofNat_eq_zero {n : Nat} (h : n < 2 ^ 31) : BitVec.ofNat 32 n = 0 ↔ n = 0 := by
  constructor
  · intro hz
    have hnat := congrArg BitVec.toNat hz
    rw [BitVec.toNat_ofNat] at hnat
    have h0 : (0 : BitVec 32).toNat = 0 := rfl
    omega
  · rintro rfl
    rfl

theorem readStart_inv (count off : Nat) (mem : Buf) (inp : List Byte) :
    ReadInv count off mem inp [] (readStart off mem inp) :=
  ⟨rfl, Nat.zero_le _, (Buf.store_nil mem off).symm, .outer⟩

/-- The size `recv` is asked for is what is missing. -/
theorem wanted_eq {count got : Nat} {s : ReadSt} (hcount : count < 2 ^ 31) (hgot : got ≤ count)
    (h : s.bytesRead = BitVec.ofNat 32 got) : wanted count s = count - got := by
  unfold wanted
  rw [h, signExtend_ofNat (by omega), BitVec.toNat_sub, BitVec.toNat_ofNat, BitVec.toNat_ofNat]
  omega

/-! ## One statement -/

/-- Only the `recv` has a result. -/
theorem readStep_recv {count : Nat} {s s' : ReadSt} {r : Int} (he : readStep count s (.recv r) = some s') :
    s.pc = .recv ∧
      s' = { s with
        thisRead := BitVec.ofInt 32 r
        mem := s.mem.store s.buf.toNat (s.inp.take r.toNat)
        inp := s.inp.drop r.toNat
        pc := .inner } := by
  simp only [readStep] at he
  by_cases hpc : s.pc = .recv
  · rw [if_pos hpc] at he
    exact ⟨hpc, (Option.some.inj he).symm⟩
  · rw [if_neg hpc] at he
    cases he

/-- The variables at the `recv`. -/
theorem ReadInv.atRecv {count off : Nat} {mem : Buf} {inp taken : List Byte} {s : ReadSt}
    (h : ReadInv count off mem inp taken s) (hpc : s.pc = .recv) :
    taken.length < count ∧ s.bytesRead = BitVec.ofNat 32 taken.length ∧ s.buf = (off + taken.length : Nat) := by
  have hplace := h.place
  rw [hpc] at hplace
  generalize s.bytesRead = b at hplace ⊢
  generalize s.thisRead = t at hplace
  generalize s.buf = p at hplace ⊢
  cases hplace with
  | recv hlt => exact ⟨hlt, rfl, rfl⟩

/-- `recv` has returned `k` bytes, or the end of the stream. -/
theorem recv_readInv {count off : Nat} {mem : Buf} {inp taken : List Byte} {s : ReadSt} {k : Nat}
    (h : ReadInv count off mem inp taken s) (hbytes : s.bytesRead = BitVec.ofNat 32 taken.length)
    (hbuf : s.buf = (off + taken.length : Nat)) (hlt : taken.length < count) (hk : k ≤ count - taken.length)
    (hlen : k ≤ s.inp.length) (hend : k = 0 → s.inp = []) :
    ReadInv count off mem inp (taken ++ s.inp.take k)
      { s with
        thisRead := BitVec.ofNat 32 k
        mem := s.mem.store s.buf.toNat (s.inp.take k)
        inp := s.inp.drop k
        pc := .inner } := by
  have htake : (s.inp.take k).length = k := List.length_take_of_le hlen
  have hgot : (taken ++ s.inp.take k).length = taken.length + k := by rw [List.length_append, htake]
  refine ⟨?_, by omega, ?_, ?_⟩
  · rw [List.append_assoc, List.take_append_drop]
    exact h.stream
  · simp only [h.mem, hbuf, Int.toNat_natCast]
    exact Buf.store_append mem off taken _
  · have hread : JustRead count (s.inp.drop k) (taken.length + k) k := by
      refine ⟨by omega, fun h0 => ⟨?_, by omega⟩⟩
      rw [hend h0]
      exact List.drop_nil
    have hplace := @ReadAt.read count off (s.inp.drop k) (taken.length + k) k hread
    rw [Nat.add_sub_cancel] at hplace
    rw [hgot, hbytes, hbuf]
    exact hplace

/-- A result of `recv`. -/
theorem result_readInv {count off : Nat} {mem : Buf} {inp taken : List Byte} {s s' : ReadSt} {r : Int}
    (hcount : count < 2 ^ 31) (h : ReadInv count off mem inp taken s) (hok : RecvAllowed count s (.recv r))
    (he : readStep count s (.recv r) = some s') : ReadInv count off mem inp (taken ++ evBytes s (.recv r)) s' := by
  obtain ⟨hpc, rfl⟩ := readStep_recv he
  obtain ⟨hlt, hbytes, hbuf⟩ := h.atRecv hpc
  have hle := h.le
  have hwant := wanted_eq hcount hle hbytes
  rcases hok with rfl | ⟨h1, h2, h3⟩ | ⟨rfl, hend⟩
  · -- an error: nothing has come, and the inner loop goes on
    refine ⟨?_, ?_, ?_, ?_⟩
    · simpa [evBytes] using h.stream
    · simpa [evBytes] using hle
    · simpa [evBytes, Buf.store_nil] using h.mem
    · have hagain := @ReadAt.again count off s.inp taken.length hlt
      rw [← hbytes, ← hbuf] at hagain
      simpa [evBytes] using hagain
  · obtain ⟨k, rfl⟩ := Int.eq_ofNat_of_zero_le (show 0 ≤ r by omega)
    have hrecv := @recv_readInv count off mem inp taken s k h hbytes hbuf hlt (by omega) (by omega) (by omega)
    rwa [← BitVec.ofInt_natCast] at hrecv
  · have hrecv := @recv_readInv count off mem inp taken s 0 h hbytes hbuf hlt (by omega) (by omega)
      fun _ => hend
    exact hrecv

/-- A statement that is no `recv`. -/
theorem next_readInv {count off : Nat} {mem : Buf} {inp taken : List Byte} {s s' : ReadSt}
    (hcount : count < 2 ^ 31) (h : ReadInv count off mem inp taken s) (he : readNext count s = some s') :
    ReadInv count off mem inp taken s' := by
  obtain ⟨hstream, hle, hmem, hplace⟩ := h
  obtain ⟨pc, bytesRead, thisRead, buf, smem, sinp⟩ := s
  simp only [readNext] at he
  simp only at hstream hmem hplace
  generalize hgot : taken.length = got at hle hplace
  cases hplace with
  | outer =>
    cases he
    refine ⟨hstream, by omega, hmem, ?_⟩
    rw [hgot]
    simp only [signExtend_ofNat (show got < 2 ^ 31 by omega), BitVec.lt_def, BitVec.toNat_ofNat]
    by_cases hlt : got < count
    · rw [if_pos (by omega)]
      exact .again hlt
    · obtain rfl : got = count := by omega
      rw [if_neg (by omega)]
      exact .full _ _ rfl
  | again hlt =>
    cases he
    refine ⟨hstream, by omega, hmem, ?_⟩
    rw [hgot]
    exact .recv hlt
  | recv hlt => cases he
  | read k hk =>
    cases he
    refine ⟨hstream, by omega, hmem, ?_⟩
    have hkle := hk.le
    rw [hgot]
    simp only [slt_ofNat (show k < 2 ^ 31 by omega), Bool.false_eq_true, if_false]
    exact .count k hk
  | count k hk =>
    cases he
    refine ⟨hstream, by omega, hmem, ?_⟩
    have hkle := hk.le
    rw [hgot]
    simp only [← BitVec.ofNat_add, Nat.sub_add_cancel hkle]
    exact .move k hk
  | move k hk =>
    cases he
    refine ⟨hstream, by omega, hmem, ?_⟩
    have hkle := hk.le
    have hint : (BitVec.ofNat 32 k).toInt = k := by
      rw [BitVec.toInt_eq_toNat_of_lt]
      · rw [BitVec.toNat_ofNat]
        omega
      · rw [BitVec.toNat_ofNat]
        omega
    have hmoved : ((off + (got - k) : Nat) : Int) + k = (off + got : Nat) := by omega
    rw [hgot]
    simp only [hint, hmoved]
    exact .test k hk
  | test k hk =>
    cases he
    refine ⟨hstream, by omega, hmem, ?_⟩
    have hkle := hk.le
    rw [hgot]
    simp only [ofNat_eq_zero (show k < 2 ^ 31 by omega)]
    by_cases h0 : k = 0
    · rw [if_pos h0]
      obtain ⟨hend, hlt⟩ := hk.ended h0
      exact .ended _ _ hend hlt
    · rw [if_neg h0]
      exact .reset _
  | reset t =>
    cases he
    refine ⟨hstream, by omega, hmem, ?_⟩
    rw [hgot]
    exact .outer
  | full t b hfull => cases he
  | ended t b hend hlt => cases he

/-- **One statement**, or one result of `recv`. -/
theorem step_readInv {count off : Nat} {mem : Buf} {inp taken : List Byte} {s s' : ReadSt} {e : ReadEv}
    (hcount : count < 2 ^ 31) (h : ReadInv count off mem inp taken s) (hok : RecvAllowed count s e)
    (he : readStep count s e = some s') : ReadInv count off mem inp (taken ++ evBytes s e) s' := by
  cases e with
  | recv r => exact result_readInv hcount h hok he
  | next =>
    simp only [evBytes, List.append_nil]
    exact next_readInv hcount h he

/-! ## The call -/

/-- What holds of every state of a call: nothing outside `buf[0, count)` is written, no more
    than `count` bytes are taken, and a return is the whole count or the end of the stream. -/
structure ReadSafe (count off : Nat) (mem : Buf) (inp : List Byte) (s : ReadSt) : Prop where
  outside : ∀ i, i < off ∨ off + count ≤ i → s.mem.mem i = mem.mem i
  top : s.mem.top ≤ max mem.top (off + count)
  consumed : ∃ taken, inp = taken ++ s.inp ∧ taken.length ≤ count
  returned : ∀ ret, s.pc = .returned ret →
    (ret.toInt = count ∧ count ≤ inp.length ∧ s.mem.slice off count = inp.take count ∧ s.inp = inp.drop count) ∨
      (ret = 0 ∧ inp.length < count ∧ s.inp = [])

theorem ReadInv.safe {count off : Nat} {mem : Buf} {inp taken : List Byte} {s : ReadSt} (hcount : count < 2 ^ 31)
    (h : ReadInv count off mem inp taken s) : ReadSafe count off mem inp s := by
  obtain ⟨hstream, hle, hmem, hplace⟩ := h
  refine ⟨fun i hi => ?_, ?_, ⟨taken, hstream, hle⟩, fun ret hret => ?_⟩
  · rw [hmem, Buf.mem_store_out]
    omega
  · rw [hmem]
    apply Buf.top_store_le
    · omega
    · omega
  · rw [hret] at hplace
    generalize hgot : taken.length = got at hplace
    generalize s.bytesRead = b at hplace
    cases hplace with
    | full _ _ hfull =>
      have hlen : taken.length = count := hgot.trans hfull
      refine Or.inl ⟨?_, ?_, ?_, ?_⟩
      · rw [BitVec.toInt_eq_toNat_of_lt]
        · rw [BitVec.toNat_ofNat]
          omega
        · rw [BitVec.toNat_ofNat]
          omega
      · rw [hstream, List.length_append]
        omega
      · rw [hmem, hstream, ← hlen, Buf.slice_store, List.take_left]
      · rw [hstream, ← hlen, List.drop_left]
    | ended _ _ hend hlt =>
      refine Or.inr ⟨rfl, ?_, hend⟩
      rw [hstream, hend, List.append_nil]
      omega

/-- **`ReadFrom` in blocking mode is exact**, whatever `recv` returns each time. -/
theorem readFrom_exact {count off : Nat} {mem : Buf} {inp : List Byte} {es : List ReadEv} (hcount : count < 2 ^ 31)
    (hok : Runs.RunOk (readStep count) (RecvAllowed count) (readStart off mem inp) es) :
    Runs.RunAll (readStep count) (ReadSafe count off mem inp) (readStart off mem inp) es := by
  have hinv := Runs.runAll_of_inv (readStep count) (RecvAllowed count)
    (I := fun s => ∃ taken, ReadInv count off mem inp taken s)
    (fun s e s' ⟨taken, h⟩ hallowed he => ⟨_, step_readInv hcount h hallowed he⟩) ⟨[], readStart_inv count off mem inp⟩ hok
  exact Runs.RunAll.mono (readStep count) (fun s ⟨taken, h⟩ => h.safe hcount) hinv

/-- Three bytes asked for: an error, two bytes and one. -/
def threeBytes : List ReadEv :=
  [.next, .next, .recv (-1), .next, .recv 2, .next, .next, .next, .next, .next, .next, .next, .recv 1, .next, .next, .next,
    .next, .next, .next]

theorem readFrom_exact_three :
    (∃ s, Runs.run (readStep 3) (readStart 12 ⟨fun _ => 0, 0⟩ [7, 8, 9, 10]) threeBytes = some s ∧ s.pc = .returned 3 ∧
      s.mem.slice 12 3 = [7, 8, 9]) ∧
    Runs.RunAll (readStep 3) (ReadSafe 3 12 ⟨fun _ => 0, 0⟩ [7, 8, 9, 10]) (readStart 12 ⟨fun _ => 0, 0⟩ [7, 8, 9, 10])
      threeBytes :=
  ⟨⟨_, rfl, by decide +kernel, by decide +kernel⟩, readFrom_exact (by decide) (by decide +kernel)⟩

/-! ## The loop of `readFrom` -/

/-- A result as `readFrom` takes it. -/
def recvResult (r : Int) : Option Nat := if r < 0 then none else some r.toNat

def evResults : ReadEv → List (Option Nat)
  | .next => []
  | .recv r => [recvResult r]

/-- What `readLoop` gives from this state on. -/
def loopRest (count : Nat) (taken : List Byte) (s : ReadSt) (rs : List (Option Nat)) :
    Option (Nat × List Byte × List Byte × List (Option Nat)) :=
  match s.pc with
  | .returned ret => some (ret.toNat, taken, s.inp, rs)
  | .inner | .count | .move | .test => if s.thisRead = 0 then some (0, taken, s.inp, rs) else readLoop count rs taken s.inp
  | _ => readLoop count rs taken s.inp

/-- The loop's own step. -/
theorem readLoop_cons {count : Nat} {r : Option Nat} {rs : List (Option Nat)} {got inp : List Byte} (h : got.length < count) :
    readLoop count (r :: rs) got inp = match r with
      | none => readLoop count rs got inp
      | some k =>
        if recvTake k (count - got.length) inp = [] then some (0, got, inp, rs)
        else readLoop count rs (got ++ recvTake k (count - got.length) inp)
          (inp.drop (recvTake k (count - got.length) inp).length) := by
  cases r with
  | none => simp only [readLoop, h, if_true]
  | some k => simp only [readLoop, h, if_true]

theorem readLoop_done {count : Nat} {rs : List (Option Nat)} {got inp : List Byte} (h : ¬got.length < count) :
    readLoop count rs got inp = some (got.length, got, inp, rs) := by
  cases rs with
  | nil => simp only [readLoop, h, if_false]
  | cons r rs => simp only [readLoop, h, if_false]

/-- A result of `recv` is the one that `readLoop` takes. -/
theorem result_loopRest {count off : Nat} {mem : Buf} {inp taken : List Byte} {s s' : ReadSt} {r : Int}
    (hcount : count < 2 ^ 31) (h : ReadInv count off mem inp taken s) (hok : RecvAllowed count s (.recv r))
    (he : readStep count s (.recv r) = some s') (rs : List (Option Nat)) :
    loopRest count taken s (recvResult r :: rs) = loopRest count (taken ++ s.inp.take r.toNat) s' rs := by
  obtain ⟨hpc, rfl⟩ := readStep_recv he
  obtain ⟨hlt, hbytes, -⟩ := h.atRecv hpc
  have hle := h.le
  have hwant := wanted_eq hcount hle hbytes
  simp only [loopRest, hpc]
  rw [readLoop_cons hlt]
  rcases hok with rfl | ⟨h1, h2, h3⟩ | ⟨rfl, hend⟩
  · rw [if_neg (by decide)]
    simp [recvResult]
  · obtain ⟨k, rfl⟩ := Int.eq_ofNat_of_zero_le (show 0 ≤ r by omega)
    have hpiece : recvTake k (count - taken.length) s.inp = s.inp.take k := by
      unfold recvTake
      congr 1
      omega
    have hlen : (s.inp.take k).length = k := List.length_take_of_le (by omega)
    have hsome : s.inp.take k ≠ [] := fun hnil => by
      rw [hnil] at hlen
      simp only [List.length_nil] at hlen
      omega
    have hresult : recvResult (k : Int) = some k := if_neg (by omega)
    simp only [hresult, hpiece]
    rw [if_neg hsome, hlen, BitVec.ofInt_natCast, if_neg ((not_congr (ofNat_eq_zero (by omega))).mpr (by omega))]
    rfl
  · have hresult : recvResult 0 = some 0 := rfl
    have hpiece : recvTake 0 (count - taken.length) s.inp = [] := by
      rw [hend]
      exact List.take_nil
    simp only [hresult, hpiece]
    rw [if_pos (show BitVec.ofInt 32 0 = 0 from rfl)]
    simp

theorem next_loopRest {count off : Nat} {mem : Buf} {inp taken : List Byte} {s s' : ReadSt} (hcount : count < 2 ^ 31)
    (h : ReadInv count off mem inp taken s) (he : readNext count s = some s') (rs : List (Option Nat)) :
    loopRest count taken s rs = loopRest count taken s' rs := by
  obtain ⟨-, hle, -, hplace⟩ := h
  obtain ⟨pc, bytesRead, thisRead, buf, smem, sinp⟩ := s
  simp only [readNext] at he
  simp only at hplace
  generalize hgot : taken.length = got at hle hplace
  cases hplace with
  | outer =>
    cases he
    simp only [signExtend_ofNat (show got < 2 ^ 31 by omega), BitVec.lt_def, BitVec.toNat_ofNat]
    by_cases hlt : got < count
    · rw [if_pos (by omega)]
      rfl
    · rw [if_neg (by omega)]
      have hloop := @readLoop_done count rs taken sinp (by omega)
      have hnat : (BitVec.ofNat 32 got).toNat = taken.length := by
        rw [BitVec.toNat_ofNat]
        omega
      simp only [loopRest, hnat]
      exact hloop
  | again hlt =>
    cases he
    rfl
  | recv hlt => cases he
  | read k hk =>
    cases he
    have hkle := hk.le
    simp only [slt_ofNat (show k < 2 ^ 31 by omega), Bool.false_eq_true, if_false]
    rfl
  | count k hk =>
    cases he
    rfl
  | move k hk =>
    cases he
    rfl
  | test k hk =>
    cases he
    by_cases h0 : BitVec.ofNat 32 k = 0
    · rw [if_pos h0]
      exact if_pos h0
    · rw [if_neg h0]
      exact if_neg h0
  | reset t =>
    cases he
    rfl
  | full t b hfull => cases he
  | ended t b hend hlt => cases he

/-- **Each statement leaves what the loop gives as it is.** -/
theorem step_loopRest {count off : Nat} {mem : Buf} {inp taken : List Byte} {s s' : ReadSt} {e : ReadEv}
    (hcount : count < 2 ^ 31) (h : ReadInv count off mem inp taken s) (hok : RecvAllowed count s e)
    (he : readStep count s e = some s') (rs : List (Option Nat)) :
    loopRest count taken s (evResults e ++ rs) = loopRest count (taken ++ evBytes s e) s' rs := by
  cases e with
  | recv r => exact result_loopRest hcount h hok he rs
  | next =>
    simp only [evBytes, evResults, List.append_nil, List.nil_append]
    exact next_loopRest hcount h he rs

theorem run_loopRest {count off : Nat} {mem : Buf} {inp : List Byte} (hcount : count < 2 ^ 31) {es : List ReadEv} {s s' : ReadSt}
    {taken : List Byte} (h : ReadInv count off mem inp taken s) (hok : Runs.RunOk (readStep count) (RecvAllowed count) s es)
    (hrun : Runs.run (readStep count) s es = some s') (rs : List (Option Nat)) :
    ∃ taken', ReadInv count off mem inp taken' s' ∧
      loopRest count taken s (es.flatMap evResults ++ rs) = loopRest count taken' s' rs := by
  induction es generalizing s taken with
  | nil =>
    cases hrun
    exact ⟨taken, h, rfl⟩
  | cons e es ih =>
    obtain ⟨m, he, hrest⟩ := (Runs.run_cons _).mp hrun
    obtain ⟨taken', hinv, heq⟩ := ih (step_readInv hcount h hok.1 he) (hok.2 m he) hrest
    refine ⟨taken', hinv, ?_⟩
    rw [List.flatMap_cons, List.append_assoc, step_loopRest hcount h hok.1 he, heq]

/-- **`readFrom` is this code**: a call that returns is one whose results `readLoop` takes to
    the same value, the same bytes and the same rest of the stream. -/
theorem readLoop_refines {count off : Nat} {mem : Buf} {inp : List Byte} {es : List ReadEv} {s : ReadSt} {ret : BitVec 32}
    (hcount : count < 2 ^ 31) (hok : Runs.RunOk (readStep count) (RecvAllowed count) (readStart off mem inp) es)
    (hrun : Runs.run (readStep count) (readStart off mem inp) es = some s) (hret : s.pc = .returned ret)
    (rs : List (Option Nat)) :
    ∃ got, readLoop count (es.flatMap evResults ++ rs) [] inp = some (ret.toNat, got, s.inp, rs) ∧ s.mem = mem.store off got := by
  obtain ⟨got, hinv, heq⟩ := run_loopRest hcount (readStart_inv count off mem inp) hok hrun rs
  refine ⟨got, ?_, hinv.mem⟩
  have hstart : loopRest count [] (readStart off mem inp) (es.flatMap evResults ++ rs) =
      readLoop count (es.flatMap evResults ++ rs) [] inp := rfl
  rw [← hstart, heq]
  simp only [loopRest, hret]

end StarServer.Socket
