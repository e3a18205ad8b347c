/-
  StarServer.Socket.Delivery — what a client sends, and what the request handler and the disk
  get of it.

  A client's stream is any mix of requests, data frames with packNos that increase, and
  messages that are none: copies of frames already taken, frames damaged behind their
  header, PING, RETRASMIT and unknown types without payload. A request carries messages, and
  may carry one part of a file or of big data. TCP cuts the stream as it likes; the handler and
  other threads call the library as they like; the client may stop reading, time out or be
  thrown out at any point.

  `Ledger` notes for each message the thread has dealt with whether the handler was entered,
  and with which packNo and messages, and what the flags of the parts and the calls that free an
  upload have made of the ready flags.

  Proved:
    * `message_request`: a request is taken whole, whatever the buffers held before;
    * `message_passed`: a message that is none changes nothing a request depends on;
    * `step_delivering`: every step keeps the account of the stream;
    * `requests_delivered`: after `n` messages the handler has had exactly the requests
      among the first `n`, in order, each with its own messages; and while it runs, what
      `STSV_GetData` gives it are the messages of the last of them.
-/

import StarServer.Runs.Steps
import StarServer.Socket.InputSync
import StarServer.Socket.ReceiveBounds
import StarServer.Socket.Resend
import StarServer.Socket.Segments
import StarServer.Socket.UploadPart

namespace StarServer.Socket

open StarServer.Memory StarServer.Framing

/-! ## The client's stream -/

/-- A data frame the server can take: a known sender, messages that are not empty, no more
    than `recvBufferMSG` has entries for, in a frame that fits `recvBuffer`. -/
structure Request (srv : Server) where
  fromID : BitVec 16
  packNo : BitVec 32
  messages : List (List Byte)
  part : Option Part
  known : 0 ≤ fromID.toInt ∧ fromID.toInt < srv.nMaxConnection
  nonempty : ∀ m ∈ messages, m ≠ []
  count : messages.length ≤ 64
  partOk : ∀ p, part = some p → p.Ok
  fits : packDataLen + (messageBody messages ++ uploadBytes part).length ≤ stsvMaxBuffer

variable {srv : Server}

def Request.body (r : Request srv) : List Byte := messageBody r.messages ++ uploadBytes r.part

def Request.bytes (r : Request srv) : List Byte :=
  bodyFrame (uploadType r.part) r.fromID r.packNo (messageTable 0 r.messages).length r.body

/-- A request that starts a file. -/
def Request.names (r : Request srv) : Bool := r.part.any Part.named

/-- One that goes on with a file. -/
def Request.goesOn (r : Request srv) : Bool := r.part.any fun p => p.kind = .file && !p.first

/-- A buffer with `l` at its front. -/
def front (l : List Byte) : Buf := Buf.store ⟨fun _ => 0, 0⟩ 0 l

variable (srv) in
/-- A message that a server whose last frame was `last` does not hand to the handler. -/
inductive Passed (last : BitVec 32) (l : List Byte) : Prop
  | old : IsData srv (front l) → msgPackNo (front l) ≤ last → Passed last l
  | damaged : IsData srv (front l) → 4 ≤ msgSize (front l) →
      crcOver (front l) packDataLen (crcLength (front l)) ≠ (front l).u16 12 → Passed last l
  | ping : msgType (front l) = StSockMsg.ping → l.length = dataSizeLen → Passed last l
  | retrasmit : msgType (front l) = StSockMsg.retrasmit → l.length = dataSizeLen → Passed last l
  | unknown : IsKnown srv (front l) → msgType (front l) &&& StSockMsg.alldata = 0 → l.length = dataSizeLen → Passed last l

variable (srv) in
/-- What a client puts on the stream, one message at a time. -/
inductive Item where
  | request (r : Request srv)
  | other (l : List Byte)

def Item.bytes : Item srv → List Byte
  | .request r => r.bytes
  | .other l => l

/-- The packNos of the requests increase from `last`, a file goes on only when it was `begun`,
    and all else is whole, fits the buffer and is passed over. -/
def InSequence : BitVec 32 → Bool → List (Item srv) → Prop
  | _, _, [] => True
  | last, begun, .request r :: is =>
    last < r.packNo ∧ (r.goesOn = true → begun = true) ∧ InSequence r.packNo (begun || r.names) is
  | last, begun, .other l :: is =>
    (IsFrame dataSizeLen wireSize l ∧ l.length ≤ stsvMaxBuffer ∧ Passed srv last l) ∧ InSequence last begun is

def wire (is : List (Item srv)) : List Byte := is.flatMap Item.bytes

/-- What the handler is to get of it. -/
def requests : List (Item srv) → List (BitVec 32 × List (List Byte))
  | [] => []
  | .request r :: is => (r.packNo, r.messages) :: requests is
  | .other _ :: is => requests is

def Item.part : Item srv → Option Part
  | .request r => r.part
  | .other _ => none

/-- And what the disk is. -/
def stored (idx : Nat) (is : List (Item srv)) (d : Disk) : Disk := is.foldl (fun d i => d.after idx i.part) d

/-! ## A message at the front of the stream -/

theorem isKnown_congr {b c : Buf} (h : b.slice 0 dataSizeLen = c.slice 0 dataSizeLen) (hb : IsKnown srv b) : IsKnown srv c := by
  obtain ⟨h1, h2, -, -⟩ := header_congr h
  refine ⟨⟨?_, ?_, ?_⟩, ?_, ?_⟩
  · exact h1 ▸ hb.notRegister
  · exact h1 ▸ hb.notRetrasmit
  · exact h1 ▸ hb.notPing
  · exact h2 ▸ hb.fromID
  · exact h2 ▸ hb.fromIDLt

theorem isData_congr {b c : Buf} (h : b.slice 0 dataSizeLen = c.slice 0 dataSizeLen) (hb : IsData srv b) : IsData srv c := by
  obtain ⟨h1, -, -, h4⟩ := header_congr h
  refine ⟨isKnown_congr h hb.toIsKnown, ?_, ?_, ?_⟩
  · exact h1 ▸ hb.type
  · exact h4 ▸ hb.size
  · exact h4 ▸ hb.sizeLe

theorem front_slice (l : List Byte) : (front l).slice 0 l.length = l := Buf.slice_store _ _ _

/-- The message at the front of the stream is the one in the buffer once it is read. -/
theorem nextHeader_front {s : Conn} {l rest : List Byte} (hlen : dataSizeLen ≤ l.length) (hinp : s.sock.inp = l ++ rest) :
    (front l).slice 0 dataSizeLen = (nextHeader s).slice 0 dataSizeLen := by
  have htake : (l.take dataSizeLen).length = dataSizeLen := List.length_take_of_le hlen
  have hnext : (nextHeader s).slice 0 dataSizeLen = l.take dataSizeLen := by
    unfold nextHeader
    rw [hinp, List.take_append_of_le_length hlen]
    exact Buf.slice_store_eq _ htake
  rw [hnext, ← Buf.slice_take (front l) 0 hlen, front_slice]

theorem front_size {l : List Byte} (h : IsFrame dataSizeLen wireSize l) (hfits : l.length ≤ stsvMaxBuffer) :
    msgSize (front l) = (l.length : Int) - dataSizeLen := by
  have h64 : stsvMaxBuffer = 65536 := rfl
  have hwire : wireSize (l.take dataSizeLen) = ((front l).u32 8).toNat := by
    rw [← wireSize_slice (front l) h.header, front_slice]
  have hlen := h.length
  rw [hwire] at hlen
  have heq : msgSize (front l) = (l.length - dataSizeLen : Nat) := (msgSize_eq_iff (by omega)).mpr (by omega)
  have hhead := h.header
  omega

/-- With a whole header there, it is read and dealt with. -/
theorem header_dealt {env : Env} {s s' : Conn} {ret : Int} (hlen : dataSizeLen ≤ s.sock.inp.length)
    (h : processMessageBuffer srv env s = some (ret, s')) : ∃ s1, HeaderRead s s1 ∧ processMessage srv env s1 = some (ret, s') := by
  unfold processMessageBuffer at h
  cases hr : readFrom 0 dataSizeLen (startMessage s) with
  | none =>
    rw [hr] at h
    cases h
  | some x =>
    obtain ⟨n, s1⟩ := x
    obtain ⟨got, rs, -, hcase, -⟩ := readFrom_blocking hr
    have hn : n = dataSizeLen := by
      rcases hcase with ⟨h1, -⟩ | ⟨-, h2, -⟩
      · exact h1
      · exact absurd h2 (Nat.not_lt.mpr hlen)
    rw [hr] at h
    subst hn
    exact ⟨s1, hr, h⟩

/-- The slot once a data message `l` is read. -/
structure FrontRead (s s2 : Conn) (l rest : List Byte) : Prop where
  read : DataRead srv s s2 (l.length - dataSizeLen)
  buffer : s2.client.recvBuffer.slice 0 l.length = l
  inp : s2.sock.inp = rest
  recvCount : s2.client.recvCount = 0

theorem front_read {env : Env} {s s' : Conn} {ret : Int} {l rest : List Byte} (hf : IsFrame dataSizeLen wireSize l)
    (hfits : l.length ≤ stsvMaxBuffer) (hd : IsData srv (front l)) (hinp : s.sock.inp = l ++ rest)
    (h : processMessageBuffer srv env s = some (ret, s')) : ∃ s2, @FrontRead srv s s2 l rest := by
  have hhead := hf.header
  have hlen : dataSizeLen ≤ s.sock.inp.length := by
    rw [hinp, List.length_append]
    omega
  have hnext := isData_congr (nextHeader_front hhead hinp) hd
  obtain ⟨s1, hh, h⟩ := header_dealt hlen h
  obtain ⟨-, rs, -, hs1⟩ := hh.eq
  have hd1 : IsData srv s1.client.recvBuffer := by
    rw [hs1]
    exact hnext
  rw [hd1.processMessage] at h
  cases hr : readFrom dataSizeLen (msgSize s1.client.recvBuffer).toNat s1 with
  | none =>
    rw [hr] at h
    cases h
  | some x =>
    obtain ⟨n, s2⟩ := x
    have hread : DataRead srv s s2 n := ⟨s1, hh, hd1, hr⟩
    obtain ⟨-, -, got, rs2, -, hpay, hs2⟩ := hread.eq
    have hsize : (msgSize (nextHeader s)).toNat = l.length - dataSizeLen := by
      have hmsg := (header_congr (nextHeader_front hhead hinp)).2.2.2
      rw [← hmsg, front_size hf hfits]
      omega
    have hrest : s.sock.inp.drop dataSizeLen = l.drop dataSizeLen ++ rest := by
      rw [hinp, List.drop_append_of_le_length hhead]
    have hdrop : (l.drop dataSizeLen).length = l.length - dataSizeLen := List.length_drop
    unfold Payload at hpay
    rw [hsize, hrest] at hpay
    rw [hrest] at hs2
    rcases hpay with ⟨rfl, -, hgot⟩ | ⟨-, hlt, -⟩
    · rw [← hdrop, List.take_left] at hgot
      subst hgot
      rw [List.drop_left] at hs2
      refine ⟨s2, hread, ?_, ?_, ?_⟩
      · have htake : (l.take dataSizeLen).length = dataSizeLen := List.length_take_of_le hhead
        have hbuf : s2.client.recvBuffer = s.client.recvBuffer.store 0 l := by
          rw [hs2]
          show (nextHeader s).store dataSizeLen (l.drop dataSizeLen) = _
          unfold nextHeader
          rw [hinp, List.take_append_of_le_length hhead]
          have happ := Buf.store_append s.client.recvBuffer 0 (l.take dataSizeLen) (l.drop dataSizeLen)
          rw [htake, Nat.zero_add, List.take_append_drop] at happ
          exact happ
        rw [hbuf]
        exact Buf.slice_store _ _ _
      · rw [hs2]
      · rw [hs2]
    · rw [List.length_append, hdrop] at hlt
      omega

/-! ## A request -/

theorem Request.length (r : Request srv) : r.bytes.length = packDataLen + r.body.length := length_bodyFrame _ _ _ _ _

theorem Request.holds {r : Request srv} {b : Buf} (h : b.slice 0 r.bytes.length = r.bytes) :
    HoldsFrame b (uploadType r.part) r.fromID r.packNo (messageTable 0 r.messages).length r.body := by
  rw [holdsFrame_iff, ← r.length]
  exact h

/-- A request's bytes are one message, and a data message. -/
theorem Request.frame (r : Request srv) : IsFrame dataSizeLen wireSize r.bytes ∧ IsData srv (front r.bytes) := by
  have hholds := Request.holds (front_slice r.bytes)
  obtain ⟨hsize, hnat⟩ := hholds.sizes r.fits
  have hlen := r.length
  have hfits : packDataLen + r.body.length ≤ stsvMaxBuffer := r.fits
  have h12 : dataSizeLen = 12 := rfl
  have h16 : packDataLen = 16 := rfl
  have hhead : dataSizeLen ≤ r.bytes.length := by omega
  have htype : msgType (front r.bytes) = uploadType r.part := hholds.type
  have hid : msgFromID (front r.bytes) = r.fromID.toInt := congrArg BitVec.toInt hholds.fromID
  obtain ⟨hid0, hidlt⟩ := r.known
  obtain ⟨h1, h2, h3, h4⟩ := uploadType_data r.part
  refine ⟨⟨hhead, ?_⟩, ⟨⟨⟨?_, ?_, ?_⟩, ?_, ?_⟩, ?_, ?_, ?_⟩⟩
  · have hwire : wireSize (r.bytes.take dataSizeLen) = ((front r.bytes).u32 8).toNat := by
      rw [← wireSize_slice (front r.bytes) hhead, front_slice]
    rw [hwire, hnat, hlen]
    omega
  · rw [htype]
    exact h1
  · rw [htype]
    exact h2
  · rw [htype]
    exact h3
  · rw [hid]
    exact hid0
  · rw [hid]
    exact hidlt
  · rw [htype]
    exact h4
  · omega
  · omega

/-- The part it carries can be stored. -/
theorem Request.storable {r : Request srv} {b : Buf} {d : Disk} (h : b.slice 0 r.bytes.length = r.bytes)
    (hcur : r.goesOn = true → d.current.isSome = true) (p : Part) (hp : r.part = some p) : Storable b d p := by
  have hholds := Request.holds h
  have hfits := r.fits
  unfold Request.body at hholds
  rw [hp] at hholds hfits
  refine ⟨holdsFrame_part hholds hfits, r.partOk p hp, fun hk hfirst => hcur ?_⟩
  unfold Request.goesOn
  rw [hp]
  simp [hk, hfirst]

/-- **A request is taken whole**: the handler is entered, with its messages, and its part is
    stored. -/
structure TakenWhole (r : Request srv) (d : Disk) (s : Conn) (ret : Int) (s' : Conn) (rest : List Byte) : Prop where
  ret : ret = 0
  messages : received s'.client = r.messages
  packRef : s'.client.packRef = r.packNo
  inp : s'.sock.inp = rest
  idx : s'.client.idx = s.client.idx
  files : s'.fs = (d.after s.client.idx.toNat r.part).files
  current : AtCurrent s'.client (d.after s.client.idx.toNat r.part)
  bigReady : s'.client.bigDataReady = (r.part.map fun p => p.bigReady s.client.bigDataReady).getD s.client.bigDataReady
  fileReady : s'.client.fileDataReady = (r.part.map fun p => p.fileReady s.client.fileDataReady).getD s.client.fileDataReady

theorem message_request {env : Env} {s s' : Conn} {ret : Int} {r : Request srv} {rest : List Byte} {d : Disk}
    (hsrv : srv.nServerType = .alwayOn) (hinp : s.sock.inp = r.bytes ++ rest) (hnew : s.client.packRef < r.packNo)
    (hfs : s.fs = d.files) (hat : AtCurrent s.client d) (hcur : r.goesOn = true → d.current.isSome = true)
    (hopen : r.part.isSome → ∀ q, env.canOpen q = true) (h : processMessageBuffer srv env s = some (ret, s')) :
    TakenWhole r d s ret s' rest := by
  obtain ⟨hf, hd⟩ := r.frame
  have hlen := r.length
  have hfits : packDataLen + r.body.length ≤ stsvMaxBuffer := r.fits
  obtain ⟨s2, hread, hbuf, hinp2, hcount⟩ := front_read hf (by omega) hd hinp h
  have hholds := Request.holds hbuf
  obtain ⟨hsize, -⟩ := hholds.sizes hfits
  have hun := hread.untouched
  have hno : msgPackNo s2.client.recvBuffer = r.packNo := hholds.packNo
  have hnever : ¬ sessionOver srv s2.client := fun hover => by
    have := hover.1
    rw [hsrv] at this
    cases this
  have hwhole : ((r.bytes.length - dataSizeLen : Nat) : Int) = msgSize s2.client.recvBuffer := by
    have h12 : dataSizeLen = 12 := rfl
    have h16 : packDataLen = 16 := rfl
    omega
  have hcrc := crc_of_body hholds hfits
  rw [processMessageBuffer_dataRead hread] at h
  simp only [processPayload] at h
  rw [if_neg (by rw [hno, hun.packRef]; exact BitVec.not_le.mpr hnew), if_neg hnever, if_neg (not_not_intro hwhole),
    if_neg (not_not_intro hcrc)] at h
  have hs : processFrame env (traceCrc s2) = (ret, s') := Option.some.inj h
  have hstored := @frame_stored env (traceCrc s2) r.part d hholds.type (r.storable hbuf hcur)
    (hat.same hun.idx hun.uploads.fileDataName) (hun.uploads.fs.trans hfs) hopen
  have hdone := processFrame_done env (traceCrc s2)
  rw [hs] at hstored hdone
  obtain ⟨hret, hmsgs, hpack, hfiles, hat', hbig, hfile⟩ := hstored
  have hidx : s'.client.idx = s2.client.idx := by
    have honly := hdone.client
    unfold OnlyReceived at honly
    rw [honly]
    rfl
  have hbig2 : (traceCrc s2).client.bigDataReady = s.client.bigDataReady := hun.uploads.bigDataReady
  have hfile2 : (traceCrc s2).client.fileDataReady = s.client.fileDataReady := hun.uploads.fileDataReady
  have hidx2 : (traceCrc s2).client.idx = s.client.idx := hun.idx
  rw [hbig2] at hbig
  rw [hfile2] at hfile
  rw [hidx2] at hfiles hat'
  refine ⟨hret, hmsgs.trans ?_, hpack.trans hno, ?_, hidx.trans hun.idx, hfiles, hat', hbig, hfile⟩
  · exact received_of_body hholds hfits r.nonempty hcount
  · rw [hdone.sock]
    exact hinp2

/-! ## All else -/

/-- The message is off the stream, and has changed nothing that a request depends on. -/
structure NotTaken (s : Conn) (ret : Int) (s' : Conn) (rest : List Byte) : Prop where
  ret : ret ≠ 0
  untouched : Untouched s s'
  inp : s'.sock.inp = rest

theorem notTaken_of {env : Env} {s s' : Conn} {ret : Int} {rest : List Byte} (hno : takenFrame srv s = none)
    (hinp : s'.sock.inp = rest) (h : processMessageBuffer srv env s = some (ret, s')) : NotTaken s ret s' rest := by
  obtain ⟨hret, hun⟩ := message_untaken hno h
  exact ⟨by rw [hret]; decide, hun, hinp⟩

/-- No frame is taken where the header is not a data message's. -/
theorem header_untaken {s : Conn} (h : ¬IsData srv (nextHeader s)) : takenFrame srv s = none := by
  cases ht : takenFrame srv s with
  | none => rfl
  | some t =>
    obtain ⟨n, hd, -, -⟩ := takenFrame_iff.mp ht
    obtain ⟨-, hdata, -⟩ := hd.eq
    exact absurd hdata h

theorem sendReTrasmit_inp {s s' : Conn} {ret : Int} {packNo : BitVec 32}
    (h : (sendReTrasmit srv s packNo).map (fun s => ((-1 : Int), s)) = some (ret, s')) : s'.sock.inp = s.sock.inp := by
  obtain ⟨s3, h3, hr⟩ := Option.map_eq_some_iff.mp h
  cases hr
  exact sendDataSizeMsg_inp h3

/-- A data message that is old or damaged. -/
theorem payload_notTaken {env : Env} {s s2 s' : Conn} {ret : Int} {l rest : List Byte} (hsrv : srv.nServerType = .alwayOn)
    (hfront : @FrontRead srv s s2 l rest)
    (hbad : msgPackNo s2.client.recvBuffer ≤ s.client.packRef ∨
      crcOver s2.client.recvBuffer packDataLen (crcLength s2.client.recvBuffer) ≠ s2.client.recvBuffer.u16 12)
    (h : processMessageBuffer srv env s = some (ret, s')) : NotTaken s ret s' rest := by
  obtain ⟨hread, -, hinp, -⟩ := hfront
  obtain ⟨-, hpack, -, -⟩ := dataRead_same hread
  have hno : takenFrame srv s = none := by
    cases ht : takenFrame srv s with
    | none => rfl
    | some t =>
      obtain ⟨n, hd, hfresh, hintact⟩ := takenFrame_iff.mp ht
      obtain ⟨rfl, rfl⟩ := hd.unique hread
      rcases hbad with hold | hcrc
      · have hnew := hfresh.packNo
        rw [hpack] at hnew
        exact absurd hold (BitVec.not_le.mpr hnew)
      · exact absurd hintact.crc hcrc
  refine notTaken_of hno ?_ h
  rw [processMessageBuffer_dataRead hread] at h
  simp only [processPayload] at h
  by_cases hold : msgPackNo s2.client.recvBuffer ≤ s2.client.packRef
  · rw [if_pos hold] at h
    cases h
    exact hinp
  · have hcrc := hbad.resolve_left (by rwa [hpack] at hold)
    have hnever : ¬ sessionOver srv s2.client := fun hover => by
      have := hover.1
      rw [hsrv] at this
      cases this
    rw [if_neg hold, if_neg hnever] at h
    split at h
    · exact (sendReTrasmit_inp h).trans hinp
    · exact (sendReTrasmit_inp (s := traceCrc s2) h).trans hinp

/-- **A message that is no request** is passed over. -/
theorem message_passed {env : Env} {s s' : Conn} {ret : Int} {l rest : List Byte} (hsrv : srv.nServerType = .alwayOn)
    (hf : IsFrame dataSizeLen wireSize l) (hfits : l.length ≤ stsvMaxBuffer) (hl : Passed srv s.client.packRef l)
    (hinp : s.sock.inp = l ++ rest) (h : processMessageBuffer srv env s = some (ret, s')) : NotTaken s ret s' rest := by
  have hhead := hf.header
  have hlen : dataSizeLen ≤ s.sock.inp.length := by
    rw [hinp, List.length_append]
    omega
  have hnext := nextHeader_front hhead hinp
  obtain ⟨htype, -, hno, -⟩ := header_congr hnext
  cases hl with
  | old hd hle =>
    obtain ⟨s2, hfront⟩ := front_read hf hfits hd hinp h
    refine payload_notTaken hsrv hfront (Or.inl ?_) h
    have hsame : s2.client.recvBuffer.slice 0 l.length = (front l).slice 0 l.length := by rw [hfront.buffer, front_slice]
    rw [(header_congr (Buf.slice_sub hsame (Nat.zero_le 0) (by omega))).2.2.1]
    exact hle
  | damaged hd h4 hcrc =>
    obtain ⟨s2, hfront⟩ := front_read hf hfits hd hinp h
    refine payload_notTaken hsrv hfront (Or.inr ?_) h
    have hsame : s2.client.recvBuffer.slice 0 l.length = (front l).slice 0 l.length := by rw [hfront.buffer, front_slice]
    have hsize := front_size hf hfits
    have h64 : stsvMaxBuffer = 65536 := rfl
    have h16 : packDataLen = 16 := rfl
    have h12 : dataSizeLen = 12 := rfl
    have hcl := crcLength_toNat (b := front l) (by omega) (by omega)
    rw [if_pos h4] at hcl
    have hlen8 : crcLength s2.client.recvBuffer = crcLength (front l) := by
      unfold crcLength
      rw [Buf.u32_congr (Buf.slice_sub hsame (Nat.zero_le _) (by omega))]
    have hover : crcOver s2.client.recvBuffer packDataLen (crcLength (front l)) =
        crcOver (front l) packDataLen (crcLength (front l)) := by
      unfold crcOver
      rw [Buf.slice_sub hsame (Nat.zero_le _) (by omega)]
    rw [hlen8, hover, Buf.u16_congr (Buf.slice_sub hsame (Nat.zero_le _) (show 12 + 2 ≤ 0 + l.length by omega))]
    exact hcrc
  | ping hty hl12 =>
    have hcall := h
    obtain ⟨s1, hh, h⟩ := header_dealt hlen h
    obtain ⟨-, rs, -, rfl⟩ := hh.eq
    have hnr : msgType (nextHeader s) ≠ StSockMsg.register := by rw [← htype, hty]; decide
    have hnt : msgType (nextHeader s) ≠ StSockMsg.retrasmit := by rw [← htype, hty]; decide
    simp only [processMessage] at h
    refine notTaken_of (header_untaken fun hd => hd.notPing (htype ▸ hty)) ?_ hcall
    rw [if_neg hnr, if_neg hnt, if_pos (htype ▸ hty)] at h
    cases h
    show s.sock.inp.drop dataSizeLen = rest
    rw [hinp, ← hl12, List.drop_left]
  | retrasmit hty hl12 =>
    have hcall := h
    obtain ⟨s1, hh, h⟩ := header_dealt hlen h
    obtain ⟨-, rs, -, rfl⟩ := hh.eq
    have hnr : msgType (nextHeader s) ≠ StSockMsg.register := by rw [← htype, hty]; decide
    simp only [processMessage] at h
    refine notTaken_of (header_untaken fun hd => hd.notRetrasmit (htype ▸ hty)) ?_ hcall
    rw [if_neg hnr, if_pos (htype ▸ hty)] at h
    have hrest : s.sock.inp.drop dataSizeLen = rest := by rw [hinp, ← hl12, List.drop_left]
    exact (processRetrasmit_inp h).trans hrest
  | unknown hk hty hl12 =>
    have hcall := h
    obtain ⟨s1, hh, h⟩ := header_dealt hlen h
    obtain ⟨-, rs, -, rfl⟩ := hh.eq
    have hk' := isKnown_congr hnext hk
    have h0 := hk'.fromID
    have hlt := hk'.fromIDLt
    simp only [processMessage, processDefault] at h
    refine notTaken_of (header_untaken fun hd => hd.type (htype ▸ hty)) ?_ hcall
    rw [if_neg hk'.notRegister, if_neg hk'.notRetrasmit, if_neg hk'.notPing, if_neg (by omega), if_pos (htype ▸ hty)] at h
    cases h
    show s.sock.inp.drop dataSizeLen = rest
    rw [hinp, ← hl12, List.drop_left]

/-- Where the stream ends the client goes offline, and no more. -/
theorem message_ended {env : Env} {s s' : Conn} {ret : Int} (hinp : s.sock.inp = [])
    (h : processMessageBuffer srv env s = some (ret, s')) :
    ret ≠ 0 ∧ s'.client.online = false ∧ Untouched s s' := by
  have hno : takenFrame srv s = none := by
    cases ht : takenFrame srv s with
    | none => rfl
    | some t =>
      obtain ⟨n, hd, -, -⟩ := takenFrame_iff.mp ht
      obtain ⟨hlen, -⟩ := hd.eq
      rw [hinp] at hlen
      exact absurd hlen (by decide)
  obtain ⟨hret, hun⟩ := message_untaken hno h
  refine ⟨by rw [hret]; decide, ?_, hun⟩
  unfold processMessageBuffer at h
  cases hr : readFrom 0 dataSizeLen (startMessage s) with
  | none =>
    rw [hr] at h
    cases h
  | some x =>
    obtain ⟨n, s1⟩ := x
    obtain ⟨got, rs, -, hcase, -⟩ := readFrom_blocking hr
    have hn : n = 0 := by
      rcases hcase with ⟨-, h2, -⟩ | ⟨h1, -⟩
      · have hlen : (startMessage s).sock.inp.length = 0 := congrArg List.length hinp
        rw [hlen] at h2
        exact absurd h2 (by decide)
      · exact h1
    rw [hr] at h
    subst hn
    cases h
    rfl

/-! ## The account -/

/-- How many messages the thread has dealt with, what the handler was entered with, and
    whether the parts and the calls so far leave big data or a file ready. -/
structure Ledger where
  taken : Nat
  delivered : List (BitVec 32 × List (List Byte))
  bigReady : Bool
  fileReady : Bool

/-- What a call leaves of a ready flag. -/
def Call.bigReady : Call → Bool → Bool
  | .freeBigData, _ => false
  | _, ready => ready

def Call.fileReady : Call → Bool → Bool
  | .freeFileData, _ => false
  | _, ready => ready

/-- A poll and the message after it, whose part counts if the handler is next; and the calls
    that free an upload. -/
def ledger (items : List (Item srv)) (n : Ledger) (e : Ev) (s : Slot) : Ledger :=
  match e with
  | .message _ =>
    if s.phase = .handling then
      { taken := n.taken + 1
        delivered := n.delivered ++ [(s.conn.client.packRef, received s.conn.client)]
        bigReady := ((items[n.taken]?.bind Item.part).map fun p => p.bigReady n.bigReady).getD n.bigReady
        fileReady := ((items[n.taken]?.bind Item.part).map fun p => p.fileReady n.fileReady).getD n.fileReady }
    else { n with taken := n.taken + 1 }
  | .call _ a => { n with bigReady := a.bigReady n.bigReady, fileReady := a.fileReady n.fileReady }
  | _ => n

/-- Where a connection is with its client's stream. -/
structure Delivering (items : List (Item srv)) (idx : Nat) (start : Disk) (p : Slot × Ledger) : Prop where
  delivered : p.2.delivered = requests (items.take p.2.taken)
  inHand : p.1.phase = .handling → p.2.delivered.getLast?.map Prod.snd = some (received p.1.conn.client)
  index : p.1.conn.client.idx.toNat = idx
  files : p.1.conn.fs = (stored idx (items.take p.2.taken) start).files
  current : AtCurrent p.1.conn.client (stored idx (items.take p.2.taken) start)
  bigReady : p.1.conn.client.bigDataReady = p.2.bigReady
  fileReady : p.1.conn.client.fileDataReady = p.2.fileReady
  stream : p.1.conn.client.online = true → p.2.taken ≤ items.length ∧ p.1.conn.sock.inp = wire (items.drop p.2.taken) ∧
    InSequence p.1.conn.client.packRef (stored idx (items.take p.2.taken) start).current.isSome (items.drop p.2.taken)

theorem requests_append (is js : List (Item srv)) : requests (is ++ js) = requests is ++ requests js := by
  induction is with
  | nil => rfl
  | cons i is ih =>
    cases i with
    | request r =>
      simp only [List.cons_append, requests]
      rw [ih]
    | other l => exact ih

/-- Item `n`, and what is behind it. -/
structure NextItem (items : List (Item srv)) (n : Nat) (i : Item srv) (is : List (Item srv)) : Prop where
  lt : n < items.length
  get : items[n]? = some i
  drop : items.drop (n + 1) = is
  requests : requests (items.take (n + 1)) = requests (items.take n) ++ Socket.requests [i]
  stored : ∀ idx d, stored idx (items.take (n + 1)) d = (stored idx (items.take n) d).after idx i.part

theorem nextItem {items is : List (Item srv)} {n : Nat} {i : Item srv} (h : items.drop n = i :: is) : NextItem items n i is := by
  have hget : items[n]? = some i := by
    rw [← List.head?_drop, h]
    rfl
  have hlt : n < items.length := by
    by_contra hle
    rw [List.drop_eq_nil_of_le (by omega)] at h
    cases h
  refine ⟨hlt, hget, ?_, ?_, fun idx d => ?_⟩
  · rw [← List.drop_drop, h]
    rfl
  · rw [List.take_add_one, hget, requests_append]
    rfl
  · rw [List.take_add_one, hget]
    unfold stored
    rw [List.foldl_append]
    rfl

/-- A disk has a current file once one was named. -/
theorem after_begun {r : Request srv} {d : Disk} {idx : Nat} (hcur : r.goesOn = true → d.current.isSome = true) :
    (d.after idx r.part).current.isSome = (d.current.isSome || r.names) := by
  unfold Request.goesOn at hcur
  unfold Request.names
  cases hp : r.part with
  | none => exact (Bool.or_false _).symm
  | some p =>
    rw [hp] at hcur
    simp only [Option.any_some, Disk.after, Part.apply, Part.named] at hcur ⊢
    cases hk : p.kind with
    | big => simp
    | file =>
      cases hfirst : p.first with
      | true => simp
      | false => simpa using hcur (by simp [hk, hfirst])

/-- What a call does to the ready flags. -/
theorem call_ready {env : Env} {s s' : Conn} {a : Call} {r : Reply} (h : doCall srv env s a = some (r, s')) :
    s'.client.bigDataReady = a.bigReady s.client.bigDataReady ∧
      s'.client.fileDataReady = a.fileReady s.client.fileDataReady := by
  cases a with
  | sendData l =>
    cases h
    have honly := stsvSendData_only s.client l
    exact ⟨honly.field (·.bigDataReady) fun _ _ => rfl, honly.field (·.fileDataReady) fun _ _ => rfl⟩
  | sendDBFile name =>
    cases h
    have honly := stsvSendDBFile_only env s.fs s.client name
    exact ⟨honly.field (·.bigDataReady) fun _ _ => rfl, honly.field (·.fileDataReady) fun _ _ => rfl⟩
  | sendDuplicateLogin =>
    obtain ⟨s1, h1, hr⟩ := Option.map_eq_some_iff.mp h
    cases hr
    rw [(sendNotice_done h1).2]
    exact ⟨rfl, rfl⟩
  | sendServerFULL =>
    obtain ⟨s1, h1, hr⟩ := Option.map_eq_some_iff.mp h
    cases hr
    rw [(sendNotice_done h1).2]
    exact ⟨rfl, rfl⟩
  | getBigData =>
    have h' : s' = (stsvGetBigData env s).2 := by
      simp only [doCall, Option.some.injEq] at h
      rw [h]
    rw [h']
    unfold stsvGetBigData
    split
    · exact ⟨rfl, rfl⟩
    · split
      · exact ⟨rfl, rfl⟩
      · simp only
        split
        · exact ⟨rfl, rfl⟩
        · exact ⟨rfl, rfl⟩
  | _ =>
    cases h
    exact ⟨rfl, rfl⟩

/-! ## Steps -/

def Ev.opens : Ev → Bool
  | .accept _ _ _ _ => true
  | _ => false

/-- The connection goes on, and if its client uploads anything, files open. -/
structure Ev.Goes (items : List (Item srv)) (e : Ev) : Prop where
  same : e.opens = false
  files : (∃ i ∈ items, i.part.isSome) → ∀ env, e = .message env → ∀ q, env.canOpen q = true

/-- A message that has left the slot's uploads alone. -/
theorem untouched_delivering {items : List (Item srv)} {idx : Nat} {start : Disk} {p : Slot × Ledger} {c : Conn} {env : Env}
    (h : Delivering items idx start p) (hph : p.1.phase = .polling) (hun : Untouched p.1.conn c)
    (hreq : requests (items.take (p.2.taken + 1)) = requests (items.take p.2.taken))
    (hstored : stored idx (items.take (p.2.taken + 1)) start = stored idx (items.take p.2.taken) start)
    (hstream : c.client.online = true → p.2.taken + 1 ≤ items.length ∧ c.sock.inp = wire (items.drop (p.2.taken + 1)) ∧
      InSequence c.client.packRef (stored idx (items.take p.2.taken) start).current.isSome (items.drop (p.2.taken + 1))) :
    Delivering items idx start ({ p.1 with conn := c }, ledger items p.2 (.message env) { p.1 with conn := c }) := by
  have hph' : p.1.phase ≠ .handling := by rw [hph]; decide
  simp only [ledger, if_neg hph']
  refine ⟨h.delivered.trans hreq.symm, fun hh => absurd hh hph', ?_, ?_, ?_, ?_, ?_, fun hon => ?_⟩
  · show c.client.idx.toNat = idx
    rw [hun.idx]
    exact h.index
  · show c.fs = _
    rw [hstored, hun.uploads.fs]
    exact h.files
  · show AtCurrent c.client _
    rw [hstored]
    exact h.current.same hun.idx hun.uploads.fileDataName
  · exact hun.uploads.bigDataReady.trans h.bigReady
  · exact hun.uploads.fileDataReady.trans h.fileReady
  · obtain ⟨h1, h2, h3⟩ := hstream hon
    refine ⟨h1, h2, ?_⟩
    show InSequence c.client.packRef (stored idx (items.take (p.2.taken + 1)) start).current.isSome _
    rw [hstored]
    exact h3

/-- **One message** of a connection that is still in step with its stream. -/
theorem message_delivering {items : List (Item srv)} {idx : Nat} {start : Disk} {env : Env} {p : Slot × Ledger} {c : Conn}
    {ret : Int} (hsrv : srv.nServerType = .alwayOn) (h : Delivering items idx start p) (hph : p.1.phase = .polling)
    (hon : p.1.conn.client.online = true) (hopen : (∃ i ∈ items, i.part.isSome) → ∀ q, env.canOpen q = true)
    (hm : processMessageBuffer srv env p.1.conn = some (ret, c)) :
    let s : Slot := if ret = 0 then
        { p.1 with conn := c, phase := .handling, handled := p.1.handled ++ [msgPackNo c.client.recvBuffer] }
      else { p.1 with conn := c }
    Delivering items idx start (s, ledger items p.2 (.message env) s) := by
  obtain ⟨hle, hinp, hseq⟩ := h.stream hon
  intro s
  cases hitems : items.drop p.2.taken with
  | nil =>
    rw [hitems] at hinp
    obtain ⟨hret, hoff, hun⟩ := message_ended hinp hm
    have hs : s = { p.1 with conn := c } := if_neg hret
    have hlen : items.length ≤ p.2.taken := List.drop_eq_nil_iff.mp hitems
    have htake : items.take (p.2.taken + 1) = items.take p.2.taken := by
      rw [List.take_of_length_le hlen, List.take_of_length_le (by omega)]
    rw [hs]
    refine untouched_delivering h hph hun (by rw [htake]) (by rw [htake]) fun hon' => ?_
    rw [hoff] at hon'
    cases hon'
  | cons i is =>
    obtain ⟨hlt, hget, hdrop, hreq, hstored⟩ := nextItem hitems
    rw [hitems] at hinp hseq
    cases i with
    | request r =>
      obtain ⟨hnew, hgoes, hrest⟩ := hseq
      have hpart : r.part.isSome → ∀ q, env.canOpen q = true := fun hsome =>
        hopen ⟨.request r, List.mem_of_getElem? hget, hsome⟩
      have htaken := message_request hsrv hinp hnew h.files h.current hgoes hpart hm
      have hs : s = { p.1 with conn := c, phase := .handling, handled := p.1.handled ++ [msgPackNo c.client.recvBuffer] } :=
        if_pos htaken.ret
      have hidx : p.1.conn.client.idx.toNat = idx := h.index
      rw [hs]
      simp only [ledger, if_true, hget, Option.bind_some, Item.part]
      refine ⟨?_, fun _ => ?_, ?_, ?_, ?_, ?_, ?_, fun _ => ⟨hlt, ?_, ?_⟩⟩
      · show p.2.delivered ++ [(c.client.packRef, received c.client)] = requests (items.take (p.2.taken + 1))
        rw [hreq, h.delivered, htaken.messages, htaken.packRef]
        rfl
      · show (p.2.delivered ++ [_]).getLast?.map Prod.snd = _
        rw [List.getLast?_concat]
        rfl
      · show c.client.idx.toNat = idx
        rw [htaken.idx]
        exact hidx
      · show c.fs = (stored idx (items.take (p.2.taken + 1)) start).files
        rw [hstored, ← hidx]
        exact hidx ▸ htaken.files
      · show AtCurrent c.client (stored idx (items.take (p.2.taken + 1)) start)
        rw [hstored]
        exact hidx ▸ htaken.current
      · show c.client.bigDataReady = _
        rw [htaken.bigReady, h.bigReady]
      · show c.client.fileDataReady = _
        rw [htaken.fileReady, h.fileReady]
      · show c.sock.inp = wire (items.drop (p.2.taken + 1))
        rw [hdrop, htaken.inp]
        rfl
      · show InSequence c.client.packRef (stored idx (items.take (p.2.taken + 1)) start).current.isSome
          (items.drop (p.2.taken + 1))
        rw [hdrop, htaken.packRef, hstored]
        show InSequence r.packNo ((stored idx (items.take p.2.taken) start).after idx r.part).current.isSome is
        rw [after_begun hgoes]
        exact hrest
    | other l =>
      obtain ⟨⟨hf, hfits, hpassed⟩, hrest⟩ := hseq
      obtain ⟨hret, hun, hinp'⟩ := message_passed hsrv hf hfits hpassed hinp hm
      have hs : s = { p.1 with conn := c } := if_neg hret
      rw [hs]
      refine untouched_delivering h hph hun (hreq.trans (List.append_nil _)) (hstored idx start) fun _ => ⟨hlt, ?_, ?_⟩
      · rw [hdrop, hinp']
        rfl
      · rw [hdrop, hun.packRef]
        exact hrest

/-- The received messages are the thread's own to change. -/
theorem call_received {env : Env} {s s' : Conn} {a : Call} {r : Reply} (h : doCall srv env s a = some (r, s')) :
    received s'.client = received s.client := by
  rw [(doCall_done h).client]
  rfl

/-- `EndPackSendData` leaves the uploads alone. -/
theorem endPacked_uploads {env : Env} {s s' : Conn} (h : EndPacked srv env s s') :
    s'.client.idx = s.client.idx ∧ SameUploads s s' := by
  cases h with
  | frame ret sock _ hw =>
    have honly := packFrame_only env s.fs s.client
    exact ⟨honly.field (·.idx) fun _ _ => rfl, honly.field (·.bigDataReady) fun _ _ => rfl,
      honly.field (·.fileDataReady) fun _ _ => rfl, honly.field (·.bigDataReadSize) fun _ _ => rfl,
      honly.field (·.bigDataReadSizeDone) fun _ _ => rfl, honly.field (·.fileDataName) fun _ _ => rfl, rfl⟩
  | confirm ret sock _ _ hw => exact ⟨rfl, rfl, rfl, rfl, rfl, rfl, rfl⟩

/-- **Every step but a new connection** keeps the account. -/
theorem step_delivering {items : List (Item srv)} {idx : Nat} {start : Disk} {p q : Slot × Ledger} {e : Ev}
    (hsrv : srv.nServerType = .alwayOn) (h : Delivering items idx start p) (hgoes : e.Goes items)
    (he : Runs.noted (step srv) (ledger items) p e = some q) : Delivering items idx start q := by
  obtain ⟨s', hs, rfl⟩ := Option.map_eq_some_iff.mp he
  cases step_stepped hs with
  | accept idx inp recvs sends sent ret rs _ _ _ => cases hgoes.same
  | handled env c hph hon hm =>
    have hd := message_delivering hsrv h hph hon (fun hpart => hgoes.files hpart env rfl) hm
    rwa [if_pos rfl] at hd
  | dropped env c ret hph hon hret hm =>
    have hd := message_delivering hsrv h hph hon (fun hpart => hgoes.files hpart env rfl) hm
    rwa [if_neg hret] at hd
  | timeout hph hon =>
    refine ⟨h.delivered, fun hh => ?_, h.index, h.files, h.current, h.bigReady, h.fileReady, fun hoff => ?_⟩
    · have hh : p.1.phase = .handling := hh
      rw [hph] at hh
      cases hh
    · cases hoff
  | endPack env c hph hc =>
    obtain ⟨-, hpack, hback, hinp⟩ := endPacked_keeps hc
    obtain ⟨hidx, hup⟩ := endPacked_uploads hc
    refine ⟨h.delivered, fun hh => ?_, ?_, hup.fs.trans h.files, h.current.same hidx hup.fileDataName,
      hup.bigDataReady.trans h.bigReady, hup.fileDataReady.trans h.fileReady, fun hon => ?_⟩
    · cases hh
    · show c.client.idx.toNat = idx
      rw [hidx]
      exact h.index
    · obtain ⟨hle, hwire, hseq⟩ := h.stream (hback hon)
      exact ⟨hle, hinp.trans hwire, hpack ▸ hseq⟩
  | call env a r c hc =>
    have hdone := doCall_done hc
    obtain ⟨hbig, hfile⟩ := call_ready hc
    have hidx : c.client.idx = p.1.conn.client.idx := by
      rw [hdone.client]
      rfl
    have hname : c.client.fileDataName = p.1.conn.client.fileDataName := by
      rw [hdone.client]
      rfl
    have hpack : c.client.packRef = p.1.conn.client.packRef := by
      rw [hdone.client]
      rfl
    refine ⟨h.delivered, fun hh => ?_, ?_, hdone.fs.trans h.files, h.current.same hidx hname, ?_, ?_, fun hon => ?_⟩
    · show _ = some (received c.client)
      rw [call_received hc]
      exact h.inHand hh
    · show c.client.idx.toNat = idx
      rw [hidx]
      exact h.index
    · show c.client.bigDataReady = a.bigReady p.2.bigReady
      rw [hbig, h.bigReady]
    · show c.client.fileDataReady = a.fileReady p.2.fileReady
      rw [hfile, h.fileReady]
    · obtain ⟨hle, hwire, hseq⟩ := h.stream (call_online hc hon)
      exact ⟨hle, hdone.inp.trans hwire, hpack ▸ hseq⟩

/-! ## Runs -/

/-- Nothing dealt with yet. -/
def opening (s : Slot) : Ledger := ⟨0, [], s.conn.client.bigDataReady, s.conn.client.fileDataReady⟩

/-- A slot with a connection whose stream is this. -/
structure Streams (items : List (Item srv)) (s : Slot) : Prop where
  server : srv.nServerType = .alwayOn
  phase : s.phase = .polling
  inp : s.conn.sock.inp = wire items
  sequence : InSequence s.conn.client.packRef false items

/-- The files as the slot finds them. -/
def Slot.disk (s : Slot) : Disk := ⟨s.conn.fs, none⟩

theorem Streams.delivering {items : List (Item srv)} {s : Slot} (hs : Streams items s) :
    Delivering items s.conn.client.idx.toNat s.disk (s, opening s) := by
  refine ⟨rfl, fun hh => ?_, rfl, rfl, fun path he => ?_, rfl, rfl, fun _ => ⟨Nat.zero_le _, hs.inp, hs.sequence⟩⟩
  · have hh : s.phase = .handling := hh
    rw [hs.phase] at hh
    cases hh
  · cases he

theorem run_delivering {items : List (Item srv)} {s0 s : Slot} {n : Ledger} {es : List Ev} (hs : Streams items s0)
    (hes : ∀ e ∈ es, e.Goes items) (h : Runs.run (Runs.noted (step srv) (ledger items)) (s0, opening s0) es = some (s, n)) :
    Delivering items s0.conn.client.idx.toNat s0.disk (s, n) := by
  exact Runs.run_inv_ok (Runs.noted (step srv) (ledger items)) (fun _ e => e.Goes items)
    (fun _ _ _ hi ho he => step_delivering hs.server hi ho he) hs.delivering ((Runs.runOk_forall _ h).mpr hes) h

/-- **Exactly the requests, once each, in order.** Whatever the pieces the stream arrives
    in, whatever is called on the slot and however the connection ends: of the messages
    dealt with so far, the handler has been entered for the requests and nothing else. -/
theorem requests_delivered {items : List (Item srv)} {s0 s : Slot} {n : Ledger} {es : List Ev} (hs : Streams items s0)
    (hes : ∀ e ∈ es, e.Goes items) (h : Runs.run (Runs.noted (step srv) (ledger items)) (s0, opening s0) es = some (s, n)) :
    n.delivered = requests (items.take n.taken) ∧
      (s.conn.client.online = true → n.taken ≤ items.length ∧ s.conn.sock.inp = wire (items.drop n.taken)) ∧
      (s.phase = .handling → n.delivered.getLast?.map Prod.snd = some (received s.conn.client)) := by
  have hd := run_delivering hs hes h
  exact ⟨hd.delivered, fun hon => ⟨(hd.stream hon).1, (hd.stream hon).2.1⟩, hd.inHand⟩

theorem zero_known : 0 ≤ (0 : BitVec 16).toInt ∧ (0 : BitVec 16).toInt < defaultServer.nMaxConnection := by decide

def requestOne : Request defaultServer :=
  ⟨0, 1, [[1, 2], [3]], none, zero_known, by decide, by decide, by simp, by decide⟩

def requestFive : Request defaultServer :=
  ⟨0, 5, [[9]], none, zero_known, by decide, by decide, by simp, by decide⟩

/-- A request, a copy of it, a PING and another request. -/
def twoRequests : List (Item defaultServer) :=
  [.request requestOne, .other requestOne.bytes, .other [0xf7, 0xff, 0, 0, 0, 0, 0, 0, 0, 0, 0, 0], .request requestFive]

theorem twoRequests_inSequence : InSequence 0 false twoRequests := by
  refine ⟨by decide +kernel, fun h => ?_, ⟨⟨by decide +kernel, by decide +kernel⟩, by decide +kernel, ?_⟩,
    ⟨⟨by decide, by decide +kernel⟩, by decide, ?_⟩, by decide +kernel, fun h => ?_, trivial⟩
  · cases h
  · exact .old (by decide +kernel) (by decide +kernel)
  · exact .ping (by decide +kernel) rfl
  · cases h

/-- In pieces, with a message queued while the first is handled. -/
theorem requests_delivered_two :
    let s0 : Slot := ⟨newConn (wire twoRequests) [some 5, none, some 7, some 100, some 30, some 1, some 30, some 30, some 30,
      some 30, some 30] [some 100, some 100], .polling, [], [], []⟩
    ∃ s n, Runs.run (Runs.noted (step defaultServer) (ledger twoRequests)) (s0, opening s0) [.message quietEnv,
        .call quietEnv (.sendData [7]), .endPack quietEnv, .message quietEnv, .message quietEnv, .message quietEnv] = some (s, n) ∧
      n.taken = 4 ∧ n.delivered = [(1, [[1, 2], [3]]), (5, [[9]])] ∧ received s.conn.client = [[9]] := by
  intro s0
  have hrun : (Runs.run (Runs.noted (step defaultServer) (ledger twoRequests)) (s0, opening s0) [.message quietEnv,
      .call quietEnv (.sendData [7]), .endPack quietEnv, .message quietEnv, .message quietEnv, .message quietEnv]).map
        (fun p => (p.2.taken, p.1.phase)) = some (4, .handling) := by decide +kernel
  obtain ⟨⟨s, n⟩, hrun, hend⟩ := Option.map_eq_some_iff.mp hrun
  obtain ⟨htaken, hph⟩ : n.taken = 4 ∧ s.phase = .handling := Prod.mk.inj hend
  have hgoes : ∀ e ∈ [Ev.message quietEnv, .call quietEnv (.sendData [7]), .endPack quietEnv, .message quietEnv,
      .message quietEnv, .message quietEnv], e.Goes twoRequests := by
    intro e he
    refine ⟨by revert e; decide, fun hpart => ?_⟩
    have hnone : ¬∃ i ∈ twoRequests, i.part.isSome := by decide
    exact absurd hpart hnone
  have hs : Streams twoRequests s0 := ⟨rfl, rfl, rfl, twoRequests_inSequence⟩
  obtain ⟨hd, -, hin⟩ := requests_delivered hs hgoes hrun
  have hall : n.delivered = [(1, [[1, 2], [3]]), (5, [[9]])] := by
    rw [hd, htaken]
    rfl
  refine ⟨s, n, hrun, htaken, hall, ?_⟩
  have hin := hin hph
  rw [hall] at hin
  exact (Option.some.inj hin).symm

end StarServer.Socket
