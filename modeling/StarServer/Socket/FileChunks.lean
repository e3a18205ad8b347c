/-
  StarServer.Socket.FileChunks — a file in chunks, one behind each frame's messages.

  A file part is eight bytes of flags and size, the name behind HEADER, and as many bytes of
  the file as there is room for; `filePayload` is what a frame's size counts past the name.
  Where the queue leaves no room at all the room is negative, and the comparison unsigned: the
  frame takes the whole rest. The chunks still cover the file. But `sizeAll` is an `int`, and
  with such a frame it can pass 2^31.

  Proved:
    * `packFrame_chunk`: one frame, from any queue and any counter;
    * `lineStep_run`: no call loses, repeats or reorders a byte of the file;
    * `file_covered_iff`: a run keeps everything, the sizes with it, exactly when each frame that
      takes the whole rest behind a crowded queue stays below 2^31;
    * `file_size_wraps`: 62 full blocks, and a file of 2^31 - 1 bytes.
-/

import StarServer.Socket.FileTransfer
import StarServer.Socket.Line

namespace StarServer.Socket

open StarServer.Memory

/-! ## A frame's file part -/

def fileFlags (b : Buf) : BitVec 32 := b.u32 (blocksEnd b)

/-- The name is there in a HEADER frame. -/
def fileNameLen (b : Buf) : Nat := if fileFlags b &&& StSockMsg.bigdataHeader ≠ 0 then 32 else 0

/-- Where the file's bytes start. -/
def fileStart (b : Buf) : Nat := blocksEnd b + 8 + fileNameLen b

def filePayload (b : Buf) : List Byte := b.slice (fileStart b) ((b.u32 8).toNat + dataSizeLen - fileStart b)

def endsFile (f : Client) : Bool := fileFlags f.sendBuffer &&& StSockMsg.bigdataEnd != 0

/-- The frames up to the first END, and that one. -/
def upToEnd : List Client → List Client
  | [] => []
  | f :: fs => if endsFile f then [f] else f :: upToEnd fs

def filePayloads (fs : List Client) : List Byte := (upToEnd fs).flatMap fun f => filePayload f.sendBuffer

/-- `sizeAll`, an `int`, counts the messages, the flag words, the name and the payload. -/
def SizeExact (f : Client) : Prop :=
  msgSize f.sendBuffer + dataSizeLen = blocksEnd f.sendBuffer + 8 + fileNameLen f.sendBuffer + (filePayload f.sendBuffer).length

/-- The frames so far carry a front of `content`, and all of it once one ends the file. -/
structure FileCovered (content : List Byte) (s : Line) : Prop where
  sent : filePayloads s.frames <+: content
  whole : (∃ f ∈ s.frames, endsFile f = true) → filePayloads s.frames = content
  sizeDone : s.conn.client.bigDataSendSizeDone.toNat = (filePayloads s.frames).length
  le : (s.conn.client.bigDataSendSizeDone.toNat : Int) ≤ s.conn.client.bigDataSendSize.toInt
  sending : s.conn.client.fileDataSending = false ↔ ∃ f ∈ s.frames, endsFile f = true
  sizes : ∀ f ∈ upToEnd s.frames, SizeExact f

/-- A file as `STSV_SendDBFile` leaves it to be sent. -/
structure FileStart (c : Client) (content : List Byte) : Prop where
  sending : c.fileDataSending = true
  size : c.bigDataSendSize = BitVec.ofNat 32 content.length
  sizeDone : c.bigDataSendSizeDone = 0

/-- While it is sent, the file opens, with the same content. -/
def StaysReadable (content : List Byte) (s : Line) : QueueCall → Prop
  | .sendData _ => True
  | .endPack env => s.conn.client.fileDataSending = true →
      fopenRead env s.conn.fs (dbFilePath s.conn.client.fileSendName.bytes) = some content

/-- There is room behind the queue, or all the rest of the file keeps `sizeAll` an `int`'s. -/
def SizeFits (s : Line) : QueueCall → Prop
  | .sendData _ => True
  | .endPack _ => s.conn.client.fileDataSending = true → sumSize s.conn.client ≤ 61440 ∨
      sumSize s.conn.client + 8 + nameLen s.conn.client + (sendRest s.conn.client).toNat < 2 ^ 31

theorem stsvSendDBFile_fileStart {env : Env} {fs : FS} {c : Client} {name content : List Byte} (hq : QueueOk c)
    (hidle : c.fileDataSending = false) (h0 : 0 ∉ name) (hlen : name.length ≤ 31)
    (hopen : fopenRead env fs (dbFilePath name) = some content) :
    FileStart (stsvSendDBFile env fs c name) content ∧
      dbFilePath (stsvSendDBFile env fs c name).fileSendName.bytes = dbFilePath name := by
  have hstate := stsvSendDBFile_starts hq hidle h0 hlen hopen
  refine ⟨⟨stsvSendDBFile_sending hidle h0 hlen hopen, hstate.size, hstate.sizeDone⟩, ?_⟩
  unfold dbFilePath
  rw [hstate.named.str, (cstr_nul_free h0).1]

/-! ## One frame -/

theorem frameTake_le (c : Client) : frameTake c ≤ (sendRest c).toNat := by
  unfold frameTake
  split <;> omega

theorem endFlag_iff (c : Client) (b : Buf) : (startFlag c ||| endFlag c b) &&& StSockMsg.bigdataEnd ≠ 0 ↔
    c.bigDataSendSizeDone + fileTake c b = c.bigDataSendSize := by
  unfold startFlag endFlag
  by_cases h : c.bigDataSendSizeDone + fileTake c b = c.bigDataSendSize
  · simp only [h, if_true, iff_true]
    split <;> decide
  · simp only [h, if_false, iff_false]
    split <;> decide

theorem toInt_eq_iff {v : BitVec 32} {n : Nat} (h : v.toNat = n) : v.toInt = n ↔ n < 2 ^ 31 := by
  have := v.isLt
  rw [BitVec.toInt_eq_toNat_cond, h]
  split
  · exact ⟨fun _ => by omega, fun _ => rfl⟩
  · exact ⟨fun he => by omega, fun hlt => by omega⟩

/-- What a frame makes of a transfer that has counted `done` bytes. -/
structure Chunk (c f : Client) (content : List Byte) (done : Nat) : Prop where
  payload : filePayload f.sendBuffer = (content.drop done).take (frameTake c)
  le : done + frameTake c ≤ content.length
  size : f.bigDataSendSize = c.bigDataSendSize
  sizeDone : f.bigDataSendSizeDone = BitVec.ofNat 32 (done + frameTake c)
  ends : endsFile f = true ↔ done + frameTake c = content.length
  sending : f.fileDataSending = false ↔ done + frameTake c = content.length
  exact : SizeExact f ↔ sumSize c ≤ 61440 ∨ sumSize c + 8 + nameLen c + (sendRest c).toNat < 2 ^ 31

/-- Where the file part is in a frame, and what its flags and name field are. -/
theorem packFrame_part {env : Env} {fs : FS} {c : Client} {data : List Byte} (hq : QueueOk c)
    (hsent : SentFile c data (packFrame env fs c).sendBuffer) :
    fileFlags (packFrame env fs c).sendBuffer = startFlag c ||| endFlag c (typedFrame c) ∧
      fileNameLen (packFrame env fs c).sendBuffer = nameLen c ∧
      blocksEnd (packFrame env fs c).sendBuffer = sumSize c + 12 := by
  have hend : blocksEnd (packFrame env fs c).sendBuffer = sumSize c + 12 := by
    have hsum := sumSize_eq c
    have h12 : dataSizeLen = 12 := rfl
    rw [(packFrame_blocks hq).2]
    omega
  have hflags : fileFlags (packFrame env fs c).sendBuffer = startFlag c ||| endFlag c (typedFrame c) := by
    unfold fileFlags
    rw [hend]
    exact hsent.flags
  refine ⟨hflags, ?_, hend⟩
  unfold fileNameLen nameLen
  rw [hflags]
  by_cases h0 : c.bigDataSendSizeDone = 0
  · rw [if_pos h0, if_pos (flags_first _ h0)]
  · rw [if_neg h0, if_neg (flags_next _ h0).1]

/-- **One chunk**, behind any queue. -/
theorem packFrame_chunk {env : Env} {fs : FS} {c : Client} {content : List Byte} {done : Nat} (hq : QueueOk c)
    (hs : c.fileDataSending = true) (hopen : fopenRead env fs (dbFilePath c.fileSendName.bytes) = some content)
    (hsize : c.bigDataSendSize = BitVec.ofNat 32 content.length) (hdone : c.bigDataSendSizeDone = BitVec.ofNat 32 done)
    (hle : done ≤ content.length) (hlen : content.length < 2 ^ 31) : Chunk c (packFrame env fs c) content done := by
  have hdoneNat : c.bigDataSendSizeDone.toNat = done := by
    rw [hdone, BitVec.toNat_ofNat]
    omega
  have hrest : (sendRest c).toNat = content.length - done := by
    unfold sendRest
    rw [BitVec.toNat_sub, hdoneNat, hsize, BitVec.toNat_ofNat]
    omega
  have htakeLe := frameTake_le c
  obtain ⟨htake, -⟩ := take_eq hq (show (sendRest c).toNat < 2 ^ 31 by omega)
  have hsent := packFrame_sent hq hs hopen (show (sendRest c).toNat < 2 ^ 31 by omega) (by omega)
  rw [hdoneNat] at hsent
  have hdataLen : ((content.drop done).take (frameTake c)).length = frameTake c := by
    rw [List.length_take, List.length_drop]
    omega
  have hall := hsent.sizeAll
  rw [hdataLen] at hall
  have h12 : dataSizeLen = 12 := rfl
  obtain ⟨hflags, hname, hend⟩ := packFrame_part hq hsent
  have hpayload : filePayload (packFrame env fs c).sendBuffer = (content.drop done).take (frameTake c) := by
    have hbytes := hsent.bytes
    rw [hdataLen] at hbytes
    have hcount : ((packFrame env fs c).sendBuffer.u32 8).toNat + dataSizeLen - fileStart (packFrame env fs c).sendBuffer =
        frameTake c := by
      unfold fileStart
      omega
    have hstart : fileStart (packFrame env fs c).sendBuffer = sumSize c + 20 + nameLen c := by
      unfold fileStart
      omega
    unfold filePayload
    rw [hcount, hstart]
    exact hbytes
  have hnext : c.bigDataSendSizeDone + fileTake c (typedFrame c) = BitVec.ofNat 32 (done + frameTake c) := by
    apply BitVec.eq_of_toNat_eq
    rw [BitVec.toNat_add, htake, hdoneNat, BitVec.toNat_ofNat]
  have hover : BitVec.ofNat 32 (done + frameTake c) = BitVec.ofNat 32 content.length ↔
      done + frameTake c = content.length := by
    rw [← BitVec.toNat_inj, BitVec.toNat_ofNat, BitVec.toNat_ofNat]
    omega
  obtain ⟨-, h2, h3, h4⟩ := packFrame_next hs hopen
  refine ⟨hpayload, by omega, h2, h3.trans hnext, ?_, ?_, ?_⟩
  · unfold endsFile
    rw [hflags, bne_iff_ne, endFlag_iff, hnext, hsize]
    exact hover
  · rw [h4, decide_eq_false_iff_not, Classical.not_not, hnext, hsize]
    exact hover
  · -- the size as a `u32` is exact, so as an `int` it is below 2^31
    have hint := toInt_eq_iff hall
    have hexact : SizeExact (packFrame env fs c) ↔ sumSize c + 8 + nameLen c + frameTake c < 2 ^ 31 := by
      rw [← hint]
      unfold SizeExact msgSize
      rw [hpayload, hdataLen, hend, hname]
      push_cast
      omega
    have hn := nameLen_le c
    rw [hexact]
    unfold frameTake
    by_cases hroom : sumSize c ≤ 61440
    · rw [if_pos hroom]
      exact ⟨fun _ => Or.inl hroom, fun _ => by omega⟩
    · rw [if_neg hroom]
      exact ⟨Or.inr, fun h => h.resolve_left hroom⟩

/-! ## The frames up to END -/

theorem upToEnd_open {fs : List Client} (h : ∀ f ∈ fs, endsFile f = false) (gs : List Client) :
    upToEnd (fs ++ gs) = fs ++ upToEnd gs := by
  induction fs with
  | nil => rfl
  | cons f fs ih =>
    have hf := h f List.mem_cons_self
    simp only [List.cons_append, upToEnd, hf]
    rw [ih fun g hg => h g (List.mem_cons_of_mem _ hg)]
    rfl

theorem upToEnd_ended {fs : List Client} (h : ∃ f ∈ fs, endsFile f = true) (gs : List Client) :
    upToEnd (fs ++ gs) = upToEnd fs := by
  induction fs with
  | nil =>
    obtain ⟨f, hf, -⟩ := h
    cases hf
  | cons f fs ih =>
    by_cases hf : endsFile f = true
    · simp [upToEnd, hf]
    · have hrest : ∃ g ∈ fs, endsFile g = true := by
        obtain ⟨g, hg, he⟩ := h
        rcases List.mem_cons.mp hg with rfl | hg
        · exact absurd he hf
        · exact ⟨g, hg, he⟩
      simp [upToEnd, hf, ih hrest]

/-- Before END, every frame so far counts, and the next one. -/
theorem upToEnd_next {fs : List Client} (h : ∀ f ∈ fs, endsFile f = false) (f : Client) :
    upToEnd fs = fs ∧ upToEnd (fs ++ [f]) = fs ++ [f] := by
  have hone : upToEnd [f] = [f] := by
    simp only [upToEnd]
    split <;> rfl
  have hall := upToEnd_open h []
  rw [List.append_nil, upToEnd, List.append_nil] at hall
  exact ⟨hall, by rw [upToEnd_open h, hone]⟩

theorem filePayloads_open {fs : List Client} (h : ∀ f ∈ fs, endsFile f = false) (f : Client) :
    filePayloads (fs ++ [f]) = filePayloads fs ++ filePayload f.sendBuffer := by
  obtain ⟨hall, hnext⟩ := upToEnd_next h f
  unfold filePayloads
  rw [hnext, hall]
  simp

/-! ## A run -/

/-- The transfer and the frames so far, the size fields apart. -/
structure FileRun (content : List Byte) (s : Line) : Prop where
  queueOk : QueueOk s.conn.client
  size : s.conn.client.bigDataSendSize = BitVec.ofNat 32 content.length
  sizeDone : s.conn.client.bigDataSendSizeDone = BitVec.ofNat 32 (filePayloads s.frames).length
  sent : filePayloads s.frames <+: content
  opened : s.conn.client.fileDataSending = true → ∀ f ∈ s.frames, endsFile f = false
  ended : s.conn.client.fileDataSending = false → (∃ f ∈ s.frames, endsFile f = true) ∧ filePayloads s.frames = content

theorem fileRun_start {c : Conn} {content : List Byte} (hq : QueueOk c.client) (h : FileStart c.client content) :
    FileRun content (startLine c) := by
  refine ⟨hq, h.size, h.sizeDone, List.nil_prefix, fun _ f hf => absurd hf List.not_mem_nil, ?_⟩
  intro hs
  have hsending : c.client.fileDataSending = true := h.sending
  have hs : c.client.fileDataSending = false := hs
  rw [hsending] at hs
  cases hs

/-- A step that sends no chunk: frames follow only when the file has ended. -/
theorem FileRun.same {content : List Byte} {s s' : Line} (h : FileRun content s) (hq : QueueOk s'.conn.client)
    (hsame : SameSend s.conn.client s'.conn.client) {gs : List Client} (hframes : s'.frames = s.frames ++ gs)
    (hgs : s.conn.client.fileDataSending = true → gs = []) :
    FileRun content s' ∧ upToEnd s'.frames = upToEnd s.frames := by
  have hup : upToEnd s'.frames = upToEnd s.frames := by
    rw [hframes]
    by_cases hs : s.conn.client.fileDataSending = true
    · rw [hgs hs, List.append_nil]
    · exact upToEnd_ended (h.ended (by simpa using hs)).1 gs
  have hpayloads : filePayloads s'.frames = filePayloads s.frames := by
    unfold filePayloads
    rw [hup]
  refine ⟨⟨hq, hsame.size.trans h.size, ?_, hpayloads ▸ h.sent, ?_, ?_⟩, hup⟩
  · rw [hsame.done, hpayloads]
    exact h.sizeDone
  · intro hs
    rw [hsame.sending] at hs
    rw [hframes, hgs hs, List.append_nil]
    exact h.opened hs
  · intro hs
    rw [hsame.sending] at hs
    obtain ⟨⟨f, hf, he⟩, hall⟩ := h.ended hs
    rw [hpayloads, hframes]
    exact ⟨⟨f, List.mem_append_left _ hf, he⟩, hall⟩

variable {srv : Server}

/-- A step that sends the next chunk. -/
theorem FileRun.next {content : List Byte} {s s' : Line} {f : Client} (h : FileRun content s)
    (hs : s.conn.client.fileDataSending = true)
    (hchunk : Chunk s.conn.client f content (filePayloads s.frames).length) (hq : QueueOk s'.conn.client)
    (hsame : SameSend f s'.conn.client) (hout : s'.frames = s.frames ++ [f]) :
    FileRun content s' ∧ upToEnd s'.frames = upToEnd s.frames ++ [f] := by
  obtain ⟨hpayload, hnext, hsize, hdone, hends, hsending, -⟩ := hchunk
  have hopen := h.opened hs
  obtain ⟨hall, hlast⟩ := upToEnd_next hopen f
  have hprefix : filePayloads s.frames = content.take (filePayloads s.frames).length :=
    List.prefix_iff_eq_take.mp h.sent
  have hpayloads : filePayloads s'.frames = content.take ((filePayloads s.frames).length + frameTake s.conn.client) := by
    rw [hout, filePayloads_open hopen, hpayload, List.take_add]
    exact congrArg (· ++ _) hprefix
  have hcount : (filePayloads s'.frames).length = (filePayloads s.frames).length + frameTake s.conn.client := by
    rw [hpayloads, List.length_take]
    omega
  refine ⟨⟨hq, ?_, ?_, ?_, ?_, ?_⟩, by rw [hout, hlast, hall]⟩
  · exact hsame.size.trans (hsize.trans h.size)
  · rw [hcount]
    exact hsame.done.trans hdone
  · rw [hpayloads]
    exact List.take_prefix _ _
  · rw [hsame.sending, hout]
    intro hs' g hg
    rcases List.mem_append.mp hg with hg | hg
    · exact hopen g hg
    · rw [List.mem_singleton.mp hg, Bool.eq_false_iff]
      intro he
      have hover := hsending.mpr (hends.mp he)
      rw [hover] at hs'
      cases hs'
  · rw [hsame.sending]
    intro hover
    have hfull := hsending.mp hover
    refine ⟨⟨f, by rw [hout]; simp, hends.mpr hfull⟩, ?_⟩
    rw [hpayloads, hfull, List.take_length]

/-- **One call**: the chunks go on covering the file, and the sizes stay exact exactly when
    the call's frame fits an `int`. -/
theorem lineStep_run {content : List Byte} {s s' : Line} {e : QueueCall} (hlen : content.length < 2 ^ 31)
    (hi : FileRun content s) (hread : StaysReadable content s e) (h : lineStep srv s e = some s') :
    FileRun content s' ∧
      ((∀ f ∈ upToEnd s'.frames, SizeExact f) ↔ (∀ f ∈ upToEnd s.frames, SizeExact f) ∧ SizeFits s e) := by
  cases e with
  | sendData buffer =>
    cases h
    obtain ⟨hrun, hup⟩ := @FileRun.same _ _ { s with conn := { s.conn with client := stsvSendData s.conn.client buffer } } hi
      (sendData_ok hi.queueOk buffer) (stsvSendData_same _ buffer) [] (List.append_nil _).symm (fun _ => rfl)
    exact ⟨hrun, by rw [hup]; exact ⟨fun hall => ⟨hall, trivial⟩, And.left⟩⟩
  | endPack env =>
    by_cases hs : s.conn.client.fileDataSending = true
    · -- a chunk
      rcases lineStep_endPack h with ⟨-, hout, on, hc⟩ | ⟨htest, -⟩
      · have hle := hi.sent.length_le
        have hchunk := packFrame_chunk hi.queueOk hs (hread hs) hi.size hi.sizeDone hle hlen
        obtain ⟨hrun, hup⟩ := hi.next hs hchunk (queueOk_empty (by rw [hc])) (by rw [hc]; exact ⟨rfl, rfl, rfl, rfl⟩) hout
        refine ⟨hrun, ?_⟩
        rw [hup]
        constructor
        · intro hsizes
          refine ⟨fun f hf => hsizes f (List.mem_append_left _ hf), fun _ => ?_⟩
          exact hchunk.exact.mp (hsizes _ (List.mem_append_right _ (List.mem_singleton_self _)))
        · intro hboth f hf
          obtain ⟨hsizes, hfits⟩ := hboth
          rcases List.mem_append.mp hf with hf | hf
          · exact hsizes f hf
          · rw [List.mem_singleton.mp hf]
            exact hchunk.exact.mpr (hfits hs)
      · simp [endPackTest, hs] at htest
    · have hidle : s.conn.client.fileDataSending = false := by simpa using hs
      have hfits : SizeFits s (.endPack env) := fun hsend => absurd hsend hs
      have hnone : s.conn.client.fileDataSending = true → ∀ gs : List Client, gs = [] := fun hsend => absurd hsend hs
      rcases lineStep_endPack h with ⟨-, hout, on, hc⟩ | ⟨-, hout, on, done, hc⟩
      · obtain ⟨hname, hsend, hsize, hdone⟩ := @packFrame_idle env s.conn.fs s.conn.client hidle
        obtain ⟨hrun, hup⟩ := hi.same (queueOk_empty (by rw [hc])) (by rw [hc]; exact ⟨hname, hsend, hsize, hdone⟩) hout
          fun hsend => hnone hsend _
        exact ⟨hrun, by rw [hup]; exact ⟨fun hall => ⟨hall, hfits⟩, And.left⟩⟩
      · obtain ⟨hrun, hup⟩ := @FileRun.same content s s' hi (by rw [hc]; exact ⟨hi.queueOk.count, hi.queueOk.sizes⟩)
          (by rw [hc]; exact ⟨rfl, rfl, rfl, rfl⟩) [] (by rw [hout, List.append_nil]) (fun _ => rfl)
        exact ⟨hrun, by rw [hup]; exact ⟨fun hall => ⟨hall, hfits⟩, And.left⟩⟩

theorem FileRun.covered {content : List Byte} {s : Line} (hlen : content.length < 2 ^ 31) (h : FileRun content s)
    (hsizes : ∀ f ∈ upToEnd s.frames, SizeExact f) : FileCovered content s := by
  have hle := h.sent.length_le
  have hdone : s.conn.client.bigDataSendSizeDone.toNat = (filePayloads s.frames).length := by
    rw [h.sizeDone, BitVec.toNat_ofNat]
    omega
  have hsending : s.conn.client.fileDataSending = false ↔ ∃ f ∈ s.frames, endsFile f = true := by
    refine ⟨fun hs => (h.ended hs).1, ?_⟩
    intro hend
    obtain ⟨f, hf, he⟩ := hend
    by_contra hs
    have hno := h.opened (by simpa using hs) f hf
    rw [he] at hno
    cases hno
  refine ⟨h.sent, fun hend => (h.ended (hsending.mpr hend)).2, hdone, ?_, hsending, hsizes⟩
  have hint : (BitVec.ofNat 32 content.length).toInt = content.length := by
    refine (toInt_eq_iff ?_).mpr hlen
    rw [BitVec.toNat_ofNat]
    omega
  rw [hdone, h.size, hint]
  omega

variable (srv)

/-- **The chunks cover the file exactly once**, over every run of calls from any queue, exactly
    when every frame's size is an `int`'s: the size field is all that can go wrong. -/
theorem file_covered_iff {c : Conn} {content : List Byte} {h : List QueueCall} {t : Line} (hq : QueueOk c.client)
    (hstart : FileStart c.client content) (hlen : content.length < 2 ^ 31)
    (hread : Runs.RunOk (lineStep srv) (StaysReadable content) (startLine c) h)
    (hrun : Runs.run (lineStep srv) (startLine c) h = some t) :
    Runs.RunAll (lineStep srv) (FileCovered content) (startLine c) h ↔
      Runs.RunOk (lineStep srv) SizeFits (startLine c) h := by
  have hi := fileRun_start hq hstart
  have hp : FileCovered content (startLine c) := hi.covered hlen fun f hf => absurd hf List.not_mem_nil
  refine Runs.runAll_iff_runOk_of (lineStep srv) ?_ hi hp hread hrun
  intro s e s' hi hp ha he
  obtain ⟨hi', hsizes⟩ := lineStep_run hlen hi ha he
  refine ⟨⟨fun hp' => (hsizes.mp hp'.sizes).2, fun hok => hi'.covered hlen (hsizes.mpr ⟨hp.sizes, hok⟩)⟩, fun _ => hi'⟩

/-- A file of two bytes on a fresh slot, behind one message. -/
theorem file_covered_twoBytes :
    let fs : FS := fun _ => some [65, 66]
    let c : Conn := { newConn [] [] [some 100] with
      fs := fs, client := stsvSendDBFile quietEnv fs (newConn [] [] []).client (str "a") }
    (∃ t, Runs.run (lineStep defaultServer) (startLine c) [.sendData [7], .endPack quietEnv] = some t ∧
      filePayloads t.frames = [65, 66] ∧ t.conn.client.fileDataSending = false) ∧
    Runs.RunAll (lineStep defaultServer) (FileCovered [65, 66]) (startLine c) [.sendData [7], .endPack quietEnv] := by
  intro fs c
  have hresult : (Runs.run (lineStep defaultServer) (startLine c) [.sendData [7], .endPack quietEnv]).map
      (fun t => (filePayloads t.frames, t.conn.client.fileDataSending)) = some ([65, 66], false) := by decide +kernel
  obtain ⟨t, hrun, ht⟩ := Option.map_eq_some_iff.mp hresult
  obtain ⟨hpayloads, hover⟩ := Prod.mk.inj ht
  have hq : QueueOk (newConn [] [] []).client := queueOk_empty rfl
  have hstart := @stsvSendDBFile_starts quietEnv fs _ (str "a") [65, 66] hq rfl (by decide) (by decide) rfl
  obtain ⟨hfile, -⟩ := @stsvSendDBFile_fileStart quietEnv fs _ (str "a") [65, 66] hq rfl (by decide) (by decide) rfl
  refine ⟨⟨t, hrun, hpayloads, hover⟩, ?_⟩
  refine (@file_covered_iff defaultServer c [65, 66] _ t hstart.queue hfile (by decide) ?_ hrun).mpr ?_
  · refine ⟨trivial, ?_⟩
    intro s hs
    cases hs
    exact ⟨fun _ => rfl, fun _ _ => trivial⟩
  · refine ⟨trivial, ?_⟩
    intro s hs
    cases hs
    exact ⟨fun _ => Or.inl (by decide +kernel), fun _ _ => trivial⟩

/-- The slot `c` with the largest file there can be. -/
def fullFileConn (c : Client) : Conn := { newConn [] [] [some 0] with
  fs := fun _ => some (List.replicate (2 ^ 31 - 1) 0), client := { c with bigDataSendSize := 2147483647 } }

/-- `send` refuses at once, and `WriteTo` returns. -/
theorem writeTo_refused {srv : Server} {sock : Sock} (h : sock.sends = [some 0]) (msg : Buf) (count : Nat) :
    ∃ r, writeTo srv msg count sock = some r := by
  unfold writeTo
  split
  · exact ⟨_, rfl⟩
  · rw [h]
    simp only [sendLoop]
    by_cases hc : 0 < count
    · simp [hc]
    · simp [hc]

theorem endPackFrame_refused {srv : Server} {env : Env} {s : Conn} (h : s.sock.sends = [some 0]) :
    ∃ s', endPackFrame srv env s = some s' := by
  obtain ⟨⟨ret, sock⟩, hw⟩ := @writeTo_refused srv s.sock h (packFrame env s.fs s.client).sendBuffer
    (packFrame env s.fs s.client).sendDataSize
  unfold endPackFrame
  simp only
  rw [hw]
  exact ⟨_, rfl⟩

/-- Behind 62 full blocks such a file's first frame has a negative `sizeAll`. -/
theorem fullFile_wraps {c : Client} (hq : QueueOk c) (hsum : sumSize c = 63616) (hsending : c.fileDataSending = true)
    (hdone : c.bigDataSendSizeDone = 0) : FileStart (fullFileConn c).client (List.replicate (2 ^ 31 - 1) 0) ∧
    Runs.RunOk (lineStep defaultServer) (StaysReadable (List.replicate (2 ^ 31 - 1) 0)) (startLine (fullFileConn c))
      [.endPack quietEnv] ∧
    ∃ t, Runs.run (lineStep defaultServer) (startLine (fullFileConn c)) [.endPack quietEnv] = some t ∧
      (∃ f ∈ t.frames, msgSize f.sendBuffer = -2147419993) ∧ ¬FileCovered (List.replicate (2 ^ 31 - 1) 0) t := by
  have hq : QueueOk (fullFileConn c).client := ⟨hq.count, hq.sizes⟩
  have hsum : sumSize (fullFileConn c).client = 63616 := hsum
  have hsending : (fullFileConn c).client.fileDataSending = true := hsending
  have hstart : FileStart (fullFileConn c).client (List.replicate (2 ^ 31 - 1) 0) := by
    refine ⟨hsending, ?_, hdone⟩
    rw [List.length_replicate]
    rfl
  have hname : nameLen (fullFileConn c).client = 32 := if_pos hdone
  have hrest : (sendRest (fullFileConn c).client).toNat = 2147483647 := by
    have hfile : (fullFileConn c).client.bigDataSendSize = 2147483647 := rfl
    unfold sendRest
    rw [hstart.sizeDone, hfile]
    decide
  have htest : endPackTest (fullFileConn c).client = true := by simp [endPackTest, hsending]
  have hread : StaysReadable (List.replicate (2 ^ 31 - 1) 0) (startLine (fullFileConn c)) (.endPack quietEnv) :=
    fun _ => rfl
  have hlen : (List.replicate (2 ^ 31 - 1) (0 : Byte)).length < 2 ^ 31 := by
    rw [List.length_replicate]
    omega
  obtain ⟨t, ht⟩ : ∃ t, lineStep defaultServer (startLine (fullFileConn c)) (.endPack quietEnv) = some t := by
    obtain ⟨s', hs'⟩ := @endPackFrame_refused defaultServer quietEnv (fullFileConn c) rfl
    have hcall : endPackSendData defaultServer quietEnv (fullFileConn c) = some s' := by
      rw [endPackSendData_halves, if_pos htest]
      exact hs'
    exact ⟨_, Option.map_eq_some_iff.mpr ⟨s', hcall, rfl⟩⟩
  refine ⟨hstart, ⟨hread, fun _ _ => trivial⟩, t, by simp [Runs.run, ht], ?_, ?_⟩
  · rcases lineStep_endPack ht with ⟨-, hout, -⟩ | ⟨hno, -⟩
    · refine ⟨packFrame quietEnv (fullFileConn c).fs (fullFileConn c).client, by rw [hout]; simp [startLine], ?_⟩
      have hsize := @packFrame_size quietEnv (fullFileConn c).fs (fullFileConn c).client _ hq hsending rfl (by omega)
      have htake : frameTake (fullFileConn c).client = 2147483647 := by
        unfold frameTake
        rw [hsum, hrest]
        rfl
      rw [hsum, hname, htake] at hsize
      unfold msgSize
      rw [BitVec.toInt_eq_toNat_cond, hsize]
      rfl
    · exact absurd (htest.symm.trans hno) (by decide)
  · intro hcov
    obtain ⟨-, hsizes⟩ := lineStep_run hlen (fileRun_start hq hstart) hread ht
    rcases (hsizes.mp hcov.sizes).2 hsending with hroom | hroom
    · have hroom : sumSize (fullFileConn c).client ≤ 61440 := hroom
      omega
    · have hroom : sumSize (fullFileConn c).client + 8 + nameLen (fullFileConn c).client +
        (sendRest (fullFileConn c).client).toNat < 2 ^ 31 := hroom
      omega

/-- **2^31 - 1 bytes behind 62 full blocks.** The frame takes them all, and its `sizeAll` is
    negative. -/
theorem file_size_wraps : FileStart (fullFileConn crowdedClient).client (List.replicate (2 ^ 31 - 1) 0) ∧
    Runs.RunOk (lineStep defaultServer) (StaysReadable (List.replicate (2 ^ 31 - 1) 0))
      (startLine (fullFileConn crowdedClient)) [.endPack quietEnv] ∧
    ∃ t, Runs.run (lineStep defaultServer) (startLine (fullFileConn crowdedClient)) [.endPack quietEnv] = some t ∧
      (∃ f ∈ t.frames, msgSize f.sendBuffer = -2147419993) ∧ ¬FileCovered (List.replicate (2 ^ 31 - 1) 0) t := by
  obtain ⟨hq, hsum⟩ := crowdedClient_queue
  obtain ⟨-, hsending, -, hdone⟩ : SameSend (stsvSendDBFile ⟨0, fun _ => true, 0⟩ (fun _ => some (List.replicate 10000 0))
      (Client.zero (fun _ => 0) (fun _ => 0)) (str "a")) crowdedClient := sendAll_same _ _
  exact fullFile_wraps hq hsum (hsending.trans (by decide +kernel)) (hdone.trans (by decide +kernel))

end StarServer.Socket
