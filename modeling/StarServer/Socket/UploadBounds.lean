/-
  StarServer.Socket.UploadBounds — where the upload handlers read in the frame.

  Both handlers take the upload part to start behind the table and its blocks, by a `u16`
  sum, and to reach to the end of the frame, by a `size_t` difference. `partOffset` is the
  same place over the integers. Nothing compares either with the frame.

  Proved:
    * `bigData_appends`, `fileData_appends`: what a handler writes to disk is one range of
      `recvBuffer`, or nothing;
    * `partExact_iff`: the flags, the name and that range are inside the frame, and the range
      is all that is left of it, exactly when the place is a `u16` and flags and name fit
      behind it;
    * `upload_inside_iff`: so for every frame that is taken;
    * `upload_past_frame`: a frame that ends before the flags, whose payload is -8 bytes.
-/

import StarServer.Socket.BigUpload
import StarServer.Socket.FileTransfer

namespace StarServer.Socket

open StarServer.Memory

/-! ## The ranges -/

/-- Where the upload part starts: behind the header, the table and the blocks. -/
def partOffset (b : Buf) : Int := packDataLen + 2 * numData b + tableBytes (sizeTable b (numData b).toNat)

/-- One past the last byte received for the frame. -/
def frameEnd (b : Buf) : Int := dataSizeLen + msgSize b

/-- `startDataAddr` at the `fwrite`, `skip` bytes of name behind the flags. -/
def payloadStart (b : Buf) (skip : Nat) : Nat := (packetDataSize b).toNat + 8 + skip

/-- `bigDataPackSize` at the `fwrite`. -/
def payloadSize (b : Buf) (skip : Nat) : Nat := (bigDataPackSize b - BitVec.ofNat 64 skip).toNat

/-- The part lies inside the frame, and its payload is all that is left behind the name. -/
structure PartExact (b : Buf) (skip : Nat) : Prop where
  flags : (packetDataSize b).toNat + 8 ≤ frameEnd b
  name : (packetDataSize b).toNat + 8 + skip ≤ frameEnd b
  payload : payloadStart b skip + payloadSize b skip ≤ frameEnd b
  exact : (payloadSize b skip : Int) = frameEnd b - (partOffset b + 8 + skip)

structure UploadsInside (b : Buf) : Prop where
  big : CarriesBig b → PartExact b 0
  file : CarriesFile b → PartExact b (nameSkip b)

/-- The first file part carries a name. -/
def namedPart (b : Buf) : Nat :=
  if CarriesFile b ∧ b.u32 (partOffset b).toNat &&& StSockMsg.bigdataHeader ≠ 0 then 32 else 0

/-- The place is a `u16`, and what stands there fits. -/
structure UploadFits (b : Buf) : Prop where
  nonneg : 0 ≤ partOffset b
  lt : partOffset b < 65536
  fits : partOffset b + 8 + namedPart b ≤ frameEnd b

/-! ## What is written to disk -/

/-- Nothing, or one file whose end is the `n` bytes at `a`. -/
def Appends (b : Buf) (a n : Nat) (fs fs' : FS) : Prop :=
  fs' = fs ∨ ∃ path l, fs' = Function.update fs path (some (l ++ b.slice a n))

/-- The `fwrite`, with the `fopen` before it, changes one file. -/
theorem writeUpload_file {c : Client} {file : Option FS} {fs : FS} {path : Path} {start : Nat} {size : BitVec 64}
    (hfile : ∀ f, file = some f → ∃ l, f = Function.update fs path (some l)) :
    (writeUpload c file fs path start size).2 = fs ∨ ∃ l, (writeUpload c file fs path start size).2 =
      Function.update fs path (some (l ++ c.recvBuffer.slice start size.toNat)) := by
  cases file with
  | none => exact Or.inl rfl
  | some f =>
    obtain ⟨l, rfl⟩ := hfile f rfl
    refine Or.inr ⟨l, ?_⟩
    simp only [writeUpload, fwriteEnd, Function.update_self, Option.getD_some, Function.update_idem]

theorem writeUpload_appends {c : Client} {file : Option FS} {fs : FS} {path : Path} {start : Nat} {size : BitVec 64}
    (hfile : ∀ f, file = some f → ∃ l, f = Function.update fs path (some l)) :
    Appends c.recvBuffer start size.toNat fs (writeUpload c file fs path start size).2 := by
  rcases @writeUpload_file c file fs path start size hfile with h | ⟨l, h⟩
  · exact Or.inl h
  · exact Or.inr ⟨path, l, h⟩

theorem fopenWrite_update {env : Env} {fs f : FS} {path : Path} (h : fopenWrite env fs path = some f) :
    ∃ l, f = Function.update fs path (some l) := by
  unfold fopenWrite at h
  split at h
  · cases h
    exact ⟨_, rfl⟩
  · cases h

theorem fopenAppend_update {env : Env} {fs f : FS} {path : Path} (h : fopenAppend env fs path = some f) :
    ∃ l, f = Function.update fs path (some l) := by
  unfold fopenAppend at h
  split at h
  · cases h
    exact ⟨_, rfl⟩
  · cases h

theorem bigData_appends (env : Env) (fs : FS) (c : Client) :
    Appends c.recvBuffer (payloadStart c.recvBuffer 0) (payloadSize c.recvBuffer 0) fs
      (proessMessageBigData env fs c).2.2 := by
  have hzero : payloadSize c.recvBuffer 0 = (bigDataPackSize c.recvBuffer).toNat := by
    unfold payloadSize
    rw [BitVec.sub_zero]
  rw [hzero]
  have h := bigData_handled env fs c
  generalize proessMessageBigData env fs c = r at h ⊢
  cases h with
  | unopened => exact Or.inl rfl
  | first f _ hopen =>
    rw [(finishBigData_done _ _ _ _).fs]
    apply writeUpload_appends
    intro f' hf
    cases hf
    exact fopenWrite_update hopen
  | next =>
    rw [(finishBigData_done _ _ _ _).fs]
    apply writeUpload_appends
    intro f hf
    exact fopenAppend_update hf
  | neither => exact Or.inl (finishBigData_done _ _ _ _).fs

theorem fileData_appends (env : Env) (fs : FS) (c : Client) :
    Appends c.recvBuffer (payloadStart c.recvBuffer (nameSkip c.recvBuffer))
      (payloadSize c.recvBuffer (nameSkip c.recvBuffer)) fs (proessMessageFileData env fs c).2.2 := by
  unfold nameSkip
  have h := fileData_handled env fs c
  generalize proessMessageFileData env fs c = r at h ⊢
  cases h with
  | unopened => exact Or.inl rfl
  | first f hfirst hopen =>
    rw [if_pos hfirst, (finishFileData_done _ _ _ _ _).fs]
    apply writeUpload_appends
    intro f' hf
    cases hf
    exact fopenWrite_update hopen
  | next hnext =>
    rw [if_neg hnext.1, (finishFileData_done _ _ _ _ _).fs]
    apply writeUpload_appends
    intro f hf
    exact fopenAppend_update hf
  | neither => exact Or.inl (finishFileData_done _ _ _ _ _).fs

/-! ## Inside the frame -/

/-- The code's place is the integer one as a `u16`. -/
theorem packetDataSize_offset (b : Buf) : ((packetDataSize b).toNat : Int) = partOffset b % 65536 := by
  have hsum := sum_entries (sizeTable b (numData b).toNat) 0
  have h16 : packDataLen = 16 := rfl
  have h0 : (0 : BitVec 16).toNat = 0 := rfl
  unfold packetDataSize partOffset
  rw [BitVec.toNat_add, hsum, BitVec.toNat_ofInt, h0, h16]
  omega

theorem payloadSize_toNat (b : Buf) (skip : Nat) (h0 : 0 ≤ msgSize b) :
    (payloadSize b skip : Int) = (frameEnd b - (packetDataSize b).toNat - 8 - skip) % 2 ^ 64 := by
  have hint : (b.u32 8).toInt = msgSize b := rfl
  have hlt := BitVec.toInt_lt (x := b.u32 8)
  have hp := (packetDataSize b).isLt
  have h12 : dataSizeLen = 12 := rfl
  have h8 : (8 : BitVec 64).toNat = 8 := rfl
  unfold payloadSize bigDataPackSize frameEnd
  rw [BitVec.toNat_sub, BitVec.toNat_sub, BitVec.toNat_add, BitVec.toNat_ofInt, BitVec.toNat_ofNat, BitVec.toNat_ofNat, h8, h12]
  omega

/-- **A part is inside its frame and exact** when the place does not wrap and what comes
    before the payload fits. -/
theorem partExact_iff {b : Buf} {skip : Nat} (hskip : skip ≤ 32) (h0 : 0 ≤ msgSize b) :
    PartExact b skip ↔ 0 ≤ partOffset b ∧ partOffset b < 65536 ∧ partOffset b + 8 + skip ≤ frameEnd b := by
  have hstart := packetDataSize_offset b
  have hsize := payloadSize_toNat b skip h0
  have hend : frameEnd b < 2 ^ 32 := by
    have hint : (b.u32 8).toInt = msgSize b := rfl
    have hlt := BitVec.toInt_lt (x := b.u32 8)
    have h12 : dataSizeLen = 12 := rfl
    unfold frameEnd
    omega
  constructor
  · intro h
    have hname := h.name
    have hexact := h.exact
    -- no wrap in the size, so none in the place
    rw [Int.emod_eq_of_lt (by omega) (by omega)] at hsize
    omega
  · rintro ⟨hnonneg, hlt, hfits⟩
    rw [Int.emod_eq_of_lt hnonneg hlt] at hstart
    rw [Int.emod_eq_of_lt (by omega) (by omega)] at hsize
    refine ⟨by omega, by omega, ?_, by omega⟩
    unfold payloadStart
    omega

theorem nameSkip_le (b : Buf) : nameSkip b ≤ 32 := by
  unfold nameSkip
  split <;> omega

/-- The flags are read where they are when the place does not wrap. -/
theorem nameSkip_namedPart {b : Buf} (hfile : CarriesFile b) (hnonneg : 0 ≤ partOffset b) (hlt : partOffset b < 65536) :
    nameSkip b = namedPart b := by
  have hstart := packetDataSize_offset b
  rw [Int.emod_eq_of_lt hnonneg hlt] at hstart
  have hplace : (partOffset b).toNat = (packetDataSize b).toNat := by omega
  unfold nameSkip namedPart
  rw [hplace]
  by_cases hfirst : b.u32 (packetDataSize b).toNat &&& StSockMsg.bigdataHeader ≠ 0
  · exact (if_pos hfirst).trans (if_pos ⟨hfile, hfirst⟩).symm
  · exact (if_neg hfirst).trans (if_neg fun h => hfirst h.2).symm

theorem uploadsInside_iff {b : Buf} (h0 : 0 ≤ msgSize b) (hcarries : CarriesBig b ∨ CarriesFile b) :
    UploadsInside b ↔ UploadFits b := by
  have hbig := @partExact_iff b 0 (by omega) h0
  have hfile := partExact_iff (nameSkip_le b) h0
  constructor
  · intro h
    obtain ⟨hnonneg, hlt⟩ : 0 ≤ partOffset b ∧ partOffset b < 65536 := by
      rcases hcarries with hc | hc
      · obtain ⟨h1, h2, -⟩ := hbig.mp (h.big hc)
        exact ⟨h1, h2⟩
      · obtain ⟨h1, h2, -⟩ := hfile.mp (h.file hc)
        exact ⟨h1, h2⟩
    refine ⟨hnonneg, hlt, ?_⟩
    by_cases hc : CarriesFile b
    · rw [← nameSkip_namedPart hc hnonneg hlt]
      exact (hfile.mp (h.file hc)).2.2
    · have hnone : namedPart b = 0 := if_neg fun hn => hc hn.1
      rw [hnone]
      exact (hbig.mp (h.big (hcarries.resolve_right hc))).2.2
  · intro h
    have hfits := h.fits
    refine ⟨fun _ => hbig.mpr ⟨h.nonneg, h.lt, by omega⟩, fun hc => hfile.mpr ⟨h.nonneg, h.lt, ?_⟩⟩
    rw [nameSkip_namedPart hc h.nonneg h.lt]
    exact hfits

variable {srv : Server}

/-- **The upload handlers stay inside a frame exactly when its upload part fits it.** -/
theorem upload_inside_iff {s t : Conn} (ht : takenFrame srv s = some t)
    (hcarries : CarriesBig t.client.recvBuffer ∨ CarriesFile t.client.recvBuffer) :
    (∀ env fs c, c.recvBuffer = t.client.recvBuffer →
        Appends c.recvBuffer (payloadStart c.recvBuffer 0) (payloadSize c.recvBuffer 0) fs
          (proessMessageBigData env fs c).2.2 ∧
        Appends c.recvBuffer (payloadStart c.recvBuffer (nameSkip c.recvBuffer))
          (payloadSize c.recvBuffer (nameSkip c.recvBuffer)) fs (proessMessageFileData env fs c).2.2) ∧
      (UploadsInside t.client.recvBuffer ↔ UploadFits t.client.recvBuffer) := by
  obtain ⟨n, -, -, hintact⟩ := takenFrame_iff.mp ht
  refine ⟨fun env fs c _ => ⟨bigData_appends env fs c, fileData_appends env fs c⟩, ?_⟩
  have hsize := hintact.size
  exact uploadsInside_iff (by omega) hcarries

/-- A first big-data part of three bytes. -/
def shortUpload : Conn :=
  newConn [8, 0, 0, 0, 1, 0, 0, 0, 15, 0, 0, 0, 0, 0x90, 0, 0, 1, 0, 0, 0, 3, 0, 0, 0, 65, 66, 67] [some 12, some 15] []

theorem upload_inside_iff_short : ∃ t, takenFrame defaultServer shortUpload = some t ∧
    (UploadsInside t.client.recvBuffer ↔ UploadFits t.client.recvBuffer) := by
  have ht : takenFrame defaultServer shortUpload = some ((takenFrame defaultServer shortUpload).get (by decide +kernel)) :=
    (Option.some_get _).symm
  exact ⟨_, ht, (upload_inside_iff ht (Or.inl (by decide +kernel))).2⟩

/-- Big data with crc and numData alone. -/
def flaglessUpload : Conn := newConn [8, 0, 0, 0, 1, 0, 0, 0, 4, 0, 0, 0, 0, 0, 0, 0] [some 12, some 4] []

/-- **Big data without its flags.** The frame passes every check; the flags are read behind
    it, and what is left for the payload is -8. -/
theorem upload_past_frame : ∃ t, takenFrame defaultServer flaglessUpload = some t ∧
    CarriesBig t.client.recvBuffer ∧ frameEnd t.client.recvBuffer = 16 ∧
    (packetDataSize t.client.recvBuffer).toNat = 16 ∧ (bigDataPackSize t.client.recvBuffer).toNat = 2 ^ 64 - 8 ∧
    ¬UploadsInside t.client.recvBuffer := by
  refine ⟨(takenFrame defaultServer flaglessUpload).get (by decide +kernel), (Option.some_get _).symm, by decide +kernel, by decide +kernel, by decide +kernel, by decide +kernel,
    fun hinside => ?_⟩
  exact absurd (hinside.big (by decide +kernel)).flags (by decide +kernel)

end StarServer.Socket
