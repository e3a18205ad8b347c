/-
  StarServer.Socket.UploadPath — the file an upload goes to.

  The name is 32 bytes of the first frame as they are. `sprintf` ends it at its first NUL,
  and without one runs on into `fileSendName`, the name of the file that the server is sending
  (`fileDataNameStr`). A slash in it is a directory.

  `FileUpload` is the upload a connection is at: its name field and every path that its frames
  have had opened. A slot runs with it (`fileStep`).

  Proved:
    * `confined_iff`: the path stays below FILE exactly when the name has no slash and either
      has a NUL of its own or `fileSendName` is empty;
    * `frame_opens`: a frame changes no file but this path and the temp file;
    * `upload_path_confined_iff`: every path of a run is such a path, the same for all
      frames of one upload, exactly when the names are such at every frame;
    * `upload_path_escapes`: a name with a slash, and a name of 32 bytes that changes its file.
-/

import StarServer.Socket.Resend
import StarServer.Socket.UploadBounds

namespace StarServer.Socket

open StarServer.Memory

/-! ## The path -/

def slash : Byte := 0x2f

/-- `FILE/file`, the index, and the name field up to its NUL: one component, in a
    `char[64]`. -/
structure Confined (idx : BitVec 16) (field : Name32) (path : Path) : Prop where
  name : path = str "FILE/file" ++ pad8 idx.toNat ++ cstr field.bytes
  digits : (pad8 idx.toNat).length = 8
  component : slash ∉ cstr field.bytes ∧ (cstr field.bytes).length ≤ 32
  fits : path.length < 64

/-- No slash, and a NUL in the field or at the front of the field behind it. -/
structure NameFits (field sendName : Name32) : Prop where
  component : slash ∉ cstr field.bytes
  ends : 0 ∈ field.bytes ∨ sendName.bytes.head? = some 0

instance (field sendName : Name32) : Decidable (NameFits field sendName) :=
  decidable_of_iff (slash ∉ cstr field.bytes ∧ (0 ∈ field.bytes ∨ sendName.bytes.head? = some 0))
    ⟨fun ⟨h1, h2⟩ => ⟨h1, h2⟩, fun h => ⟨h.component, h.ends⟩⟩

theorem length_pad8 (idx : BitVec 16) : (pad8 idx.toNat).length = 8 := by
  have hdigits : (Nat.toDigits 10 idx.toNat).length ≤ 8 := by
    rw [Nat.length_toDigits_le_iff (by decide) (by decide)]
    have hlt := idx.isLt
    omega
  unfold pad8
  simp only [List.length_append, List.length_replicate, List.length_map]
  omega

/-- A string with no NUL goes on with what is behind it. -/
theorem cstr_runs_on {l : List Byte} (h : 0 ∉ l) (r : List Byte) : cstr (l ++ r) = l ++ cstr r := by
  unfold cstr
  apply List.takeWhile_append_of_pos
  intro b hb
  rw [decide_eq_true_eq]
  intro hnul
  subst hnul
  exact h hb

/-- The name is the field's, if that ends or nothing is behind it. -/
theorem fileDataNameStr_iff (c : Client) :
    fileDataNameStr c = cstr c.fileDataName.bytes ↔ 0 ∈ c.fileDataName.bytes ∨ c.fileSendName.bytes.head? = some 0 := by
  unfold fileDataNameStr
  rw [List.append_assoc]
  by_cases hnul : 0 ∈ c.fileDataName.bytes
  · rw [cstr_append hnul]
    exact iff_of_true rfl (Or.inl hnul)
  · rw [cstr_runs_on hnul, (cstr_nul_free hnul).1]
    obtain ⟨b, r, hsend⟩ : ∃ b r, c.fileSendName.bytes = b :: r := by
      cases hb : c.fileSendName.bytes with
      | nil =>
        have hlen := c.fileSendName.len
        rw [hb] at hlen
        cases hlen
      | cons b r => exact ⟨b, r, rfl⟩
    rw [hsend, List.cons_append]
    by_cases hb : b = 0
    · subst hb
      exact iff_of_true (List.append_nil _) (Or.inr rfl)
    · rw [cstr_cons hb]
      refine iff_of_false (fun h => ?_) fun h => ?_
      · exact List.cons_ne_nil _ _ (List.append_right_eq_self.mp h)
      · exact h.elim hnul fun hhead => hb (Option.some.inj hhead)

theorem confined_iff (c : Client) :
    Confined c.idx c.fileDataName (fileDataPath c) ↔ NameFits c.fileDataName c.fileSendName := by
  constructor
  · intro h
    exact ⟨h.component.1, (fileDataNameStr_iff c).mp (List.append_cancel_left h.name)⟩
  · intro h
    have hname := (fileDataNameStr_iff c).mpr h.ends
    have hdigits := length_pad8 c.idx
    have hlen : (cstr c.fileDataName.bytes).length ≤ 32 := by
      have hprefix := (List.takeWhile_prefix (· ≠ (0 : Byte)) (l := c.fileDataName.bytes)).length_le
      have h32 := c.fileDataName.len
      unfold cstr
      omega
    refine ⟨by unfold fileDataPath; rw [hname], hdigits, ⟨h.component, hlen⟩, ?_⟩
    unfold fileDataPath
    rw [hname]
    simp only [List.length_append, hdigits, show (str "FILE/file").length = 9 by decide]
    omega

/-! ## What one frame opens -/

/-- The name in a first file part. -/
def nameField (b : Buf) : Name32 := .ofList (b.slice ((packetDataSize b).toNat + 8) 32)

/-- The frame has a file part, and a big-data part before it has not failed. -/
def FileReached (env : Env) (c : Client) : Prop :=
  CarriesFile c.recvBuffer ∧
    (CarriesBig c.recvBuffer → FirstPart c.recvBuffer → env.canOpen (bigDataPath c.idx.toNat) = true)

instance (env : Env) (c : Client) : Decidable (FileReached env c) := by unfold FileReached; infer_instance

/-- What `_ProessMessageFileData` gives `fopen`. -/
def openedPath (env : Env) (c : Client) : Option Path :=
  if FileReached env c then
    if FirstPart c.recvBuffer then some (fileDataPath (beginFileData c (packetDataSize c.recvBuffer).toNat))
    else if NextPart c.recvBuffer then some (fileDataPath c)
    else none
  else none

/-- The upload a connection is at, and the paths opened for it so far. -/
structure FileUpload where
  idx : BitVec 16
  field : Name32
  opened : List Path

def trackPath (env : Env) (c : Client) (u : Option FileUpload) : Option FileUpload :=
  match openedPath env c with
  | none => u
  | some path =>
    if FirstPart c.recvBuffer then some ⟨c.idx, nameField c.recvBuffer, [path]⟩
    else u.map fun v => { v with opened := v.opened ++ [path] }

variable (srv : Server)

def trackFile (s : Slot) (u : Option FileUpload) : Ev → Option FileUpload
  | .accept .. => none
  | .message env =>
    match takenFrame srv s.conn with
    | some t => trackPath env t.client u
    | none => u
  | _ => u

/-- The slot's step, with the upload. -/
def fileStep (p : Slot × Option FileUpload) (e : Ev) : Option (Slot × Option FileUpload) :=
  (step srv p.1 e).map fun s => (s, trackFile srv p.1 p.2 e)

/-- Every path of the upload is below FILE, and they are one path. -/
def PathsConfined (u : Option FileUpload) : Prop :=
  ∀ v, u = some v → (∀ path ∈ v.opened, Confined v.idx v.field path) ∧ ∀ p ∈ v.opened, ∀ q ∈ v.opened, p = q

/-- The condition on a step. -/
def PathStepOk (p : Slot × Option FileUpload) : Ev → Prop
  | .message env => ∀ t, takenFrame srv p.1.conn = some t → FileReached env t.client →
    (FirstPart t.client.recvBuffer → NameFits (nameField t.client.recvBuffer) t.client.fileSendName) ∧
      (NextPart t.client.recvBuffer → ∀ v, p.2 = some v → NameFits v.field t.client.fileSendName)
  | _ => True

/-! ## The frame -/

theorem filePart_name {env : Env} {fs : FS} {c : Client} : (filePart env fs c.recvBuffer c).2.1.fileDataName =
    if CarriesFile c.recvBuffer ∧ FirstPart c.recvBuffer then nameField c.recvBuffer else c.fileDataName := by
  unfold filePart
  by_cases hfile : CarriesFile c.recvBuffer
  · rw [if_pos (show msgType c.recvBuffer &&& StSockMsg.filedata ≠ 0 from hfile)]
    have h := fileData_handled env fs c
    generalize proessMessageFileData env fs c = r at h ⊢
    cases h with
    | unopened hfirst => exact (if_pos ⟨hfile, hfirst⟩).symm
    | first f hfirst => exact finishFileData_name.trans (if_pos ⟨hfile, hfirst⟩).symm
    | next hnext => exact finishFileData_name.trans (if_neg fun h => hnext.1 h.2).symm
    | neither hfirst => exact finishFileData_name.trans (if_neg fun h => hfirst h.2).symm
  · rw [if_neg (show ¬msgType c.recvBuffer &&& StSockMsg.filedata ≠ 0 from hfile),
      if_neg (show ¬(CarriesFile c.recvBuffer ∧ FirstPart c.recvBuffer) from fun h => hfile h.1)]

theorem fileReached_iff {env : Env} {fs : FS} {c : Client} :
    FileReached env c ↔ CarriesFile c.recvBuffer ∧ (bigPart env fs c.recvBuffer c).1 = 0 := by
  unfold FileReached
  rw [bigPart_zero_iff]
  exact Iff.rfl

/-- The name after a frame. -/
theorem frame_name (env : Env) (s : Conn) : (processFrame env s).2.client.fileDataName =
    if FileReached env s.client ∧ FirstPart s.client.recvBuffer then nameField s.client.recvBuffer
    else s.client.fileDataName := by
  have hm := messagePart_place s.client
  have hreach : FileReached env (messagePart s.client) ↔ FileReached env s.client := by
    rw [messagePart_eq]
    exact Iff.rfl
  have hname : (messagePart s.client).fileDataName = s.client.fileDataName := by
    rw [messagePart_eq]
    rfl
  have hzero := @fileReached_iff env s.fs (messagePart s.client)
  have hbigname := bigPart_name env s.fs s.client.recvBuffer (messagePart s.client)
  have hplace := bigPart_place env s.fs s.client.recvBuffer (messagePart s.client)
  rw [hreach, hm.recvBuffer] at hzero
  rw [hname] at hbigname
  rw [processFrame_parts]
  simp only
  generalize bigPart env s.fs s.client.recvBuffer (messagePart s.client) = r at hzero hbigname hplace ⊢
  have hbuf : r.2.1.recvBuffer = s.client.recvBuffer := hplace.recvBuffer.trans hm.recvBuffer
  by_cases hr : r.1 = 0
  · have hfile := @filePart_name env r.2.2 r.2.1
    rw [hbuf, hbigname] at hfile
    rw [if_neg (not_not_intro hr)]
    have hiff : FileReached env s.client ↔ CarriesFile s.client.recvBuffer := by
      rw [hzero]
      simp [hr]
    simp only [hiff]
    rw [← hfile]
    split
    · rfl
    · rfl
  · rw [if_pos hr, if_neg fun h => hr (hzero.mp h.1).2]
    exact hbigname

/-- A file at another path is not written. -/
theorem writeUpload_other {c : Client} {file : Option FS} {fs : FS} {path p : Path} {start : Nat} {size : BitVec 64}
    (hfile : ∀ f, file = some f → ∃ l, f = Function.update fs path (some l)) (hp : p ≠ path) :
    (writeUpload c file fs path start size).2 p = fs p := by
  rcases @writeUpload_file c file fs path start size hfile with h | ⟨l, h⟩
  · rw [h]
  · rw [h, Function.update_of_ne hp]

theorem bigPart_other {env : Env} {fs : FS} {b : Buf} {c : Client} {p : Path} (hp : p ≠ bigDataPath c.idx.toNat) :
    (bigPart env fs b c).2.2 p = fs p := by
  unfold bigPart
  split
  · have h := bigData_handled env fs c
    generalize proessMessageBigData env fs c = r at h ⊢
    cases h with
    | unopened => rfl
    | first f _ hopen =>
      rw [(finishBigData_done _ _ _ _).fs]
      refine writeUpload_other (fun f' hf => ?_) hp
      cases hf
      exact fopenWrite_update hopen
    | next =>
      rw [(finishBigData_done _ _ _ _).fs]
      exact writeUpload_other (fun f hf => fopenAppend_update hf) hp
    | neither => exact congrFun (finishBigData_done _ _ _ _).fs p
  · rfl

theorem filePart_other {env : Env} {fs : FS} {c : Client} {p : Path} (hfile : CarriesFile c.recvBuffer)
    (hfirst : FirstPart c.recvBuffer → p ≠ fileDataPath (beginFileData c (packetDataSize c.recvBuffer).toNat))
    (hnext : NextPart c.recvBuffer → p ≠ fileDataPath c) : (filePart env fs c.recvBuffer c).2.2 p = fs p := by
  unfold filePart
  rw [if_pos (show msgType c.recvBuffer &&& StSockMsg.filedata ≠ 0 from hfile)]
  have h := fileData_handled env fs c
  generalize proessMessageFileData env fs c = r at h ⊢
  cases h with
  | unopened => rfl
  | first f hf hopen =>
    rw [(finishFileData_done _ _ _ _ _).fs]
    refine writeUpload_other (fun f' hf' => ?_) (hfirst hf)
    cases hf'
    exact fopenWrite_update hopen
  | next hn =>
    rw [(finishFileData_done _ _ _ _ _).fs]
    exact writeUpload_other (fun f hf => fopenAppend_update hf) (hnext hn)
  | neither => exact congrFun (finishFileData_done _ _ _ _ _).fs p

/-- **The files a frame writes**: its temp file, and the one at `openedPath`. -/
theorem frame_opens {env : Env} {s : Conn} {p : Path} (hbig : p ≠ bigDataPath s.client.idx.toNat)
    (hfile : openedPath env s.client ≠ some p) : (processFrame env s).2.fs p = s.fs p := by
  have hm := messagePart_place s.client
  have hreach : FileReached env (messagePart s.client) ↔ FileReached env s.client := by
    rw [messagePart_eq]
    exact Iff.rfl
  have hzero := @fileReached_iff env s.fs (messagePart s.client)
  have hplace := hm.trans (bigPart_place env s.fs s.client.recvBuffer (messagePart s.client))
  have hother : (bigPart env s.fs s.client.recvBuffer (messagePart s.client)).2.2 p = s.fs p :=
    bigPart_other (hm.idx ▸ hbig)
  rw [hreach, hm.recvBuffer] at hzero
  rw [processFrame_parts]
  simp only
  generalize bigPart env s.fs s.client.recvBuffer (messagePart s.client) = r at hzero hplace hother ⊢
  by_cases hr : r.1 = 0
  · rw [if_neg (not_not_intro hr)]
    have hsame : (filePart env r.2.2 s.client.recvBuffer r.2.1).2.2 p = s.fs p := by
      by_cases hcarries : CarriesFile s.client.recvBuffer
      · have hreached := hzero.mpr ⟨hcarries, hr⟩
        unfold openedPath at hfile
        rw [if_pos hreached] at hfile
        rw [← hplace.recvBuffer] at hcarries ⊢
        rw [filePart_other hcarries, hother]
        · intro hfirst
          rw [hplace.recvBuffer] at hfirst ⊢
          rw [if_pos hfirst] at hfile
          rw [beginFileData_path hplace]
          exact fun he => hfile (congrArg some he.symm)
        · intro hnext
          rw [hplace.recvBuffer] at hnext
          rw [if_neg hnext.1, if_pos hnext] at hfile
          rw [hplace.path]
          exact fun he => hfile (congrArg some he.symm)
      · rw [filePart_none hcarries]
        exact hother
    split
    · exact hsame
    · exact hsame
  · rw [if_pos hr]
    exact hother

/-! ## The slot -/

/-- The slot still has the index and the name of the upload it is at. -/
def AtUpload (s : Conn) (u : Option FileUpload) : Prop :=
  ∀ v, u = some v → s.client.idx = v.idx ∧ s.client.fileDataName = v.field

/-- One more path of an upload. -/
theorem paths_snoc {v : FileUpload} {path : Path} (h : PathsConfined (some v)) :
    PathsConfined (some { v with opened := v.opened ++ [path] }) ↔ Confined v.idx v.field path := by
  obtain ⟨hall, -⟩ := h v rfl
  constructor
  · intro h'
    exact (h' _ rfl).1 path (List.mem_append_right _ List.mem_cons_self)
  · intro hpath w hw
    cases hw
    have hevery : ∀ p ∈ v.opened ++ [path], Confined v.idx v.field p := by
      intro p hp
      rcases List.mem_append.mp hp with hp | hp
      · exact hall p hp
      · rw [List.mem_singleton.mp hp]
        exact hpath
    refine ⟨hevery, fun p hp q hq => ?_⟩
    rw [(hevery p hp).name, (hevery q hq).name]

/-- **One frame**: its upload stays confined exactly when its name fits. -/
theorem frame_confined {env : Env} {c : Client} {u : Option FileUpload}
    (hnamed : ∀ v, u = some v → c.idx = v.idx ∧ c.fileDataName = v.field) (hu : PathsConfined u) :
    PathsConfined (trackPath env c u) ↔ (FileReached env c →
      (FirstPart c.recvBuffer → NameFits (nameField c.recvBuffer) c.fileSendName) ∧
        (NextPart c.recvBuffer → ∀ v, u = some v → NameFits v.field c.fileSendName)) := by
  unfold trackPath openedPath
  by_cases hreach : FileReached env c
  · rw [if_pos hreach]
    by_cases hfirst : FirstPart c.recvBuffer
    · have hpath := confined_iff (beginFileData c (packetDataSize c.recvBuffer).toNat)
      rw [if_pos hfirst]
      simp only [if_pos hfirst]
      constructor
      · intro h _
        refine ⟨fun _ => hpath.mp ((h _ rfl).1 _ List.mem_cons_self), fun hnext => absurd hfirst hnext.1⟩
      · intro h v hv
        cases hv
        refine ⟨fun path hp => ?_, fun p hp q hq => ?_⟩
        · rw [List.mem_singleton.mp hp]
          exact hpath.mpr ((h hreach).1 hfirst)
        · rw [List.mem_singleton.mp hp, List.mem_singleton.mp hq]
    · rw [if_neg hfirst]
      by_cases hnext : NextPart c.recvBuffer
      · rw [if_pos hnext]
        simp only [if_neg hfirst]
        cases u with
        | none => exact iff_of_true (fun v hv => nomatch hv) fun _ => ⟨fun hf => absurd hf hfirst, fun _ v hv => nomatch hv⟩
        | some v =>
          obtain ⟨hidx, hfield⟩ := hnamed v rfl
          have hpath := confined_iff c
          rw [hidx, hfield] at hpath
          rw [Option.map_some, paths_snoc hu, hpath]
          constructor
          · intro h _
            refine ⟨fun hf => absurd hf hfirst, fun _ w hw => ?_⟩
            cases hw
            exact h
          · intro h
            exact (h hreach).2 hnext v rfl
      · rw [if_neg hnext]
        exact iff_of_true hu fun _ => ⟨fun hf => absurd hf hfirst, fun hn => absurd hn hnext⟩
  · rw [if_neg hreach]
    exact iff_of_true hu fun h => absurd h hreach

variable {srv}

theorem message_named {env : Env} {s : Slot} {u : Option FileUpload} {c : Conn} {ret : Int} (h : AtUpload s.conn u)
    (hm : processMessageBuffer srv env s.conn = some (ret, c)) : AtUpload c (trackFile srv s u (.message env)) := by
  cases ht : takenFrame srv s.conn with
  | none =>
    obtain ⟨-, hun⟩ := message_untaken ht hm
    simp only [trackFile, ht]
    intro v hv
    rw [hun.idx, hun.uploads.fileDataName]
    exact h v hv
  | some t =>
    rw [processMessageBuffer_taken env ht] at hm
    obtain ⟨n, hd, -, -⟩ := takenFrame_iff.mp ht
    have hun := hd.untouched
    have hc : c = (processFrame env (traceCrc t)).2 := by rw [Option.some.inj hm]
    have hname := frame_name env (traceCrc t)
    have hidx : (processFrame env (traceCrc t)).2.client.idx = t.client.idx := by
      rw [(processFrame_done env (traceCrc t)).client]
      rfl
    simp only [trackFile, ht]
    rw [hc]
    intro v hv
    rw [hidx, hname]
    unfold trackPath openedPath at hv
    have hold : u = some v → (traceCrc t).client.idx = v.idx ∧ (traceCrc t).client.fileDataName = v.field := by
      intro hu
      obtain ⟨h1, h2⟩ := h v hu
      exact ⟨hun.idx.trans h1, hun.uploads.fileDataName.trans h2⟩
    by_cases hreach : FileReached env t.client
    · rw [if_pos hreach] at hv
      by_cases hfirst : FirstPart t.client.recvBuffer
      · rw [if_pos hfirst] at hv
        simp only [if_pos hfirst] at hv
        cases hv
        exact ⟨rfl, if_pos ⟨hreach, hfirst⟩⟩
      · rw [if_neg (show ¬(FileReached env (traceCrc t).client ∧ FirstPart (traceCrc t).client.recvBuffer) from
          fun hf => hfirst hf.2)]
        rw [if_neg hfirst] at hv
        split at hv
        · exact hold hv
        · simp only [if_neg hfirst] at hv
          obtain ⟨w, hw, rfl⟩ := Option.map_eq_some_iff.mp hv
          obtain ⟨h1, h2⟩ := h w hw
          exact ⟨hun.idx.trans h1, hun.uploads.fileDataName.trans h2⟩
    · rw [if_neg (show ¬(FileReached env (traceCrc t).client ∧ FirstPart (traceCrc t).client.recvBuffer) from
        fun hf => hreach hf.1)]
      rw [if_neg hreach] at hv
      exact hold hv

/-- **One step.** -/
theorem step_paths {p q : Slot × Option FileUpload} {e : Ev} (hnamed : AtUpload p.1.conn p.2) (hp : PathsConfined p.2)
    (he : fileStep srv p e = some q) : (PathsConfined q.2 ↔ PathStepOk srv p e) ∧ AtUpload q.1.conn q.2 := by
  obtain ⟨s, u⟩ := p
  obtain ⟨s', hs, rfl⟩ := Option.map_eq_some_iff.mp he
  have hmessage (env : Env) : PathsConfined (trackFile srv s u (.message env)) ↔ PathStepOk srv (s, u) (.message env) := by
    unfold trackFile PathStepOk
    cases ht : takenFrame srv s.conn with
    | none => exact iff_of_true hp fun t h => nomatch h
    | some t =>
      obtain ⟨n, hd, -, -⟩ := takenFrame_iff.mp ht
      have hun := hd.untouched
      have hframe := @frame_confined env t.client u (fun v hv => by
        rw [hun.idx, hun.uploads.fileDataName]
        exact hnamed v hv) hp
      simp only [Option.some.injEq, forall_eq']
      exact hframe
  cases step_stepped hs with
  | accept idx inp recvs sends => exact ⟨iff_of_true (fun v hv => nomatch hv) trivial, fun v hv => nomatch hv⟩
  | handled env c hph hon hm => exact ⟨hmessage env, message_named hnamed hm⟩
  | dropped env c ret hph hon hret hm => exact ⟨hmessage env, message_named hnamed hm⟩
  | timeout hph hon => exact ⟨iff_of_true hp trivial, hnamed⟩
  | endPack env c hph hc =>
    refine ⟨iff_of_true hp trivial, ?_⟩
    cases hc with
    | frame ret sock hq hw =>
      have honly := packFrame_only env s.conn.fs s.conn.client
      intro v hv
      obtain ⟨h1, h2⟩ := hnamed v hv
      exact ⟨(honly.field (·.idx) fun _ _ => rfl).trans h1, (honly.field (·.fileDataName) fun _ _ => rfl).trans h2⟩
    | confirm ret sock h0 hf hw => exact hnamed
  | call env a r c hc =>
    refine ⟨iff_of_true hp trivial, ?_⟩
    have hdone := doCall_done hc
    intro v hv
    obtain ⟨h1, h2⟩ := hnamed v hv
    rw [hdone.client]
    exact ⟨h1, h2⟩

variable (srv)

/-- **In a run the uploads of a slot stay in their files below FILE exactly when their names
    fit at every frame.** -/
theorem upload_path_confined_iff {recvMem sendMem : Nat → Byte} {fs : FS} {pool : List BigDataBlock} {es : List Ev}
    {q : Slot × Option FileUpload} (h : Runs.run (fileStep srv) (freshSlot recvMem sendMem fs pool, none) es = some q) :
    Runs.RunAll (fileStep srv) (fun p => PathsConfined p.2) (freshSlot recvMem sendMem fs pool, none) es ↔
      Runs.RunOk (fileStep srv) (PathStepOk srv) (freshSlot recvMem sendMem fs pool, none) es := by
  refine Runs.runAll_iff_runOk_of (fileStep srv) (I := fun p => AtUpload p.1.conn p.2) (A := fun _ _ => True)
    (fun p e q hi hp _ he => ?_) (fun v hv => nomatch hv) (fun v hv => nomatch hv) (Runs.runOk_trivial _ _ _) h
  obtain ⟨hiff, hnamed⟩ := step_paths hi hp he
  exact ⟨hiff, fun _ => hnamed⟩

/-- A file part behind its CRC, with what comes after its flags and its total of 0. -/
def namePart (packNo crcLow crcHigh flags : Byte) (name : List Byte) : List Byte :=
  [4, 0, 0, 0, packNo, 0, 0, 0, BitVec.ofNat 8 (12 + name.length), 0, 0, 0, crcLow, crcHigh, 0, 0, flags, 0, 0, 0,
    0, 0, 0, 0] ++ name

/-- A connection, and a first part that names its file. -/
def namedUpload (crcLow crcHigh : Byte) (name : List Byte) : List Ev :=
  [.accept 0 (namePart 1 crcLow crcHigh 1 name ++ namePart 2 0x91 0x22 2 []) [some 12, some 44, some 12, some 12]
    [some 12, some 12], .message quietEnv]

/-- A connection, and a file in three parts: one that names it, one that goes on and the last. -/
def partsOfA : List Ev :=
  [.accept 0 (namePart 1 0x6b 0x69 1 ([0x61] ++ List.replicate 31 0 ++ [65, 66, 67]) ++ namePart 2 0xf3 0xaa 2 [68, 69] ++
      namePart 3 0x02 0x62 4 [70]) [some 12, some 47, some 12, some 14, some 12, some 13] [some 12, some 12, some 12],
    .message quietEnv, .endPack quietEnv, .message quietEnv, .endPack quietEnv, .message quietEnv]

theorem upload_path_confined_parts :
    (Runs.run (fileStep defaultServer) (emptySlot, none) partsOfA).map
        (fun q => (q.2.map (·.opened), q.1.conn.fs (str "FILE/file00000000a"))) =
      some (some (List.replicate 3 (str "FILE/file00000000a")), some [65, 66, 67, 68, 69, 70]) ∧
    (Runs.RunAll (fileStep defaultServer) (fun p => PathsConfined p.2) (emptySlot, none) partsOfA ↔
      Runs.RunOk (fileStep defaultServer) (PathStepOk defaultServer) (emptySlot, none) partsOfA) := by
  have hopened : (Runs.run (fileStep defaultServer) (emptySlot, none) partsOfA).map
      (fun q => (q.2.map (·.opened), q.1.conn.fs (str "FILE/file00000000a"))) =
        some (some (List.replicate 3 (str "FILE/file00000000a")), some [65, 66, 67, 68, 69, 70]) := by decide +kernel
  obtain ⟨q, hq, -⟩ := Option.map_eq_some_iff.mp hopened
  exact ⟨hopened, upload_path_confined_iff defaultServer hq⟩

/-- **Out of the directory, and into another file.** The name `/x`; and a name of 32 bytes
    `a`, after whose first part the server sends the file `b`: its next part goes on
    in a directory that the name of that file makes. -/
theorem upload_path_escapes :
    (∃ q, Runs.run (fileStep defaultServer) (emptySlot, none) (namedUpload 0x6d 0xa7 ([slash, 0x78] ++ List.replicate 30 0)) =
        some q ∧ q.2.map (·.opened) = some [str "FILE/file00000000/x"] ∧ ¬PathsConfined q.2) ∧
    ∃ q, Runs.run (fileStep defaultServer) (emptySlot, none) (namedUpload 0x2c 0x69 (List.replicate 32 0x61) ++
        [.endPack quietEnv, .call quietEnv (.sendDBFile (str "b")), .message quietEnv]) = some q ∧
      q.2.map (·.opened) = some [str "FILE/file00000000aaaaaaaaaaaaaaaaaaaaaaaaaaaaaaaa",
        str "FILE/file00000000aaaaaaaaaaaaaaaaaaaaaaaaaaaaaaaaDBFILE/b"] ∧ ¬PathsConfined q.2 := by
  have hslash : (Runs.run (fileStep defaultServer) (emptySlot, none)
      (namedUpload 0x6d 0xa7 ([slash, 0x78] ++ List.replicate 30 0))).map (fun q => q.2.map fun v => (v.opened, v.field.bytes.take 3)) =
      some (some ([str "FILE/file00000000/x"], [slash, 0x78, 0])) := by decide +kernel
  have hlong : (Runs.run (fileStep defaultServer) (emptySlot, none) (namedUpload 0x2c 0x69 (List.replicate 32 0x61) ++
      [.endPack quietEnv, .call quietEnv (.sendDBFile (str "b")), .message quietEnv])).map (fun q => q.2.map (·.opened)) =
      some (some [str "FILE/file00000000aaaaaaaaaaaaaaaaaaaaaaaaaaaaaaaa",
        str "FILE/file00000000aaaaaaaaaaaaaaaaaaaaaaaaaaaaaaaaDBFILE/b"]) := by decide +kernel
  constructor
  · obtain ⟨q, hq, hpaths⟩ := Option.map_eq_some_iff.mp hslash
    obtain ⟨v, hv, hopened⟩ := Option.map_eq_some_iff.mp hpaths
    obtain ⟨hpath, hfield⟩ := Prod.mk.inj hopened
    refine ⟨q, hq, by rw [hv]; exact congrArg some hpath, fun h => ?_⟩
    -- the name has a slash in front of its NUL
    refine ((h v hv).1 _ (hpath ▸ List.mem_cons_self)).component.1 ?_
    have hsplit := List.take_append_drop 3 v.field.bytes
    rw [hfield] at hsplit
    rw [← hsplit]
    exact List.mem_cons_self
  · obtain ⟨q, hq, hpaths⟩ := Option.map_eq_some_iff.mp hlong
    refine ⟨q, hq, hpaths, fun h => ?_⟩
    obtain ⟨v, hv, hopened⟩ := Option.map_eq_some_iff.mp hpaths
    have hsame := (h v hv).2
    rw [hopened] at hsame
    exact absurd (hsame _ List.mem_cons_self _ (List.mem_cons_of_mem _ List.mem_cons_self)) (by decide)

end StarServer.Socket
