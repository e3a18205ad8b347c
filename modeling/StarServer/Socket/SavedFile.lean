/-
  StarServer.Socket.SavedFile — a file from `STSV_DBSaveFile` to `STSV_SendDBFile` and over the
  frames of its transfer.

  `STSV_DBSaveFile` prints `filePath`, its own array, where it should print `fileName`: which
  file it opens does not depend on its arguments. `SaveCall.filePath` is the string that array
  has then, and every call has one of its own. Paths are the strings they are.

  Proved:
    * `save_file`: what a save writes, and where;
    * `sendStarts_iff`: a send starts as it should exactly if its file opens with those bytes;
    * `transfer_step`: a frame goes on sending them, and a save between two frames keeps them
      exactly if it is of another path or of the same bytes;
    * `saved_file_iff`: what was saved is what is sent exactly if the save and each one after it
      had the path they should;
    * `saved_under_another_path`: two saves that had not.
-/

import StarServer.Socket.FileChunks

namespace StarServer.Socket

open StarServer.Memory Runs

/-! ## Saving -/

/-- A call of `STSV_DBSaveFile`: the arguments, and the string its array holds after the `sprintf`
    that prints the array into itself. `buffer` are the `size` bytes. -/
structure SaveCall where
  filePath : Path
  fileName : List Byte
  buffer : List Byte

def stsvDBSaveFile (env : Env) (fs : FS) (a : SaveCall) : FS × Bool :=
  match fopenWrite env fs a.filePath with
  | some file => (fwriteEnd file a.filePath a.buffer, true)
  | none => (fs, false)

/-- The files after some saves. -/
def saveAll (env : Env) (fs : FS) (saves : List SaveCall) : FS :=
  saves.foldl (fun fs a => (stsvDBSaveFile env fs a).1) fs

/-- A save that leaves `content` at `path`: it fails, or writes elsewhere or the same. -/
def KeepsFile (env : Env) (path : Path) (content : List Byte) (a : SaveCall) : Prop :=
  env.canOpen a.filePath = false ∨ a.filePath ≠ path ∨ a.buffer = content

/-! ## Sending -/

/-- What `STSV_SendDBFile` makes of a slot: the file opens, its size and name are there, and the
    path, which `fileSendName` and the packer's 64 bytes hold for a moment, stays in them. -/
structure SendStarts (env : Env) (fs : FS) (c : Client) (name content : List Byte) : Prop where
  opens : fopenRead env fs (dbFilePath name) = some content
  sending : (stsvSendDBFile env fs c name).fileDataSending = true
  size : (stsvSendDBFile env fs c name).bigDataSendSize.toInt = content.length
  named : Named (stsvSendDBFile env fs c name).fileSendName name
  own : stsvSendDBFile env fs c name = { c with
    fileSendName := (stsvSendDBFile env fs c name).fileSendName
    fileDataSending := (stsvSendDBFile env fs c name).fileDataSending
    bigDataSendSize := (stsvSendDBFile env fs c name).bigDataSendSize
    bigDataSendSizeDone := (stsvSendDBFile env fs c name).bigDataSendSizeDone }
  fits : (dbFilePath name).length < (sendFields c).length ∧ (dbFilePath name).length < 64

/-- During the transfer: calls on the slot, and further saves. -/
inductive TransferEv where
  | call (a : QueueCall)
  | save (a : SaveCall)

variable (srv : Server) (env : Env)

def transferStep (s : Line) : TransferEv → Option Line
  | .call a => lineStep srv s a
  | .save a => some { s with conn := { s.conn with fs := (stsvDBSaveFile env s.conn.fs a).1 } }

/-- The transfer so far: the file still has the bytes, the frames carry a prefix of them, and all
    of them once it is over. -/
structure SentExactly (name content : List Byte) (s : Line) : Prop where
  kept : s.conn.fs (dbFilePath name) = some content
  named : Named s.conn.client.fileSendName name
  sent : filePayloads s.frames <+: content
  whole : s.conn.client.fileDataSending = false → filePayloads s.frames = content

/-- The slot that has saved a file, made the saves in between and called `STSV_SendDBFile`. -/
def sentLine (c : Conn) (a : SaveCall) (between : List SaveCall) : Line :=
  let fs := saveAll env (stsvDBSaveFile env c.fs a).1 between
  startLine { c with fs := fs, client := stsvSendDBFile env fs c.client a.fileName }

/-- What is saved is what is sent, after any number of the saves in between. -/
def SavedIsSent (c : Conn) (a : SaveCall) (between : List SaveCall) (evs : List TransferEv) : Prop :=
  (stsvDBSaveFile env c.fs a).2 = true →
    (∀ l, l <+: between →
      SendStarts env (saveAll env (stsvDBSaveFile env c.fs a).1 l) c.client a.fileName a.buffer) ∧
    RunAll (transferStep srv env) (SentExactly a.fileName a.buffer) (sentLine env c a between) evs

/-- Packing finds the same files as the saves do. -/
def SameFiles : TransferEv → Prop
  | .call (.endPack env') => env'.canOpen = env.canOpen
  | _ => True

def EvKeeps (path : Path) (content : List Byte) : TransferEv → Prop
  | .call _ => True
  | .save a => KeepsFile env path content a

/-- The save is of the path it should be, or finds the bytes there; and so are the later ones. -/
structure PathsRight (c : Conn) (a : SaveCall) (between : List SaveCall) (evs : List TransferEv) : Prop where
  own : a.filePath = dbFilePath a.fileName ∨ fopenRead env c.fs (dbFilePath a.fileName) = some a.buffer
  between : ∀ b ∈ between, KeepsFile env (dbFilePath a.fileName) a.buffer b
  during : ∀ e ∈ evs, EvKeeps env (dbFilePath a.fileName) a.buffer e

variable {srv env}

/-! ## What a save writes -/

theorem save_file (fs : FS) (a : SaveCall) :
    (stsvDBSaveFile env fs a).2 = env.canOpen a.filePath ∧
      (stsvDBSaveFile env fs a).1 = if env.canOpen a.filePath then Function.update fs a.filePath (some a.buffer) else fs := by
  unfold stsvDBSaveFile fopenWrite fwriteEnd
  cases env.canOpen a.filePath with
  | false => exact ⟨rfl, rfl⟩
  | true => simp

theorem save_keeps {fs : FS} {path : Path} {content : List Byte} (h : fs path = some content) (a : SaveCall) :
    (stsvDBSaveFile env fs a).1 path = some content ↔ KeepsFile env path content a := by
  rw [(save_file fs a).2]
  unfold KeepsFile
  by_cases hopen : env.canOpen a.filePath = true
  · rw [if_pos hopen, Function.update_apply]
    by_cases hpath : path = a.filePath
    · simp [hpath, hopen]
    · simp [hpath, h, Ne.symm hpath]
  · simp [hopen, h]

/-- The file is there after each save exactly if it was before them and each keeps it. -/
theorem saveAll_keeps {fs : FS} {path : Path} {content : List Byte} (saves : List SaveCall) :
    (∀ l, l <+: saves → saveAll env fs l path = some content) ↔
      fs path = some content ∧ ∀ a ∈ saves, KeepsFile env path content a := by
  induction saves generalizing fs with
  | nil =>
    constructor
    · intro h
      exact ⟨h [] List.nil_prefix, fun a ha => absurd ha List.not_mem_nil⟩
    · intro hsaves l hl
      obtain ⟨h, -⟩ := hsaves
      rw [List.prefix_nil.mp hl]
      exact h
  | cons a saves ih =>
    constructor
    · intro h
      have hfs : fs path = some content := h [] List.nil_prefix
      obtain ⟨hnext, hrest⟩ := ih.mp fun l hl => h (a :: l) ((List.cons_prefix_cons).mpr ⟨rfl, hl⟩)
      refine ⟨hfs, fun b hb => ?_⟩
      rcases List.mem_cons.mp hb with rfl | hb
      · exact (save_keeps hfs _).mp hnext
      · exact hrest b hb
    · intro hsaves l hl
      obtain ⟨hfs, hkeeps⟩ := hsaves
      rcases List.prefix_cons_iff.mp hl with rfl | ⟨l', rfl, hl'⟩
      · exact hfs
      · have hnext := (save_keeps hfs a).mpr (hkeeps a List.mem_cons_self)
        exact ih.mpr ⟨hnext, fun b hb => hkeeps b (List.mem_cons_of_mem _ hb)⟩ l' hl'

theorem fopenRead_some {fs : FS} {path : Path} {content : List Byte} :
    fopenRead env fs path = some content ↔ env.canOpen path = true ∧ fs path = some content := by
  unfold fopenRead
  split <;> simp [*]

/-- After a save that opened its file. -/
theorem fopenRead_saved {fs : FS} {a : SaveCall} (h : env.canOpen a.filePath = true) (path : Path) :
    fopenRead env (stsvDBSaveFile env fs a).1 path = some a.buffer ↔
      a.filePath = path ∨ fopenRead env fs path = some a.buffer := by
  rw [fopenRead_some, fopenRead_some, (save_file fs a).2, if_pos h, Function.update_apply]
  by_cases hpath : path = a.filePath
  · simp [hpath, h]
  · simp [hpath, Ne.symm hpath]

/-! ## The start -/

theorem length_dbFilePath {name : List Byte} (h0 : 0 ∉ name) : (dbFilePath name).length = name.length + 7 := by
  unfold dbFilePath
  rw [(cstr_nul_free h0).1, List.length_append]
  have h7 : (str "DBFILE/").length = 7 := by decide
  omega

theorem length_sendFields (c : Client) : (sendFields c).length = 42 := by
  have hname := c.fileSendName.len
  unfold sendFields sendFlags
  simp [hname]

/-- Only the four fields of the transfer change. -/
theorem sendDBFile_own {fs : FS} {c : Client} {name content : List Byte} (hidle : c.fileDataSending = false)
    (hopen : fopenRead env fs (dbFilePath name) = some content) : stsvSendDBFile env fs c name = { c with
      fileSendName := (stsvSendDBFile env fs c name).fileSendName
      fileDataSending := (stsvSendDBFile env fs c name).fileDataSending
      bigDataSendSize := (stsvSendDBFile env fs c name).bigDataSendSize
      bigDataSendSizeDone := (stsvSendDBFile env fs c name).bigDataSendSizeDone } := by
  unfold stsvSendDBFile
  rw [hidle, if_neg (by decide), hopen]
  rfl

theorem sendStarts_iff {fs : FS} {c : Client} {name content : List Byte} (hq : QueueOk c)
    (hidle : c.fileDataSending = false) (h0 : 0 ∉ name) (hlen : name.length < 32) (hsize : content.length < 2 ^ 31) :
    SendStarts env fs c name content ↔ fopenRead env fs (dbFilePath name) = some content := by
  refine ⟨fun h => h.opens, fun hopen => ?_⟩
  have hstarts := stsvSendDBFile_starts hq hidle h0 (by omega) hopen
  have hpath := length_dbFilePath h0
  refine ⟨hopen, stsvSendDBFile_sending hidle h0 (by omega) hopen, ?_, hstarts.named, sendDBFile_own hidle hopen, ?_, by omega⟩
  · rw [hstarts.size]
    refine (toInt_eq_iff ?_).mpr hsize
    rw [BitVec.toNat_ofNat]
    omega
  · rw [length_sendFields]
    omega

/-! ## The transfer -/

/-- A call on the slot leaves the files, and the name of the one that is sent. -/
theorem lineStep_files {s s' : Line} {a : QueueCall} {content : List Byte} (hread : StaysReadable content s a)
    (h : lineStep srv s a = some s') :
    s'.conn.fs = s.conn.fs ∧ s'.conn.client.fileSendName = s.conn.client.fileSendName := by
  cases a with
  | sendData buffer =>
    cases h
    exact ⟨rfl, (stsvSendData_same _ buffer).name⟩
  | endPack env' =>
    have hfs : s'.conn.fs = s.conn.fs := by
      obtain ⟨c, hc, rfl⟩ := Option.map_eq_some_iff.mp h
      cases endPackSendData_packed hc with
      | frame ret sock hsend hw => rfl
      | confirm ret sock h0 hf hw => rfl
    refine ⟨hfs, ?_⟩
    rcases lineStep_endPack h with ⟨-, -, on, hclient⟩ | ⟨-, -, on, done, hclient⟩
    · rw [hclient]
      by_cases hs : s.conn.client.fileDataSending = true
      · exact (packFrame_next hs (hread hs)).name
      · exact (@packFrame_idle env' s.conn.fs s.conn.client (by simpa using hs)).name
    · rw [hclient]

/-- What may be used of a transfer that has kept the bytes. -/
structure TransferInv (name content : List Byte) (s : Line) : Prop where
  run : FileRun content s
  named : Named s.conn.client.fileSendName name
  kept : s.conn.fs (dbFilePath name) = some content

theorem TransferInv.exactly {name content : List Byte} {s : Line} (h : TransferInv name content s) :
    SentExactly name content s :=
  ⟨h.kept, h.named, h.run.sent, fun hs => (h.run.ended hs).2⟩

theorem transfer_step {name content : List Byte} {s s' : Line} {e : TransferEv} (hlen : content.length < 2 ^ 31)
    (h0 : 0 ∉ name) (hcan : env.canOpen (dbFilePath name) = true) (hi : TransferInv name content s)
    (hfiles : SameFiles env e) (h : transferStep srv env s e = some s') :
    (SentExactly name content s' ↔ EvKeeps env (dbFilePath name) content e) ∧
      (SentExactly name content s' → TransferInv name content s') := by
  cases e with
  | save a =>
    obtain rfl := Option.some.inj h
    have hkeeps := @save_keeps env s.conn.fs (dbFilePath name) content hi.kept a
    have hrun : FileRun content { s with conn := { s.conn with fs := (stsvDBSaveFile env s.conn.fs a).1 } } :=
      ⟨hi.run.queueOk, hi.run.size, hi.run.sizeDone, hi.run.sent, hi.run.opened, hi.run.ended⟩
    refine ⟨⟨fun hs => hkeeps.mp hs.kept, fun hk => ?_⟩, fun hs => ⟨hrun, hi.named, hs.kept⟩⟩
    exact TransferInv.exactly ⟨hrun, hi.named, hkeeps.mpr hk⟩
  | call a =>
    have hpath : dbFilePath s.conn.client.fileSendName.bytes = dbFilePath name := by
      unfold dbFilePath
      rw [hi.named.str, (cstr_nul_free h0).1]
    have hread : StaysReadable content s a := by
      cases a with
      | sendData buffer => trivial
      | endPack env' =>
        intro _
        rw [hpath]
        have hcan' : env'.canOpen (dbFilePath name) = true := by
          have hsame : env'.canOpen = env.canOpen := hfiles
          rw [hsame]
          exact hcan
        exact fopenRead_some.mpr ⟨hcan', hi.kept⟩
    obtain ⟨hrun, -⟩ := lineStep_run hlen hi.run hread h
    obtain ⟨hfs, hname⟩ := lineStep_files hread h
    have hnext : TransferInv name content s' := ⟨hrun, hname ▸ hi.named, hfs ▸ hi.kept⟩
    exact ⟨⟨fun _ => trivial, fun _ => hnext.exactly⟩, fun _ => hnext⟩

/-- **What is saved is what is sent** exactly if the save fails, or it and the saves after it are
    of the paths they should be. -/
theorem saved_file_iff {c : Conn} {a : SaveCall} {between : List SaveCall} {evs : List TransferEv} {t : Line}
    (hq : QueueOk c.client) (hidle : c.client.fileDataSending = false) (h0 : 0 ∉ a.fileName)
    (hlen : a.fileName.length < 32) (hsize : a.buffer.length < 2 ^ 31) (hfiles : ∀ e ∈ evs, SameFiles env e)
    (hrun : run (transferStep srv env) (sentLine env c a between) evs = some t) :
    SavedIsSent srv env c a between evs ↔ env.canOpen a.filePath = false ∨ PathsRight env c a between evs := by
  unfold SavedIsSent
  rw [(save_file c.fs a).1]
  by_cases hopen : env.canOpen a.filePath = true
  · -- each send after the save and some of the others starts exactly if the file has the bytes
    have hstarts : (∀ l, l <+: between → SendStarts env (saveAll env (stsvDBSaveFile env c.fs a).1 l) c.client
          a.fileName a.buffer) ↔
        (a.filePath = dbFilePath a.fileName ∨ fopenRead env c.fs (dbFilePath a.fileName) = some a.buffer) ∧
          ∀ b ∈ between, KeepsFile env (dbFilePath a.fileName) a.buffer b := by
      simp only [sendStarts_iff hq hidle h0 hlen hsize]
      rw [← fopenRead_saved hopen, fopenRead_some, and_assoc, ← saveAll_keeps]
      simp only [fopenRead_some]
      exact ⟨fun h => ⟨(h [] List.nil_prefix).1, fun l hl => (h l hl).2⟩, fun h l hl => ⟨h.1, h.2 l hl⟩⟩
    have htransfer : SendStarts env (saveAll env (stsvDBSaveFile env c.fs a).1 between) c.client a.fileName a.buffer →
        (RunAll (transferStep srv env) (SentExactly a.fileName a.buffer) (sentLine env c a between) evs ↔
          ∀ e ∈ evs, EvKeeps env (dbFilePath a.fileName) a.buffer e) := by
      intro hstart
      obtain ⟨hcan, hkept⟩ := fopenRead_some.mp hstart.opens
      have hstate := stsvSendDBFile_starts hq hidle h0 (by omega) hstart.opens
      have hfile := (stsvSendDBFile_fileStart hq hidle h0 (by omega) hstart.opens).1
      have hi : TransferInv a.fileName a.buffer (sentLine env c a between) :=
        ⟨fileRun_start hstate.queue hfile, hstart.named, hkept⟩
      have hsame := (runOk_forall (transferStep srv env) hrun).mpr hfiles
      rw [← runOk_forall (transferStep srv env) hrun]
      exact runAll_iff_runOk_of (transferStep srv env)
        (fun s e s' hs _ hf he => transfer_step hsize h0 hcan hs hf he) hi hi.exactly hsame hrun
    constructor
    · intro h
      obtain ⟨hall, hsent⟩ := h hopen
      obtain ⟨hown, hbetween⟩ := hstarts.mp hall
      exact Or.inr ⟨hown, hbetween, (htransfer (hall between (List.prefix_refl _))).mp hsent⟩
    · intro hcond
      rcases hcond with hclosed | ⟨hown, hbetween, hduring⟩
      · exact absurd (hopen.symm.trans hclosed) (by decide)
      · intro _
        have hall := hstarts.mpr ⟨hown, hbetween⟩
        exact ⟨hall, (htransfer (hall between (List.prefix_refl _))).mpr hduring⟩
  · have hclosed : env.canOpen a.filePath = false := by simpa using hopen
    exact ⟨fun _ => Or.inl hclosed, fun _ h => absurd h hopen⟩

/-- A slot that no file and no message is in, its peer ready for a frame. -/
def savingConn : Conn := newConn [] [] [some 100]

def saveA : SaveCall := ⟨str "DBFILE/a", str "a", [65, 66]⟩

theorem savingConn_idle : QueueOk savingConn.client ∧ savingConn.client.fileDataSending = false := ⟨queueOk_empty rfl, rfl⟩

/-- Two bytes, with another file saved before the send and a third between two calls. -/
theorem saved_file_twoBytes :
    (∃ t, run (transferStep defaultServer quietEnv) (sentLine quietEnv savingConn saveA [⟨str "DBFILE/b", str "b", [7]⟩])
        [.save ⟨str "DBFILE/c", str "c", []⟩, .call (.endPack quietEnv)] = some t ∧ filePayloads t.frames = [65, 66]) ∧
      SavedIsSent defaultServer quietEnv savingConn saveA [⟨str "DBFILE/b", str "b", [7]⟩]
        [.save ⟨str "DBFILE/c", str "c", []⟩, .call (.endPack quietEnv)] := by
  have hresult : (run (transferStep defaultServer quietEnv)
      (sentLine quietEnv savingConn saveA [⟨str "DBFILE/b", str "b", [7]⟩])
      [.save ⟨str "DBFILE/c", str "c", []⟩, .call (.endPack quietEnv)]).map (fun t => filePayloads t.frames) =
        some [65, 66] := by decide +kernel
  obtain ⟨t, hrun, ht⟩ := Option.map_eq_some_iff.mp hresult
  refine ⟨⟨t, hrun, ht⟩, (saved_file_iff savingConn_idle.1 savingConn_idle.2 (by decide) (by decide) (by decide) ?_ hrun).mpr
    (Or.inr ⟨Or.inl (by decide), ?_, ?_⟩)⟩
  · simp [SameFiles]
  · simp only [List.forall_mem_singleton]
    exact Or.inr (Or.inl (by decide))
  · simp only [List.forall_mem_cons, EvKeeps]
    exact ⟨Or.inr (Or.inl (by decide)), trivial, by simp⟩

/-- **Saved elsewhere.** Where the array comes out as "DBFILE/DBFILE/D", "a" is saved there: the
    send finds no file. And where the array gives two saves one path, the second takes the
    first one's file. -/
theorem saved_under_another_path :
    (stsvDBSaveFile quietEnv savingConn.fs ⟨str "DBFILE/DBFILE/D", str "a", [65, 66]⟩).2 = true ∧
      (stsvSendDBFile quietEnv (stsvDBSaveFile quietEnv savingConn.fs ⟨str "DBFILE/DBFILE/D", str "a", [65, 66]⟩).1
        savingConn.client (str "a")).fileDataSending = false ∧
      ¬SavedIsSent defaultServer quietEnv savingConn ⟨str "DBFILE/DBFILE/D", str "a", [65, 66]⟩ [] [] ∧
      ¬SavedIsSent defaultServer quietEnv savingConn saveA [⟨str "DBFILE/a", str "b", [7]⟩] [] := by
  refine ⟨rfl, by decide +kernel, ?_, ?_⟩
  · intro h
    have hopens := ((h rfl).1 [] List.nil_prefix).opens
    revert hopens
    decide +kernel
  · intro h
    have hopens := ((h rfl).1 [⟨str "DBFILE/a", str "b", [7]⟩] (List.prefix_refl _)).opens
    revert hopens
    decide +kernel

end StarServer.Socket
