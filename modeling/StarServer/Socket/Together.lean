/-
  StarServer.Socket.Together — all slots at once: their steps in any order, over one file
  system and one big-data pool.

  A slot's memory is its own, so for one slot the others are the files they write. These have
  the other slot's digits in their names, and a slot looks at its own and at the DBFILE
  directory's. What stays shared is the pool: `STSV_GetBigData` takes the first free block, and
  who holds the others decides which and whether.

  The model gives every slot buffers of its own and tells files apart by their names. So the
  result is about runs in which a step stays in the slot's memory and no name has a slash
  (`StepApart`); what the code does elsewhere is not defined, or is another slot's.

  Proved:
    * `others_keep`: another slot's step changes nothing that a slot looks at;
    * `slot_in_company`: in a run of all slots, each slot does what it would do alone: the same
      frames handled, the same answers and replies, the same bytes to its client and the same
      files.
-/

import StarServer.Socket.Apart
import StarServer.Socket.Decode

namespace StarServer.Socket

open StarServer.Memory StarServer.Runs

structure Together where
  slot : Nat → Slot
  fs : FS
  pool : List BigDataBlock

/-- A slot as its thread and the calls on it find it. -/
def Together.view (w : Together) (i : Nat) : Slot := { w.slot i with conn := onShared w.fs w.pool (w.slot i).conn }

variable (srv : Server)

/-- One slot takes a step. -/
def togetherStep (w : Together) (e : Nat × Ev) : Option Together :=
  (step srv (w.view e.1) e.2).map fun s => ⟨Function.update w.slot e.1 s, s.conn.fs, s.conn.pool⟩

/-! ## The steps the result is about -/

/-- One component of a path. -/
def Plain (name : List Byte) : Prop := ∀ b ∈ name, b ≠ slash

instance (name : List Byte) : Decidable (Plain name) := List.decidableBAll (· ≠ slash) name

/-- The arguments of a call are inside the arrays they go to. -/
def Call.inside : Call → Prop
  | .getData k => 0 ≤ k ∧ k < clientDefaultMaxBlock
  | .sendDBFile name => (dbFilePath name).length < 32 ∧ Plain (cstr name)
  | _ => True

instance (a : Call) : Decidable a.inside := by
  cases a <;> (unfold Call.inside; infer_instance)

/-- A frame whose table and upload are inside it, and whose file has a plain name. -/
structure PlainFrame (env : Env) (c : Client) : Prop where
  table : TableFits c.recvBuffer
  upload : CarriesBig c.recvBuffer ∨ CarriesFile c.recvBuffer → UploadFits c.recvBuffer
  name : ∀ path ∈ openedPath env c, Plain (path.drop 5)

instance (b : Buf) : Decidable (UploadFits b) :=
  decidable_of_iff (0 ≤ partOffset b ∧ partOffset b < 65536 ∧ partOffset b + 8 + namedPart b ≤ frameEnd b)
    ⟨fun ⟨h1, h2, h3⟩ => ⟨h1, h2, h3⟩, fun h => ⟨h.nonneg, h.lt, h.fits⟩⟩

instance (env : Env) (c : Client) : Decidable (PlainFrame env c) :=
  decidable_of_iff (TableFits c.recvBuffer ∧ (CarriesBig c.recvBuffer ∨ CarriesFile c.recvBuffer → UploadFits c.recvBuffer) ∧
      ∀ path ∈ openedPath env c, Plain (path.drop 5))
    ⟨fun ⟨h1, h2, h3⟩ => ⟨h1, h2, h3⟩, fun h => ⟨h.table, h.upload, h.name⟩⟩

/-- What a step is given is inside the slot's arrays, and its file's name is plain. -/
def Ev.inside (s : Slot) : Ev → Prop
  | .message env => ∀ t ∈ takenFrame srv s.conn, PlainFrame env t.client
  | .call _ a => a.inside
  | _ => True

instance (s : Slot) (e : Ev) : Decidable (e.inside srv s) := by
  cases e <;> (unfold Ev.inside; infer_instance)

/-- A state whose reads and writes so far were in its two buffers. -/
structure InBuffers (s : Slot) : Prop where
  accesses : AccessesOk s
  recvBuffer : s.conn.client.recvBuffer.top ≤ stsvMaxBuffer
  sendBuffer : s.conn.client.sendBuffer.top ≤ stsvMaxBuffer

instance (s : Slot) : Decidable (InBuffers s) :=
  decidable_of_iff ((∀ a ∈ s.conn.trace, a.InBounds) ∧ s.conn.client.recvBuffer.top ≤ stsvMaxBuffer ∧
      s.conn.client.sendBuffer.top ≤ stsvMaxBuffer)
    ⟨fun ⟨h1, h2, h3⟩ => ⟨h1, h2, h3⟩, fun h => ⟨h.accesses, h.recvBuffer, h.sendBuffer⟩⟩

/-- A call that takes a block of the pool. -/
def Ev.takesBlock : Ev → Bool
  | .call _ a => a.takesBlock
  | _ => false

/-- The connection is given its slot's number, the step stays in the slot's memory, and slot
    `i` takes no block of the pool. -/
structure StepApart (i : Nat) (w : Together) (e : Nat × Ev) : Prop where
  names : e.2.names e.1
  inside : e.2.inside srv (w.view e.1)
  buffers : ∀ s ∈ step srv (w.view e.1) e.2, InBuffers s
  noBlock : e.1 = i → e.2.takesBlock = false

instance (i : Nat) (e : Ev) : Decidable (e.names i) := by
  cases e <;> (unfold Ev.names; infer_instance)

instance (i : Nat) (w : Together) (e : Nat × Ev) : Decidable (StepApart srv i w e) :=
  decidable_of_iff (e.2.names e.1 ∧ e.2.inside srv (w.view e.1) ∧ (∀ s ∈ step srv (w.view e.1) e.2, InBuffers s) ∧
      (e.1 = i → e.2.takesBlock = false))
    ⟨fun ⟨h1, h2, h3, h4⟩ => ⟨h1, h2, h3, h4⟩, fun h => ⟨h.names, h.inside, h.buffers, h.noBlock⟩⟩

/-! ## The others -/

/-- No other slot's file. -/
def NotOthers (i : Nat) (path : Path) : Prop := ∀ j, j ≠ i → j < 65536 → ¬OwnFile j path

theorem own_notOthers {i : Nat} {path : Path} (hi : i < 65536) (h : OwnFile i path) : NotOthers i path := by
  intro j hji hj h'
  exact hji (ownFile_unique (by omega) (by omega) h' h)

theorem dbFile_notOthers (i : Nat) (name : List Byte) : NotOthers i (dbFilePath name) := fun j _ _ => dbFile_not_own j name

variable {srv}

/-- A slot of this number with a client looks at no other's files. -/
theorem numbered_sees {i : Nat} {s : Slot} (h : Numbered i s) (hon : s.conn.client.online = true) :
    Sees (NotOthers i) s.conn.client := by
  intro p hp
  rw [h hon] at hp
  refine own_notOthers ?_ hp
  rw [← h hon]
  exact s.conn.client.idx.isLt

/-- **Another slot's step** changes no file that slot `i` looks at. -/
theorem others_keep {i j : Nat} {s s' : Slot} {e : Ev} (hj : Numbered j s) (hname : e.names j) (hji : j ≠ i)
    (he : step srv s e = some s') (p : Path) (hp : NotOthers i p) : s'.conn.fs p = s.conn.fs p := by
  refine (step_writes_own hj hname he).1 p fun hon => hp j hji ?_
  rw [← hj hon]
  exact s.conn.client.idx.isLt

/-- The system and slot `i` alone. -/
structure InCompany (i : Nat) (w : Together) (t : Slot) : Prop where
  numbered : ∀ j, Numbered j (w.slot j)
  same : SameSlot (NotOthers i) (w.view i) t

theorem numbered_step {w : Together} {j : Nat} {s : Slot} (h : ∀ k, Numbered k (w.slot k)) (hs : Numbered j s) (k : Nat) :
    Numbered k (Function.update w.slot j s k) := by
  by_cases hk : k = j
  · subst hk
    rw [Function.update_self]
    exact hs
  · rw [Function.update_of_ne hk]
    exact h k

/-- A step of slot `i` is one it could have taken alone. -/
theorem own_step {i : Nat} {w w' : Together} {t : Slot} {e : Ev} (h : InCompany i w t) (hok : StepApart srv i w (i, e))
    (he : togetherStep srv w (i, e) = some w') : ∃ t', step srv t e = some t' ∧ InCompany i w' t' := by
  obtain ⟨s', hs, rfl⟩ := Option.map_eq_some_iff.mp he
  obtain ⟨t', ht', hsame⟩ := step_files (dbFile_notOthers i) (numbered_sees (s := w.view i) (h.numbered i)) h.same
    (fun env a he => by cases he; exact hok.noBlock rfl) hs
  have hnum := (step_writes_own (s := w.view i) (h.numbered i) hok.names hs).2
  refine ⟨t', ht', numbered_step h.numbered hnum, ?_⟩
  have hview : Together.view ⟨Function.update w.slot i s', s'.conn.fs, s'.conn.pool⟩ i = s' := by
    unfold Together.view
    simp only [Function.update_self]
    rfl
  rw [hview]
  exact hsame

/-- A step of any other slot is none, to slot `i`. -/
theorem other_step {i j : Nat} {w w' : Together} {t : Slot} {e : Ev} (hji : j ≠ i) (h : InCompany i w t)
    (hok : StepApart srv i w (j, e)) (he : togetherStep srv w (j, e) = some w') : InCompany i w' t := by
  obtain ⟨s', hs, rfl⟩ := Option.map_eq_some_iff.mp he
  have hnum := (step_writes_own (s := w.view j) (h.numbered j) hok.names hs).2
  refine ⟨numbered_step h.numbered hnum, ?_⟩
  have hview : Together.view ⟨Function.update w.slot j s', s'.conn.fs, s'.conn.pool⟩ i =
      { w.slot i with conn := onShared s'.conn.fs s'.conn.pool (w.slot i).conn } := by
    unfold Together.view
    simp only [Function.update_of_ne hji.symm]
  rw [hview]
  obtain ⟨hslot, hconn, hfiles⟩ := h.same
  have hkeep : ∀ p, NotOthers i p → s'.conn.fs p = w.fs p :=
    others_keep (s := w.view j) (h.numbered j) hok.names hji hs
  exact ⟨hslot, hconn, hfiles.other hkeep⟩

/-- The run of slot `i` alone. -/
theorem run_company {i : Nat} {w w' : Together} {es : List (Nat × Ev)} (hnum : ∀ j, Numbered j (w.slot j))
    (hok : RunOk (togetherStep srv) (StepApart srv i) w es) (h : run (togetherStep srv) w es = some w') :
    ∃ t, run (step srv) (w.view i) (own i es) = some t ∧ InCompany i w' t := by
  have hstart : InCompany i w (w.view i) := ⟨hnum, rfl, rfl, Agree.refl _ _⟩
  exact run_own (StepApart srv i) i (fun _ _ _ _ hr ho he => own_step hr ho he)
    (fun _ _ _ _ _ hji hr ho he => other_step hji hr ho he) hstart hok h

/-- **Each slot does what it would do alone.** -/
theorem slot_in_company {i : Nat} {w w' : Together} {es : List (Nat × Ev)} (hnum : ∀ j, Numbered j (w.slot j))
    (hok : RunOk (togetherStep srv) (StepApart srv i) w es) (h : run (togetherStep srv) w es = some w') :
    ∃ t, run (step srv) (w.view i) (own i es) = some t ∧ (w'.view i).handled = t.handled ∧ (w'.view i).answers = t.answers ∧
      (w'.view i).seen = t.seen ∧ (w'.view i).conn.client = t.conn.client ∧ (w'.view i).conn.sock = t.conn.sock ∧
      ∀ p, NotOthers i p → w'.fs p = t.conn.fs p := by
  obtain ⟨t, ht, -, hslot, hconn, hfiles⟩ := run_company hnum hok h
  refine ⟨t, ht, ?_, ?_, ?_, ?_, ?_, hfiles⟩
  · rw [hslot]
  · rw [hslot]
  · rw [hslot]
  · rw [hconn]
    rfl
  · rw [hconn]
    rfl

/-- A whole file `a` of two bytes in one frame, behind its CRC. -/
def twoBytes (crcLow crcHigh first second : Byte) : List Byte :=
  [4, 0, 0, 0, 1, 0, 0, 0, 46, 0, 0, 0, crcLow, crcHigh, 0, 0, 5, 0, 0, 0, 2, 0, 0, 0, 0x61] ++ List.replicate 31 0 ++ [first, second]

/-- Slots no connection has used, with no files and no pool. -/
def emptyTogether : Together := ⟨fun _ => emptySlot, fun _ => none, []⟩

/-- Two clients send a file of the same name, one frame after the other's. -/
def bothSend : List (Nat × Ev) :=
  [(0, .accept 0 (twoBytes 0xd0 0x92 1 2) [some 12, some 46] [some 12, some 12]),
    (1, .accept 1 (twoBytes 0x34 0x16 7 8) [some 12, some 46] [some 12, some 12]),
    (1, .message quietEnv), (0, .message quietEnv), (1, .endPack quietEnv), (0, .endPack quietEnv)]

theorem slot_in_company_files : ∃ w', run (togetherStep defaultServer) emptyTogether bothSend = some w' ∧
    w'.fs (str "FILE/file00000000a") = some [1, 2] ∧ (w'.view 0).handled = [1] := by
  obtain ⟨w', hw', -⟩ := Option.map_eq_some_iff.mp
    (show (run (togetherStep defaultServer) emptyTogether bothSend).map (fun _ => ()) = some () by decide +kernel)
  obtain ⟨t, ht, hhandled, -, -, -, -, hfiles⟩ :=
    slot_in_company (i := 0) (fun j hon => by cases hon) (by decide +kernel) hw'
  have halone : (run (step defaultServer) (emptyTogether.view 0) (own 0 bothSend)).map
      (fun t => (t.handled, t.conn.fs (str "FILE/file00000000a"))) = some ([1], some [1, 2]) := by decide +kernel
  rw [ht] at halone
  obtain ⟨hone, hfile⟩ : t.handled = [1] ∧ t.conn.fs (str "FILE/file00000000a") = some [1, 2] :=
    Prod.mk.inj (Option.some.inj halone)
  have hown : OwnFile 0 (str "FILE/file00000000a") := Or.inr ⟨[0x61], by decide⟩
  exact ⟨w', hw', (hfiles _ (own_notOthers (by decide) hown)).trans hfile, hhandled.trans hone⟩

end StarServer.Socket
