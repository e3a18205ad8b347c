/-
  StarServer.Socket.EmptyMessages — `STSV_SendData` with size 0.

  An empty message queues no block, and takes a number all the same: the next message's is one
  higher. Where a round sends no data frame its numbers go on into the next (`Tallies.step`).
  The receiver sees numbers only where a block opens a message (`boundaries`): the first of a
  frame does when its number is 0 modulo 256, any other when its number is new modulo 256.

  Proved:
    * `line_tallied`: every frame of every run is decoded as the calls' numbers say;
    * `contents_filter`: the blocks of the frames are the same with and without the empty calls;
    * `empty_harmless_iff`: a run decodes the same with and without them exactly when they leave
      the boundaries of every frame as they are;
    * `empty_first_loses`: one empty message in front, and the only message is gone.
-/

import StarServer.Socket.Line
import StarServer.Socket.Rejoin

namespace StarServer.Socket

open StarServer.Memory StarServer.Framing

/-! ## Tallies of calls -/

/-- What a handler gets of a frame: the count, and the messages. -/
def decoded (r f : Client) : Int × List (List Byte) :=
  ((processMessagePacket (placed r f)).recvCount, received (processMessagePacket (placed r f)))

/-- The tally of the open round, and the blocks of each data frame before it. -/
structure Tallies where
  tally : Tally
  frames : List (List (List Byte × Nat))

/-- A round ends with a data frame, or not at all. -/
def Tallies.step (t : Tallies) : QueueCall → Tallies
  | .sendData buffer => { t with tally := t.tally.send buffer }
  | .endPack _ => if t.tally.blocks = [] then t else ⟨⟨0, []⟩, t.frames ++ [t.tally.blocks]⟩

def talliesOf (c : Client) (h : List QueueCall) : Tallies := h.foldl Tallies.step ⟨tallyOf c, []⟩

/-- For each data frame of a history, which of its blocks open a message. -/
def frameBoundaries (c : Client) (h : List QueueCall) : List (List Bool) :=
  (talliesOf c h).frames.map fun bs => boundaries none (bs.map Prod.snd)

/-! ## A run and its rounds -/

/-- What a receiver is given of blocks with their numbers. -/
def decodedBlocks (bs : List (List Byte × Nat)) : Int × List (List Byte) := ((messagesOf bs).length, messagesOf bs)

structure LineTallied (t : Tallies) (s : Line) : Prop where
  tally : Tallied t.tally s.conn.client
  noFile : s.conn.client.fileDataSending = false
  frames : ∀ r, s.frames.map (decoded r) = t.frames.map decodedBlocks

theorem decoded_frame {env : Env} {fs : FS} {t : Tally} {c : Client} (h : Tallied t c) (hfile : c.fileDataSending = false)
    (r : Client) : decoded r (packFrame env fs c) = decodedBlocks t.blocks := by
  have hsent : c.fileDataSending = true → (sendRest c).toNat < 2 ^ 31 := by
    intro hs
    rw [hfile] at hs
    cases hs
  have hmsgs := @Tallied.frame env fs t c h hsent r
  have hcount := @recvCount_received (placed r (packFrame env fs c)) rfl
  unfold decoded decodedBlocks
  rw [hcount, hmsgs]

variable {srv : Server}

theorem lineStep_tallied {t : Tallies} {s s' : Line} {e : QueueCall} (hi : LineTallied t s) (h : lineStep srv s e = some s') :
    LineTallied (t.step e) s' := by
  obtain ⟨ht, hfile, hframes⟩ := hi
  cases e with
  | sendData buffer =>
    cases h
    exact ⟨ht.send buffer, (stsvSendData_same _ buffer).sending.trans hfile, hframes⟩
  | endPack env =>
    have hcount := ht.sendCount
    rcases lineStep_endPack h with ⟨htest, hout, on, hc⟩ | ⟨htest, hout, on, done, hc⟩
    · have hpos : s.conn.client.sendCount > 0 := by simpa [endPackTest, hfile] using htest
      have hblocks : t.tally.blocks ≠ [] := by
        intro hnil
        rw [hnil, List.length_nil] at hcount
        omega
      have hstep : t.step (.endPack env) = ⟨⟨0, []⟩, t.frames ++ [t.tally.blocks]⟩ := if_neg hblocks
      rw [hstep]
      refine ⟨⟨queueOk_empty (by rw [hc]), by rw [hc]; rfl, by rw [hc]; rfl⟩, ?_, ?_⟩
      · rw [hc]
        exact (packFrame_idle hfile).sending.trans hfile
      · intro r
        simp [hout, hframes r, decoded_frame ht hfile r]
    · -- nothing queued: a CONFIRM, and the round goes on
      have h0 : s.conn.client.sendCount = 0 := by simpa [endPackTest, hfile] using htest
      have hblocks : t.tally.blocks = [] := List.eq_nil_of_length_eq_zero (by omega)
      have hstep : t.step (.endPack env) = t := if_pos hblocks
      rw [hstep]
      refine ⟨⟨?_, ?_, ?_⟩, ?_, by rw [hout]; exact hframes⟩
      · rw [hc]
        exact ⟨ht.queueOk.count, ht.queueOk.sizes⟩
      · rw [hc]
        exact ht.blocks
      · rw [hc]
        exact ht.no
      · rw [hc]
        exact hfile

theorem line_tallied {h : List QueueCall} {t : Tallies} {s s' : Line} (hi : LineTallied t s)
    (hrun : Runs.run (lineStep srv) s h = some s') : LineTallied (h.foldl Tallies.step t) s' := by
  induction h generalizing t s with
  | nil =>
    cases hrun
    exact hi
  | cons e h ih =>
    obtain ⟨m, he, hrun⟩ := (Runs.run_cons _).mp hrun
    exact ih (lineStep_tallied hi he) hrun

/-! ## Histories that differ in empty messages -/

/-- Every call but an `STSV_SendData` with size 0. -/
def carries : QueueCall → Bool
  | .sendData [] => false
  | _ => true

/-- The blocks without their numbers. -/
def Tallies.contents (t : Tallies) : List (List Byte) × List (List (List Byte)) :=
  (t.tally.blocks.map Prod.fst, t.frames.map (List.map Prod.fst))

theorem step_contents {t t' : Tallies} (h : t.contents = t'.contents) (e : QueueCall) :
    (t.step e).contents = (t'.step e).contents := by
  obtain ⟨hblocks, hframes⟩ := Prod.mk.inj h
  have hlen : t.tally.blocks.length = t'.tally.blocks.length := by simpa using congrArg List.length hblocks
  cases e with
  | sendData buffer =>
    simp only [Tallies.step, Tally.send, Tallies.contents, hlen, hframes]
    split
    · simp [hblocks, Function.comp_def]
    · rw [hblocks]
  | endPack env =>
    by_cases hnil : t.tally.blocks = []
    · have hnil' : t'.tally.blocks = [] := List.eq_nil_of_length_eq_zero (by rw [← hlen, hnil, List.length_nil])
      simp only [Tallies.step, hnil, hnil', if_true]
      exact h
    · have hnil' : t'.tally.blocks ≠ [] := by
        intro hnil'
        rw [hnil', List.length_nil] at hlen
        exact hnil (List.eq_nil_of_length_eq_zero hlen)
      simp [Tallies.step, Tallies.contents, hnil, hnil', hblocks, hframes]

/-- An empty message changes numbers only. -/
theorem step_empty (t : Tallies) : (t.step (.sendData [])).contents = t.contents := by
  simp only [Tallies.step, Tally.send, Tallies.contents]
  split
  · simp [pieces]
  · rfl

theorem contents_filter {h : List QueueCall} {t t' : Tallies} (ht : t.contents = t'.contents) :
    (h.foldl Tallies.step t).contents = ((h.filter carries).foldl Tallies.step t').contents := by
  induction h generalizing t t' with
  | nil => exact ht
  | cons e h ih =>
    by_cases he : carries e = true
    · rw [List.filter_cons_of_pos he]
      exact ih (step_contents ht e)
    · have hempty : e = .sendData [] := by
        cases e with
        | sendData buffer =>
          cases buffer with
          | nil => rfl
          | cons x buffer => exact absurd rfl he
        | endPack env => exact absurd rfl he
      subst hempty
      rw [List.filter_cons_of_neg he]
      exact ih ((step_empty t).trans ht)

/-- Every block has something in it. -/
def Tallies.Filled (t : Tallies) : Prop :=
  (∀ x ∈ t.tally.blocks, x.1 ≠ []) ∧ ∀ bs ∈ t.frames, ∀ x ∈ bs, x.1 ≠ []

theorem step_filled {t : Tallies} (h : t.Filled) (e : QueueCall) : (t.step e).Filled := by
  obtain ⟨hblocks, hframes⟩ := h
  cases e with
  | sendData buffer =>
    refine ⟨?_, hframes⟩
    intro x hx
    simp only [Tallies.step, Tally.send] at hx
    split at hx
    · rcases List.mem_append.mp hx with hx | hx
      · exact hblocks x hx
      · obtain ⟨p, hp, rfl⟩ := List.mem_map.mp hx
        exact (mem_chunks (by decide) buffer p (List.mem_of_mem_take hp)).1
    · exact hblocks x hx
  | endPack env =>
    simp only [Tallies.step]
    split
    · exact ⟨hblocks, hframes⟩
    · refine ⟨fun x hx => absurd hx List.not_mem_nil, ?_⟩
      intro bs hbs
      rcases List.mem_append.mp hbs with hbs | hbs
      · exact hframes bs hbs
      · rw [List.mem_singleton] at hbs
        subst hbs
        exact hblocks

theorem tallies_filled {h : List QueueCall} {t : Tallies} (ht : t.Filled) : (h.foldl Tallies.step t).Filled := by
  induction h generalizing t with
  | nil => exact ht
  | cons e h ih => exact ih (step_filled ht e)

/-! ## What a receiver tells apart -/

/-- The same blocks come out the same exactly when the same ones open a message. -/
theorem messagesOf_iff {bs bs' : List (List Byte × Nat)} (h : bs.map Prod.fst = bs'.map Prod.fst)
    (hne : ∀ x ∈ bs, x.1 ≠ []) :
    decodedBlocks bs = decodedBlocks bs' ↔ boundaries none (bs.map Prod.snd) = boundaries none (bs'.map Prod.snd) := by
  have hlen : ∀ bs : List (List Byte × Nat), (boundaries none (bs.map Prod.snd)).length = (bs.map Prod.fst).length := by
    intro bs
    simp
  constructor
  · intro heq
    have hjoined := (Prod.mk.inj heq).2
    have hzip := joined_injective
      (by rw [List.map_snd_zip (Nat.le_of_eq (hlen bs).symm), List.map_snd_zip (Nat.le_of_eq (hlen bs').symm), h])
      (fun p hp => by
        obtain ⟨x, hx, he⟩ := List.mem_map.mp (List.of_mem_zip hp).2
        exact he ▸ hne x hx) hjoined
    have hfst := congrArg (List.map Prod.fst) hzip
    rwa [List.map_fst_zip (Nat.le_of_eq (hlen bs)), List.map_fst_zip (Nat.le_of_eq (hlen bs'))] at hfst
  · intro heq
    unfold decodedBlocks messagesOf
    rw [heq, h]

theorem framesDecoded_iff {F F' : List (List (List Byte × Nat))} (h : F.map (List.map Prod.fst) = F'.map (List.map Prod.fst))
    (hne : ∀ bs ∈ F, ∀ x ∈ bs, x.1 ≠ []) : F.map decodedBlocks = F'.map decodedBlocks ↔
      F.map (fun bs => boundaries none (bs.map Prod.snd)) = F'.map fun bs => boundaries none (bs.map Prod.snd) := by
  induction F generalizing F' with
  | nil =>
    rw [List.map_nil, eq_comm, List.map_eq_nil_iff] at h
    subst h
    simp
  | cons bs F ih =>
    rcases F' with _ | ⟨bs', F'⟩
    · simp at h
    · simp only [List.map_cons, List.cons.injEq] at h ⊢
      exact and_congr (messagesOf_iff h.1 (hne bs List.mem_cons_self)) (ih h.2 fun b hb => hne b (List.mem_cons_of_mem _ hb))

variable (srv)

/-- **Empty messages are harmless exactly when they leave the boundaries.** `h` and `h'` are
    histories of one slot that differ in nothing but `STSV_SendData` calls with size 0; the
    slot is as earlier calls leave one, with whatever is queued. -/
theorem empty_harmless_iff {c : Conn} {h h' : List QueueCall} {s s' : Line} (hq : QueueOk c.client)
    (hne : ∀ x ∈ queue c.client, x.1 ≠ []) (hfile : c.client.fileDataSending = false)
    (hsame : h'.filter carries = h.filter carries) (hrun : Runs.run (lineStep srv) (startLine c) h = some s)
    (hrun' : Runs.run (lineStep srv) (startLine c) h' = some s') (r : Client) :
    s'.frames.map (decoded r) = s.frames.map (decoded r) ↔ frameBoundaries c.client h' = frameBoundaries c.client h := by
  have hstart : LineTallied ⟨tallyOf c.client, []⟩ (startLine c) := ⟨tallyOf_tallied hq, hfile, fun _ => rfl⟩
  have hfilled : Tallies.Filled ⟨tallyOf c.client, []⟩ := by
    refine ⟨?_, fun bs hbs => absurd hbs List.not_mem_nil⟩
    intro x hx
    obtain ⟨y, hy, rfl⟩ := List.mem_map.mp hx
    exact hne y hy
  have hcontents : (talliesOf c.client h').contents = (talliesOf c.client h).contents := by
    have h1 := @contents_filter h' ⟨tallyOf c.client, []⟩ _ rfl
    have h2 := @contents_filter h ⟨tallyOf c.client, []⟩ _ rfl
    rw [hsame] at h1
    exact h1.trans h2.symm
  rw [(line_tallied hstart hrun).frames r, (line_tallied hstart hrun').frames r]
  exact framesDecoded_iff (Prod.mk.inj hcontents).2 (tallies_filled hfilled).2

/-- One empty message between two others. -/
theorem empty_harmless_between : ∃ s s',
    Runs.run (lineStep defaultServer) (startLine (newConn [] [] [some 100]))
      [.sendData [7], .sendData [8], .endPack quietEnv] = some s ∧
    Runs.run (lineStep defaultServer) (startLine (newConn [] [] [some 100]))
      [.sendData [7], .sendData [], .sendData [8], .endPack quietEnv] = some s' ∧
    ∀ r, s'.frames.map (decoded r) = s.frames.map (decoded r) := by
  obtain ⟨s, hs⟩ : ∃ s, Runs.run (lineStep defaultServer) (startLine (newConn [] [] [some 100]))
      [.sendData [7], .sendData [8], .endPack quietEnv] = some s := ⟨_, rfl⟩
  obtain ⟨s', hs'⟩ : ∃ s', Runs.run (lineStep defaultServer) (startLine (newConn [] [] [some 100]))
      [.sendData [7], .sendData [], .sendData [8], .endPack quietEnv] = some s' := ⟨_, rfl⟩
  refine ⟨s, s', hs, hs', ?_⟩
  intro r
  have hempty : ∀ x ∈ queue (newConn [] [] [some 100]).client, x.1 ≠ [] := fun x hx => absurd hx List.not_mem_nil
  exact (@empty_harmless_iff defaultServer (newConn [] [] [some 100]) [.sendData [7], .sendData [8], .endPack quietEnv]
    [.sendData [7], .sendData [], .sendData [8], .endPack quietEnv] s s' (queueOk_empty rfl) hempty rfl rfl hs hs' r).mpr
    (by decide +kernel)

/-- **One empty message in front of the only one.** The block's tag is 1, the receiver's loop
    opens nothing, and the message is gone. -/
theorem empty_first_loses : ∃ s s',
    Runs.run (lineStep defaultServer) (startLine (newConn [] [] [some 100])) [.sendData [7], .endPack quietEnv] = some s ∧
    Runs.run (lineStep defaultServer) (startLine (newConn [] [] [some 100]))
      [.sendData [], .sendData [7], .endPack quietEnv] = some s' ∧
    s.frames.map (decoded (newConn [] [] []).client) = [(1, [[7]])] ∧
    s'.frames.map (decoded (newConn [] [] []).client) = [(0, [])] :=
  ⟨_, _, rfl, rfl, by decide +kernel, by decide +kernel⟩

end StarServer.Socket
