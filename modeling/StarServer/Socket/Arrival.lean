/-
  StarServer.Socket.Arrival — a file in parts arrives whole.

  A client sends a file, or big data, as a first part and the parts that go on with it, among
  anything else. Big data goes to the slot's temp file, a file to the one its first part named;
  the two never meet.

  Proved:
    * `uploads_stored`: the files are the ones there were before with the parts written to them, and
      the ready flags are what the flags of the parts make of them;
    * `upload_whole`: once the parts are in, the file is their payloads in order, and nothing
      that came between is in it;
    * `uploads_in_company`: with all slots at work at once, each slot's files are what its own
      client sent.
-/

import StarServer.Socket.Delivery
import StarServer.Socket.Together

namespace StarServer.Socket

open StarServer.Memory StarServer.Runs

variable {srv : Server}

/-! ## The parts of one upload -/

/-- What the parts of a kind carry, in order. -/
def payloads (k : UploadKind) (is : List (Item srv)) : List Byte :=
  (is.filterMap Item.part).flatMap fun p => if p.kind = k then p.payload else []

/-- None of them starts over. -/
def GoesOn (k : UploadKind) (is : List (Item srv)) : Prop :=
  ∀ i ∈ is, ∀ p, i.part = some p → p.kind = k → p.first = false

theorem bigDataPath_ne_filePath (n m : Nat) (name : List Byte) : bigDataPath n ≠ filePath m name := by
  intro h
  have hbig : (bigDataPath n).head? = some 0x54 := by simp [bigDataPath, str]
  have hfile : (filePath m name).head? = some 0x46 := by simp [filePath, str]
  rw [h, hfile] at hbig
  exact absurd hbig (by decide)

/-- The upload of this kind is at `path`. -/
structure AtPath (k : UploadKind) (idx : Nat) (path : Path) (d : Disk) : Prop where
  big : k = .big → path = bigDataPath idx
  file : k = .file → d.current = some path ∧ path ≠ bigDataPath idx
  /-- And a file's parts never go where big data does. -/
  apart : d.current ≠ some (bigDataPath idx)

/-- **A part that goes on**: behind what is there if it is of this kind, elsewhere if not. -/
theorem AtPath.apply {k : UploadKind} {idx : Nat} {path : Path} {d : Disk} {p : Part} (h : AtPath k idx path d)
    (hp : p.kind = k → p.first = false) :
    AtPath k idx path (p.apply idx d) ∧
      (p.apply idx d).files path = if p.kind = k then some ((d.files path).getD [] ++ p.payload) else d.files path := by
  cases hk : p.kind with
  | big =>
    have hpath : p.path idx d = bigDataPath idx := by rw [Part.path, hk]
    have hcur : (p.apply idx d).current = d.current := if_neg (by rw [hk]; decide)
    refine ⟨⟨h.big, by rw [hcur]; exact h.file, by rw [hcur]; exact h.apart⟩, ?_⟩
    cases k with
    | big =>
      rw [if_pos rfl, Part.apply_next hpath (hp hk), ← h.big rfl, Function.update_self]
    | file =>
      rw [if_neg (by decide)]
      unfold Part.apply
      rw [hpath]
      exact Function.update_of_ne (h.file rfl).2 _ _
  | file =>
    have hcur : (p.apply idx d).current = some (p.path idx d) := if_pos hk
    cases k with
    | big =>
      have hne : p.path idx d ≠ bigDataPath idx := by
        rw [Part.path, hk]
        simp only
        split
        · exact (bigDataPath_ne_filePath _ _ _).symm
        · cases hd : d.current with
          | none => simp [bigDataPath, str]
          | some q =>
            intro he
            refine h.apart ?_
            rw [hd]
            exact congrArg some he
      refine ⟨⟨h.big, fun hh => (by cases hh), by rw [hcur]; exact fun he => hne (Option.some.inj he)⟩, ?_⟩
      rw [if_neg (by decide), h.big rfl]
      exact Function.update_of_ne hne.symm _ _
    | file =>
      obtain ⟨hat, hne⟩ := h.file rfl
      have hpath : p.path idx d = path := by
        rw [Part.path, hk, hp hk, hat]
        rfl
      rw [hpath] at hcur
      refine ⟨⟨fun hh => (by cases hh), fun _ => ⟨hcur, hne⟩, by rw [hcur]; exact fun he => hne (Option.some.inj he)⟩, ?_⟩
      rw [if_pos rfl, Part.apply_next hpath (hp hk), Function.update_self]

/-- A first part leaves its payload and no more in its file. -/
theorem first_apply {p : Part} {idx : Nat} {d : Disk} (h : p.first = true) (hd : d.current ≠ some (bigDataPath idx)) :
    AtPath p.kind idx (p.path idx d) (p.apply idx d) ∧ (p.apply idx d).files (p.path idx d) = some p.payload := by
  refine ⟨?_, ?_⟩
  · cases hk : p.kind with
    | big =>
      have hcur : (p.apply idx d).current = d.current := if_neg (by rw [hk]; decide)
      exact ⟨fun _ => by rw [Part.path, hk], fun hh => (by cases hh), by rw [hcur]; exact hd⟩
    | file =>
      have hcur : (p.apply idx d).current = some (p.path idx d) := if_pos hk
      have hne : p.path idx d ≠ bigDataPath idx := by
        rw [Part.path, hk, if_pos h]
        exact (bigDataPath_ne_filePath _ _ _).symm
      exact ⟨fun hh => (by cases hh), fun _ => ⟨hcur, hne⟩, by rw [hcur]; exact fun he => hne (Option.some.inj he)⟩
  · rw [Part.apply_first rfl h, Function.update_self]
    rfl

/-- No stream takes a file's parts where big data goes. -/
theorem stored_apart (idx : Nat) (is : List (Item srv)) {d : Disk} (h : d.current ≠ some (bigDataPath idx)) :
    (stored idx is d).current ≠ some (bigDataPath idx) := by
  induction is generalizing d with
  | nil => exact h
  | cons i is ih =>
    refine ih (d := d.after idx i.part) ?_
    cases hp : i.part with
    | none => exact h
    | some p =>
      show (p.apply idx d).current ≠ _
      by_cases hf : p.kind = .file ∧ p.first = true
      · have hcur : (p.apply idx d).current = some (p.path idx d) := if_pos hf.1
        rw [hcur, Part.path, hf.1]
        simp only [if_pos hf.2]
        exact fun he => bigDataPath_ne_filePath _ _ _ (Option.some.inj he).symm
      · have hat : AtPath .big idx (bigDataPath idx) d := ⟨fun _ => rfl, fun hh => (by cases hh), h⟩
        by_cases hb : p.kind = .big
        · have hcur : (p.apply idx d).current = d.current := if_neg (by rw [hb]; decide)
          rw [hcur]
          exact h
        · exact (hat.apply fun hk => absurd hk hb).1.apart

/-- **The parts of one upload**, among others'. -/
theorem stored_goesOn {k : UploadKind} {idx : Nat} {path : Path} {is : List (Item srv)} {d : Disk} {old : List Byte}
    (h : AtPath k idx path d) (hold : d.files path = some old) (his : GoesOn k is) :
    (stored idx is d).files path = some (old ++ payloads k is) := by
  induction is generalizing d old with
  | nil => exact hold.trans (congrArg some (List.append_nil old).symm)
  | cons i is ih =>
    have hrest : GoesOn k is := fun j hj => his j (List.mem_cons_of_mem _ hj)
    cases hp : i.part with
    | none =>
      have hpay : payloads k (i :: is) = payloads k is := by
        unfold payloads
        rw [List.filterMap_cons_none hp]
      have hone : stored idx (i :: is) d = stored idx is d := by
        show stored idx is (d.after idx i.part) = _
        rw [hp]
        rfl
      rw [hone, hpay]
      exact ih h hold hrest
    | some p =>
      obtain ⟨hat, hfile⟩ := h.apply (p := p) (his i List.mem_cons_self p hp)
      have hone : stored idx (i :: is) d = stored idx is (p.apply idx d) := by
        show stored idx is (d.after idx i.part) = _
        rw [hp]
        rfl
      have hpay : payloads k (i :: is) = (if p.kind = k then p.payload else []) ++ payloads k is := by
        unfold payloads
        rw [List.filterMap_cons_some hp, List.flatMap_cons]
      rw [hone, hpay]
      by_cases hk : p.kind = k
      · rw [if_pos hk, hold, Option.getD_some] at hfile
        rw [if_pos hk, ← List.append_assoc]
        exact ih hat hfile hrest
      · rw [if_neg hk, hold] at hfile
        rw [if_neg hk, List.nil_append]
        exact ih hat hfile hrest

/-- An upload from its first part on. -/
theorem stored_whole {idx : Nat} {is js : List (Item srv)} {r : Request srv} {p : Part} {d : Disk}
    (hd : d.current ≠ some (bigDataPath idx)) (hp : r.part = some p) (hfirst : p.first = true) (hjs : GoesOn p.kind js) :
    (stored idx (is ++ .request r :: js) d).files (p.path idx d) = some (p.payload ++ payloads p.kind js) := by
  have hpath : ∀ d', p.path idx d' = p.path idx d := by
    intro d'
    unfold Part.path
    cases p.kind with
    | big => rfl
    | file => simp only [if_pos hfirst]
  obtain ⟨hat, hfile⟩ := @first_apply p idx _ hfirst (stored_apart idx is hd)
  have happ : stored idx (is ++ .request r :: js) d = stored idx js (p.apply idx (stored idx is d)) := by
    unfold stored
    rw [List.foldl_append, List.foldl_cons]
    show List.foldl _ (Disk.after _ idx r.part) js = _
    rw [hp]
    rfl
  rw [hpath] at hat hfile
  rw [happ]
  exact stored_goesOn hat hfile hjs

/-! ## Runs -/

/-- **The disk is what the stream says.** Of the messages dealt with so far every part is in
    the file it belongs to, behind the parts before it, and nothing else has been written.
    `bigDataReady` goes up with a part that has END among its flags, `fileDataReady` with one that
    has END alone; they go down with a first part that has not, and when the upload is freed. -/
theorem uploads_stored {items : List (Item srv)} {s0 s : Slot} {n : Ledger} {es : List Ev} (hs : Streams items s0)
    (hes : ∀ e ∈ es, e.Goes items) (h : Runs.run (Runs.noted (step srv) (ledger items)) (s0, opening s0) es = some (s, n)) :
    s.conn.fs = (stored s0.conn.client.idx.toNat (items.take n.taken) s0.disk).files ∧
      s.conn.client.bigDataReady = n.bigReady ∧ s.conn.client.fileDataReady = n.fileReady := by
  have hd := run_delivering hs hes h
  exact ⟨hd.files, hd.bigReady, hd.fileReady⟩

/-- The file `a` in two parts, with a message between them. -/
def fileBegins : Part := ⟨.file, StSockMsg.bigdataHeader, 3, Name32.ofList [0x61], [1, 2]⟩

def fileEnds : Part := ⟨.file, StSockMsg.bigdataEnd, 3, Name32.ofList [], [3]⟩

def startsUpload : Request defaultServer where
  fromID := 0
  packNo := 1
  messages := [[5]]
  part := some fileBegins
  known := zero_known
  nonempty := by decide
  count := by decide
  partOk p hp := Option.some.inj hp ▸ ⟨fun _ => by decide, fun h => by revert h; decide⟩
  fits := by decide +kernel

def endsUpload : Request defaultServer where
  fromID := 0
  packNo := 6
  messages := []
  part := some fileEnds
  known := zero_known
  nonempty := by decide
  count := by decide
  partOk p hp := Option.some.inj hp ▸ ⟨fun h => by revert h; decide, fun _ => by decide⟩
  fits := by decide +kernel

def fileItems : List (Item defaultServer) := [.request startsUpload, .request requestFive, .request endsUpload]

theorem fileItems_inSequence : InSequence 0 false fileItems := by
  refine ⟨by decide, fun h => ?_, by decide, fun h => ?_, by decide, fun _ => by decide, trivial⟩
  · exact absurd h (by decide)
  · exact absurd h (by decide)

theorem goes_opening {items : List (Item srv)} {es : List Ev} (h : ∀ e ∈ es, e.opens = false ∧ ∀ env, e = .message env → env = quietEnv)
    (e : Ev) (he : e ∈ es) : e.Goes items := by
  obtain ⟨hsame, henv⟩ := h e he
  refine ⟨hsame, fun _ env heq q => ?_⟩
  rw [henv env heq]
  rfl

def fileConn : Conn := newConn (wire fileItems) [some 12, some 100, some 12, some 100, some 12, some 100] [some 12, some 12]

def fileEvents : List Ev :=
  [.message quietEnv, .endPack quietEnv, .message quietEnv, .endPack quietEnv, .message quietEnv]

theorem uploads_stored_file :
    let s0 : Slot := ⟨fileConn, .polling, [], [], []⟩
    ∃ s n, Runs.run (Runs.noted (step defaultServer) (ledger fileItems)) (s0, opening s0) fileEvents = some (s, n) ∧
      s.conn.client.fileDataReady = true ∧ s.conn.fs (str "FILE/file00000000a") = some [1, 2, 3] := by
  intro s0
  have hrun : (Runs.run (Runs.noted (step defaultServer) (ledger fileItems)) (s0, opening s0) fileEvents).map
      (fun p => (p.2.taken, p.2.fileReady)) = some (3, true) := by decide +kernel
  obtain ⟨⟨s, n⟩, hrun, hend⟩ := Option.map_eq_some_iff.mp hrun
  obtain ⟨htaken, hready⟩ : n.taken = 3 ∧ n.fileReady = true := Prod.mk.inj hend
  have hgoes := @goes_opening defaultServer fileItems fileEvents (by simp [fileEvents, Ev.opens])
  have hs : Streams fileItems s0 := ⟨rfl, rfl, rfl, fileItems_inSequence⟩
  obtain ⟨hfs, -, hfile⟩ := uploads_stored hs hgoes hrun
  refine ⟨s, n, hrun, hfile.trans hready, ?_⟩
  rw [hfs, htaken]
  decide +kernel

/-- **A file in parts arrives whole**: with its first part and those after it in, the file is
    their payloads in order, whatever it was before and whatever came between. -/
theorem upload_whole {items is js : List (Item srv)} {r : Request srv} {p : Part} {s0 s : Slot} {n : Ledger} {es : List Ev}
    (hs : Streams items s0) (hes : ∀ e ∈ es, e.Goes items)
    (h : Runs.run (Runs.noted (step srv) (ledger items)) (s0, opening s0) es = some (s, n))
    (htaken : items.take n.taken = is ++ .request r :: js) (hp : r.part = some p) (hfirst : p.first = true)
    (hjs : GoesOn p.kind js) :
    s.conn.fs (p.path s0.conn.client.idx.toNat s0.disk) = some (p.payload ++ payloads p.kind js) := by
  have hd := run_delivering hs hes h
  have hfiles : s.conn.fs = (stored s0.conn.client.idx.toNat (items.take n.taken) s0.disk).files := hd.files
  rw [hfiles, htaken]
  exact stored_whole (fun hh => by cases hh) hp hfirst hjs

theorem upload_whole_file :
    let s0 : Slot := ⟨fileConn, .polling, [], [], []⟩
    ∃ s n, Runs.run (Runs.noted (step defaultServer) (ledger fileItems)) (s0, opening s0) fileEvents = some (s, n) ∧
      s.conn.fs (str "FILE/file00000000a") = some [1, 2, 3] := by
  intro s0
  have hrun : (Runs.run (Runs.noted (step defaultServer) (ledger fileItems)) (s0, opening s0) fileEvents).map
      (fun p => p.2.taken) = some 3 := by decide +kernel
  obtain ⟨⟨s, n⟩, hrun, htaken⟩ := Option.map_eq_some_iff.mp hrun
  have htaken : n.taken = 3 := htaken
  refine ⟨s, n, hrun, ?_⟩
  have hgoes := @goes_opening defaultServer fileItems fileEvents (by simp [fileEvents, Ev.opens])
  have hnext : GoesOn fileBegins.kind [.request requestFive, .request endsUpload] := by
    intro i hi p hp _
    simp only [List.mem_cons, List.not_mem_nil, or_false] at hi
    rcases hi with rfl | rfl
    · cases hp
    · cases hp
      rfl
  have hwhole := @upload_whole defaultServer fileItems [] _ startsUpload fileBegins s0 s n fileEvents
    ⟨rfl, rfl, rfl, fileItems_inSequence⟩ hgoes hrun (by rw [htaken]; rfl) rfl rfl hnext
  have hpath : fileBegins.path s0.conn.client.idx.toNat s0.disk = str "FILE/file00000000a" := by decide +kernel
  rw [hpath] at hwhole
  exact hwhole

/-! ## In company -/

/-- **Every client's files are what it sent.** With all slots at work, in any order: what is in
    a slot's files is its own client's parts, as far as its thread has got. -/
theorem uploads_in_company {i : Nat} {items : List (Item srv)} {w w' : Together} {es : List (Nat × Ev)}
    (hnum : ∀ j, Numbered j (w.slot j)) (hon : (w.slot i).conn.client.online = true) (hs : Streams items (w.view i))
    (hes : ∀ e ∈ own i es, e.Goes items) (hok : RunOk (togetherStep srv) (StepApart srv i) w es)
    (h : run (togetherStep srv) w es = some w') :
    ∃ k ≤ items.length, (∀ p, OwnFile i p → w'.fs p = (stored i (items.take k) (w.view i).disk).files p) ∧
      ((w'.view i).conn.client.online = true → (w'.view i).conn.sock.inp = wire (items.drop k)) ∧
      ((w'.view i).phase = .handling →
        (requests (items.take k)).getLast?.map Prod.snd = some (received (w'.view i).conn.client)) := by
  obtain ⟨t, ht, hin⟩ := run_company hnum hok h
  obtain ⟨n, hn⟩ := @run_noted _ _ (step srv) _ (ledger items) _ _ _ ht (opening (w.view i))
  have hd := run_delivering hs hes hn
  have hidx : (w.view i).conn.client.idx.toNat = i := hnum i hon
  obtain ⟨-, hslot, hconn, hfiles⟩ := hin
  have hi : i < 65536 := hidx ▸ (w.view i).conn.client.idx.isLt
  have htake : items.take (min n.taken items.length) = items.take n.taken := by
    rw [← List.take_eq_take_min]
  refine ⟨min n.taken items.length, Nat.min_le_right _ _, fun p hp => ?_, fun hon' => ?_, fun hph => ?_⟩
  · have hfs := hd.files
    rw [hidx] at hfs
    rw [htake]
    exact (hfiles p (own_notOthers hi hp)).trans (congrFun hfs p)
  · have hclient : (w'.view i).conn.client = t.conn.client := by
      rw [hconn]
      rfl
    have hsock : (w'.view i).conn.sock = t.conn.sock := by
      rw [hconn]
      rfl
    obtain ⟨hle, hinp, -⟩ := hd.stream (hclient ▸ hon')
    rw [hsock, Nat.min_eq_left hle]
    exact hinp
  · have hclient : (w'.view i).conn.client = t.conn.client := by
      rw [hconn]
      rfl
    have hphase : t.phase = .handling := by
      rw [hslot]
      exact hph
    have hdel : n.delivered = requests (items.take n.taken) := hd.delivered
    rw [htake, hclient, ← hdel]
    exact hd.inHand hphase

/-- Slot 0 has the file's client; another is to come. -/
def fileTogether : Together := ⟨fun j => if j = 0 then ⟨fileConn, .polling, [], [], []⟩ else emptySlot, fun _ => none, []⟩

/-- Slot 1's client sends a file of the same name meanwhile. -/
def fileCompany : List (Nat × Ev) :=
  [(1, .accept 1 (twoBytes 0x34 0x16 7 8) [some 12, some 46] [some 12, some 12]), (0, .message quietEnv),
    (1, .message quietEnv), (0, .endPack quietEnv), (0, .message quietEnv), (1, .endPack quietEnv),
    (0, .endPack quietEnv), (0, .message quietEnv)]

theorem fileTogether_numbered (j : Nat) : Numbered j (fileTogether.slot j) := by
  intro hon
  by_cases hj : j = 0
  · subst hj
    rfl
  · have hslot : fileTogether.slot j = emptySlot := if_neg hj
    rw [hslot] at hon
    cases hon

theorem uploads_in_company_file : ∃ w', run (togetherStep defaultServer) fileTogether fileCompany = some w' ∧
    w'.fs (str "FILE/file00000000a") = some [1, 2, 3] := by
  have hrun : (run (togetherStep defaultServer) fileTogether fileCompany).map
      (fun w => ((w.view 0).conn.client.online, (w.view 0).conn.sock.inp)) = some (true, []) := by decide +kernel
  obtain ⟨w', hrun, hend⟩ := Option.map_eq_some_iff.mp hrun
  obtain ⟨hon, hinp⟩ : (w'.view 0).conn.client.online = true ∧ (w'.view 0).conn.sock.inp = [] := Prod.mk.inj hend
  have hs : Streams fileItems (fileTogether.view 0) := ⟨rfl, rfl, rfl, fileItems_inSequence⟩
  obtain ⟨k, hk, hfiles, hrest, -⟩ := uploads_in_company fileTogether_numbered rfl hs
    (goes_opening (by simp [fileCompany, own, Ev.opens])) (by decide +kernel) hrun
  have hall : ∀ k ≤ 3, wire (fileItems.drop k) = [] → k = 3 := by decide +kernel
  have h3 : k = 3 := hall k hk (by rw [← hrest hon, hinp])
  have hown : OwnFile 0 (str "FILE/file00000000a") := Or.inr ⟨[0x61], by decide⟩
  refine ⟨w', hrun, (hfiles _ hown).trans ?_⟩
  subst h3
  decide +kernel

end StarServer.Socket
