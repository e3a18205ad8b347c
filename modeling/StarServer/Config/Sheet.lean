/-
  StarServer.Config.Sheet — the settings file in the layout `ReadConfigFile` writes, with other
  values in it.

  Proved:
    * `entry_silent`: a line mentions no key that is not in its own key, value or comment;
    * `config_round_trip`: settings written in the layout are read back;
    * `second_start`: a second start has the settings of the first, but an empty password.
-/

import StarServer.Config.ReadConfig

namespace StarServer.Config

open StarServer.Memory StarServer.Socket StarServer.Text

/-! ## What a line does not mention -/

theorem strstr_none {tag l : List Byte} : strstr tag l = none ↔ ¬tag <:+: l := by
  induction l with
  | nil =>
    simp only [strstr, List.infix_nil]
    by_cases h : tag = []
    · simp [h]
    · simp [h]
  | cons b l ih =>
    simp only [strstr, List.infix_cons_iff, ← List.isPrefixOf_iff_prefix]
    by_cases h : tag.isPrefixOf (b :: l) = true
    · simp [h]
    · rw [if_neg h, ih]
      simp [h]

/-- Around a character it does not have, a tag is on one side. -/
theorem infix_split {tag l r : List Byte} {c : Byte} (hc : c ∉ tag) (h : tag <:+: l ++ c :: r) : tag <:+: l ∨ tag <:+: r := by
  induction l with
  | nil =>
    rcases List.infix_cons_iff.mp h with hp | hr
    · cases tag with
      | nil => exact Or.inl (List.nil_infix)
      | cons b tag =>
        obtain ⟨rest, hrest⟩ := hp
        exact absurd (List.cons.inj hrest).1 fun hb => hc (hb ▸ List.mem_cons_self)
    · exact Or.inr hr
  | cons b l ih =>
    rcases List.infix_cons_iff.mp h with hp | hr
    · refine Or.inl ?_
      by_cases hlen : tag.length ≤ (b :: l).length
      · exact (List.prefix_of_prefix_length_le hp (List.prefix_append (b :: l) (c :: r)) hlen).isInfix
      · -- it would run over the character
        have hupto : b :: l ++ [c] <+: b :: l ++ c :: r := by simp
        have hover : b :: l ++ [c] <+: tag := by
          refine List.prefix_of_prefix_length_le hupto hp ?_
          rw [List.length_append, List.length_singleton]
          omega
        exact absurd (hover.subset (by simp)) hc
    · rcases ih hr with h | h
      · exact Or.inl (h.trans (List.suffix_cons b l).isInfix)
      · exact Or.inr h

theorem infix_blanks {tag l : List Byte} {c : Byte} (htag : tag ≠ []) (hc : c ∉ tag) (n : Nat) :
    (tag <:+: List.replicate n c ++ l → tag <:+: l) ∧ (tag <:+: l ++ List.replicate n c → tag <:+: l) := by
  have hnil : ¬tag <:+: [] := fun h => htag (List.infix_nil.mp h)
  induction n with
  | zero => simp
  | succ n ih =>
    constructor
    · intro h
      rw [List.replicate_succ, List.cons_append] at h
      exact ih.1 ((infix_split (l := []) hc h).resolve_left hnil)
    · intro h
      rw [List.replicate_succ', ← List.append_assoc] at h
      exact ih.2 ((infix_split hc h).resolve_right hnil)

/-- A line mentions no key that is not in its own key, its value or its comment. -/
theorem entry_silent {key : Key} {e : Entry} (hquote : quote ∉ key.bytes) (hkey : strstr key.bytes e.key.bytes = none)
    (hvalue : strstr key.bytes e.value = none) (hcomment : ∀ c, e.comment = some c → strstr key.bytes c = none) :
    (ConfigLine.entry e).mentions key = false := by
  have hnil : ¬key.bytes <:+: [] := fun h => key.some (List.infix_nil.mp h)
  have hblank : blank ∉ key.bytes := fun h => (key.plain _ h).2.2.1 rfl
  have hequals : equals ∉ key.bytes := fun h => (key.plain _ h).2.2.2 rfl
  have hnewline : newline ∉ key.bytes := fun h => (key.plain _ h).2.1 rfl
  have hshown : ¬key.bytes <:+: e.shown := by
    intro h
    unfold Entry.shown at h
    split at h
    · have hinner := (infix_split (l := []) hquote h).resolve_left hnil
      exact strstr_none.mp hvalue ((infix_split (r := []) hquote hinner).resolve_right hnil)
    · exact strstr_none.mp hvalue h
  have hrest : ¬key.bytes <:+: e.rest := by
    intro h
    unfold Entry.rest at h
    rw [List.append_assoc] at h
    have h := (infix_blanks key.some hblank e.after).1 h
    cases hc : e.comment with
    | none =>
      rw [hc, Option.elim_none, List.append_nil] at h
      exact hshown h
    | some c =>
      rw [hc, Option.elim_some] at h
      rcases infix_split hblank h with h | h
      · exact hshown h
      · exact strstr_none.mp (hcomment c hc) h
  have hline : strstr key.bytes (ConfigLine.entry e).render = none := by
    rw [strstr_none]
    intro h
    rcases infix_split hequals ((infix_split (r := []) hnewline h).resolve_right hnil) with h | h
    · exact strstr_none.mp hkey ((infix_blanks key.some hblank e.before).2 h)
    · exact hrest h
  unfold ConfigLine.mentions
  rw [hline]
  rfl

/-! ## The file as it is written -/

/-- Numbers and strings to be written behind the keys. -/
structure Sheet where
  number : Key → Nat
  string : Key → List Byte
  fits : ∀ key, number key < 2 ^ 31
  plain : ∀ key, ∀ b ∈ string key, b ≠ 0 ∧ b ≠ newline ∧ b ≠ blank ∧ b ≠ quote
  /-- The address has the 32 bytes of `s_szIP`, the others 16 each. -/
  short : ∀ key, (string key).length < if key.bytes = dbIPKey.bytes then 32 else 16
  /-- No string has the characters of a key whose line comes after it. -/
  silent : stringKeys.Pairwise fun a b => strstr b.bytes (string a) = none

/-- Behind PROTOCOL. -/
def protocolComment : List Byte := str "#TCP = 0,UDP =1"

theorem decimal_short {n : Nat} (h : n < 2 ^ 31) : (decimal n).length ≤ 10 := (decimal_length_le (by decide)).mpr (by omega)

theorem digit_plain {b : Byte} (h : IsDigit b) : b ≠ 0 ∧ b ≠ newline ∧ b ≠ blank ∧ b ≠ quote := by
  unfold IsDigit at h
  refine ⟨?_, ?_, ?_, ?_⟩ <;> (intro hb; rw [hb] at h; revert h; decide)

def Sheet.numberEntry (s : Sheet) (key : Key) : Entry where
  key := key
  before := if key.bytes = portKey.bytes then 2 else 1
  after := 1
  value := decimal (s.number key)
  quoted := false
  comment := if key.bytes = protocolKey.bytes then some protocolComment else none
  short := Nat.le_trans (decimal_short (s.fits key)) (by decide)
  plain := fun _ hb => digit_plain (decimal_digits hb)
  line := by
    intro c hc
    split at hc
    · cases hc
      decide
    · cases hc

theorem Sheet.string_fits (s : Sheet) (key : Key) : (s.string key).length ≤ 31 := by
  have h := s.short key
  split at h <;> omega

theorem noComment_line (c : List Byte) (hc : none = some c) : ∀ b ∈ c, b ≠ 0 ∧ b ≠ newline := by cases hc

/-- An empty string is shown in quotes. -/
def Sheet.stringEntry (s : Sheet) (key : Key) : Entry where
  key := key
  before := 1
  after := 1
  value := s.string key
  quoted := (s.string key).isEmpty
  comment := none
  short := s.string_fits key
  plain := s.plain key
  line := noComment_line

def serverHeader : ConfigLine := .header (str "STAR_SOCKET_SERVER_CONFIG") (by decide)

def dbHeader : ConfigLine := .header (str "DB_CONFIG") (by decide)

def Sheet.numberLine (s : Sheet) (key : Key) : ConfigLine := .entry (s.numberEntry key)

def Sheet.stringLine (s : Sheet) (key : Key) : ConfigLine := .entry (s.stringEntry key)

def Sheet.lines (s : Sheet) : List ConfigLine :=
  serverHeader :: numberKeys.map s.numberLine ++ dbHeader :: stringKeys.map s.stringLine

theorem keys_distinct : ((numberKeys ++ stringKeys).map Key.bytes).Nodup := by decide +kernel

def Sheet.text (s : Sheet) : ConfigText := ⟨s.lines, keys_distinct⟩

def Sheet.file (s : Sheet) : List Byte := s.text.text.bytes

/-- The settings of a sheet. -/
def Sheet.config (s : Sheet) : ServerConfig where
  nMaxConnection := BitVec.ofNat 32 (s.number maxCCUKey)
  nDataBuffer := BitVec.ofNat 32 (s.number dataBufferKey)
  nSQLBuffer := BitVec.ofNat 32 (s.number sqlBufferKey)
  nDBMaxConnect := BitVec.ofNat 32 (s.number dbCCUKey)
  nServerMEMG := BitVec.ofNat 32 (s.number serverMemKey)
  bDebugVersion := s.number debugKey != 0
  nPort := BitVec.ofNat 32 (s.number portKey)
  nProtocol := BitVec.ofNat 32 (s.number protocolKey)
  nServerType := BitVec.ofNat 32 (s.number alwaysOnKey)
  nMaxRoom := 0
  nRoomCount := 0
  szDBUser := s.string dbUserKey
  szDBPass := s.string passKey
  szDBName := s.string dbNameKey
  szIP := s.string dbIPKey

/-! ## Each key has its own line first -/

theorem keys_unquoted : ∀ key ∈ numberKeys ++ stringKeys, quote ∉ key.bytes := by decide +kernel

/-- No key is in one that comes before it. -/
theorem keys_apart : (numberKeys ++ stringKeys).Pairwise fun a b => strstr b.bytes a.bytes = none := by decide +kernel

theorem keys_lettered : ∀ key ∈ numberKeys ++ stringKeys, ∃ b ∈ key.bytes, ¬IsDigit b := by decide +kernel

theorem comment_silent : ∀ key ∈ numberKeys ++ stringKeys, strstr key.bytes protocolComment = none := by decide +kernel

theorem headers_silent : ∀ key ∈ numberKeys ++ stringKeys, serverHeader.mentions key = false ∧ dbHeader.mentions key = false := by
  decide +kernel

variable {s : Sheet} {key a : Key}

theorem number_silent (hkey : key ∈ numberKeys ++ stringKeys) (h : strstr key.bytes a.bytes = none) :
    (s.numberLine a).mentions key = false := by
  refine entry_silent (keys_unquoted key hkey) h ?_ fun c hc => ?_
  · -- a number has no letters
    rw [strstr_none]
    intro hin
    obtain ⟨b, hb, hletter⟩ := keys_lettered key hkey
    exact hletter (decimal_digits (hin.subset hb))
  · have hc : (if a.bytes = protocolKey.bytes then some protocolComment else none) = some c := hc
    split at hc
    · cases hc
      exact comment_silent key hkey
    · cases hc

theorem string_silent (hkey : key ∈ numberKeys ++ stringKeys) (h : strstr key.bytes a.bytes = none)
    (hvalue : strstr key.bytes (s.string a) = none) : (s.stringLine a).mentions key = false :=
  entry_silent (keys_unquoted key hkey) h hvalue fun c hc => (by cases hc)

theorem number_first (hkey : key ∈ numberKeys) : FirstMention key s.lines (s.numberLine key) := by
  have hin : key ∈ numberKeys ++ stringKeys := List.mem_append_left _ hkey
  have hapart := (List.pairwise_append.mp keys_apart).1
  obtain ⟨before, after, hsplit⟩ := List.append_of_mem hkey
  rw [hsplit] at hapart
  refine ⟨serverHeader :: before.map s.numberLine, after.map s.numberLine ++ dbHeader :: stringKeys.map s.stringLine, ?_,
    fun l hl => ?_, own_mentions rfl⟩
  · unfold Sheet.lines
    rw [hsplit, List.map_append, List.map_cons, ← List.cons_append, List.append_assoc]
    rfl
  · rcases List.mem_cons.mp hl with rfl | hl
    · exact (headers_silent key hin).1
    · obtain ⟨a, ha, rfl⟩ := List.mem_map.mp hl
      exact number_silent hin ((List.pairwise_append.mp hapart).2.2 a ha key List.mem_cons_self)

theorem string_first (hkey : key ∈ stringKeys) : FirstMention key s.lines (s.stringLine key) := by
  have hin : key ∈ numberKeys ++ stringKeys := List.mem_append_right _ hkey
  obtain ⟨-, hapart, hcross⟩ := List.pairwise_append.mp keys_apart
  have hsilent := s.silent
  obtain ⟨before, after, hsplit⟩ := List.append_of_mem hkey
  rw [hsplit] at hapart hsilent
  refine ⟨serverHeader :: numberKeys.map s.numberLine ++ dbHeader :: before.map s.stringLine, after.map s.stringLine, ?_,
    fun l hl => ?_, own_mentions rfl⟩
  · unfold Sheet.lines
    rw [hsplit, List.map_append, List.map_cons, List.append_assoc, List.cons_append]
    rfl
  · rcases List.mem_append.mp hl with hl | hl
    · rcases List.mem_cons.mp hl with rfl | hl
      · exact (headers_silent key hin).1
      · obtain ⟨a, ha, rfl⟩ := List.mem_map.mp hl
        exact number_silent hin (hcross a ha key hkey)
    · rcases List.mem_cons.mp hl with rfl | hl
      · exact (headers_silent key hin).2
      · obtain ⟨a, ha, rfl⟩ := List.mem_map.mp hl
        exact string_silent hin ((List.pairwise_append.mp hapart).2.2 a ha key List.mem_cons_self)
          ((List.pairwise_append.mp hsilent).2.2 a ha key List.mem_cons_self)

/-! ## The round trip -/

theorem number_legible : Legible (s.numberEntry key) := Or.inl (decimal_ne_nil _)

theorem string_legible : Legible (s.stringEntry key) := by
  unfold Legible
  by_cases h : s.string key = []
  · have hquoted : (s.stringEntry key).quoted = true := List.isEmpty_iff.mpr h
    rw [if_pos hquoted]
    exact h
  · have hbare : ¬(s.stringEntry key).quoted = true := fun hempty => h (List.isEmpty_iff.mp hempty)
    rw [if_neg hbare]
    exact Or.inl h

/-- Every key reads right. -/
theorem sheet_reads (hkey : key ∈ numberKeys ++ stringKeys) : ReadsAs s.file key.bytes (s.text.value key) := by
  rcases List.mem_append.mp hkey with hkey | hkey
  · exact (@own_reads key s.text (s.numberEntry key) (number_first hkey) rfl).mpr number_legible
  · exact (@own_reads key s.text (s.stringEntry key) (string_first hkey) rfl).mpr string_legible

theorem entry_length (e : Entry) : (ConfigLine.entry e).render.length =
    e.key.bytes.length + e.before + e.after + e.shown.length + (e.comment.elim [] (blank :: ·)).length + 2 := by
  simp only [ConfigLine.render, ConfigLine.body, Entry.rest, List.length_append, List.length_cons, List.length_replicate,
    List.length_nil]
  omega

theorem keys_short : ∀ key ∈ numberKeys ++ stringKeys, key.bytes.length ≤ 13 := by decide

theorem line_short {l : ConfigLine} (hl : l ∈ s.lines) : l.render.length ≤ 64 := by
  rcases List.mem_append.mp hl with hl | hl
  · rcases List.mem_cons.mp hl with rfl | hl
    · decide
    · obtain ⟨key, hkey, rfl⟩ := List.mem_map.mp hl
      have hlen := keys_short key (List.mem_append_left _ hkey)
      have hvalue := decimal_short (s.fits key)
      have hentry := entry_length (s.numberEntry key)
      have hshown : (s.numberEntry key).shown.length = (decimal (s.number key)).length := rfl
      have hbefore : (s.numberEntry key).before ≤ 2 := by
        show (if key.bytes = portKey.bytes then 2 else 1) ≤ 2
        split <;> decide
      have hcomment : ((s.numberEntry key).comment.elim [] (blank :: ·)).length ≤ 16 := by
        show ((if key.bytes = protocolKey.bytes then some protocolComment else none).elim [] (blank :: ·)).length ≤ 16
        split <;> decide
      have hafter : (s.numberEntry key).after = 1 := rfl
      have hkeyLen : (s.numberEntry key).key.bytes.length = key.bytes.length := rfl
      exact Nat.le_trans (Nat.le_of_eq hentry) (by omega)
  · rcases List.mem_cons.mp hl with rfl | hl
    · decide
    · obtain ⟨key, hkey, rfl⟩ := List.mem_map.mp hl
      have hlen := keys_short key (List.mem_append_right _ hkey)
      have hentry := entry_length (s.stringEntry key)
      have hshown : (s.stringEntry key).shown.length ≤ 33 := by
        have hvalue := (s.stringEntry key).short
        unfold Entry.shown
        split
        · rw [List.length_cons, List.length_append, List.length_singleton]
          omega
        · omega
      have hbefore : (s.stringEntry key).before = 1 := rfl
      have hafter : (s.stringEntry key).after = 1 := rfl
      have hcomment : ((s.stringEntry key).comment.elim [] (blank :: ·)).length = 0 := rfl
      have hkeyLen : (s.stringEntry key).key.bytes.length = key.bytes.length := rfl
      exact Nat.le_trans (Nat.le_of_eq hentry) (by omega)

theorem file_short (s : Sheet) : s.file.length < 2048 := by
  have hall : ∀ ls : List ConfigLine, (∀ l ∈ ls, l.render.length ≤ 64) →
      (ls.flatMap ConfigLine.render).length ≤ 64 * ls.length := by
    intro ls h
    induction ls with
    | nil => exact Nat.le_refl 0
    | cons l ls ih =>
      have hl := h l List.mem_cons_self
      have hrest := ih fun x hx => h x (List.mem_cons_of_mem _ hx)
      rw [List.flatMap_cons, List.length_append, List.length_cons]
      omega
  have hlines : s.lines.length = 15 := rfl
  have hfile := hall s.lines fun l hl => line_short hl
  rw [hlines] at hfile
  have hsame : s.file.length = (s.lines.flatMap ConfigLine.render).length := rfl
  omega

theorem debug_ne_zero {n : Nat} (h : n < 2 ^ 31) : (BitVec.ofNat 32 n != 0) = (n != 0) := by
  rw [Bool.eq_iff_iff, bne_iff_ne, bne_iff_ne, ne_eq, ne_eq, ← BitVec.toNat_inj]
  have hn : (BitVec.ofNat 32 n).toNat = n := by
    rw [BitVec.toNat_ofNat]
    omega
  rw [hn]
  rfl

theorem sheet_config (s : Sheet) : configOf s.text.value = s.config := by
  have hnumber : ∀ key, atoi (decimal (s.number key)) = BitVec.ofNat 32 (s.number key) := fun key => atoi_decimal (s.fits key)
  have hvalue : ∀ key ∈ numberKeys, s.text.value key = decimal (s.number key) := by
    intro key hkey
    simp only [numberKeys, List.mem_cons, List.not_mem_nil, or_false] at hkey
    rcases hkey with rfl | rfl | rfl | rfl | rfl | rfl | rfl | rfl | rfl <;> rfl
  have hstring : ∀ key ∈ stringKeys, s.text.value key = s.string key := by
    intro key hkey
    simp only [stringKeys, List.mem_cons, List.not_mem_nil, or_false] at hkey
    rcases hkey with rfl | rfl | rfl | rfl <;> rfl
  have hread : ∀ key ∈ numberKeys, atoi (s.text.value key) = BitVec.ofNat 32 (s.number key) :=
    fun key hkey => (congrArg atoi (hvalue key hkey)).trans (hnumber key)
  unfold configOf Sheet.config
  rw [hread maxCCUKey (by simp [numberKeys]), hread dataBufferKey (by simp [numberKeys]), hread sqlBufferKey (by simp [numberKeys]),
    hread dbCCUKey (by simp [numberKeys]), hread serverMemKey (by simp [numberKeys]), hread debugKey (by simp [numberKeys]),
    hread portKey (by simp [numberKeys]), hread protocolKey (by simp [numberKeys]), hread alwaysOnKey (by simp [numberKeys]),
    hstring dbUserKey (by simp [stringKeys]), hstring passKey (by simp [stringKeys]), hstring dbNameKey (by simp [stringKeys]),
    hstring dbIPKey (by simp [stringKeys]), debug_ne_zero (s.fits debugKey)]

/-- A sheet is read as its settings. -/
theorem sheet_readConfig (s : Sheet) (valueBuffer : Name32) : readConfig s.file valueBuffer = some s.config := by
  have hreads : ∀ key ∈ numberKeys ++ stringKeys, ReadsAs (cstr s.file) key.bytes (s.text.value key) := by
    intro key hkey
    have hwhole : cstr s.file = s.file := (cstr_nul_free s.text.text.nulFree).1
    rw [hwhole]
    exact sheet_reads hkey
  have huser : (s.text.value dbUserKey).length < 16 := s.short dbUserKey
  have hpass : (s.text.value passKey).length < 16 := s.short passKey
  have hname : (s.text.value dbNameKey).length < 16 := s.short dbNameKey
  rw [readConfig_reads (file_short s) hreads, if_pos ⟨huser, hpass, hname⟩, sheet_config]

/-- **Settings written in the layout of the file come back**, and the file stays. -/
theorem config_round_trip (s : Sheet) (valueBuffer : Name32) :
    readConfigFile (some s.file) valueBuffer = some (s.config, s.file) := by
  have hread := sheet_readConfig s valueBuffer
  simp only [readConfigFile, hread, Option.map_some]

/-- The values in the file that is written where there is none. -/
def defaultSheet : Sheet where
  number key :=
    if key.bytes = debugKey.bytes then 1
    else if key.bytes = portKey.bytes then 9009
    else if key.bytes = maxCCUKey.bytes then 50
    else if key.bytes = dataBufferKey.bytes then 65536
    else if key.bytes = sqlBufferKey.bytes then 65536
    else if key.bytes = dbCCUKey.bytes then 10
    else if key.bytes = alwaysOnKey.bytes then 1
    else if key.bytes = serverMemKey.bytes then 2
    else 0
  string key :=
    if key.bytes = dbUserKey.bytes then str "root"
    else if key.bytes = dbNameKey.bytes then str "StarDB"
    else if key.bytes = dbIPKey.bytes then str "127.0.0.1"
    else []
  fits key := by
    repeat (first | decide | split)
  plain key := by
    repeat (first | decide | split)
  short key := by
    repeat (first | decide | split)
  silent := by decide

theorem defaultSheet_file : defaultSheet.file = defaultFile := by decide +kernel

/-- **The second start** has the settings of the first, which wrote the file, but no password: the
    one in memory was not the empty one in the file. -/
theorem second_start (valueBuffer valueBuffer' : Name32) :
    readConfigFile none valueBuffer = some (defaultConfig, defaultFile) ∧
      readConfigFile (some defaultFile) valueBuffer' = some ({ defaultConfig with szDBPass := [] }, defaultFile) ∧
      defaultConfig.szDBPass = str "123456" := by
  refine ⟨rfl, ?_, rfl⟩
  have hread := sheet_readConfig defaultSheet valueBuffer'
  rw [defaultSheet_file] at hread
  have hsame : defaultSheet.config = { defaultConfig with szDBPass := [] } := rfl
  simp only [readConfigFile, hread, hsame, Option.map_some]

end StarServer.Config
