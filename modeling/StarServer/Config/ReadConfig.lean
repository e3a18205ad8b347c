/-
  StarServer.Config.ReadConfig — `ReadConfigFile`: the settings in `config.sv2`, and the file
  it writes where there is none.

  The file is read into 2048 bytes. Thirteen keys are looked up in it one after the other, all
  through the one `valueBuffer`, which is not initialised: a key without a '=' behind it leaves
  there what the key before it left. Nine values go through `atoi`; user, password and
  name of the database are copied into 16 bytes each, its address into 32.

  Proved:
    * `readConfig_reads`: where every key reads right, the settings are the values, and it is
      inside its arrays exactly if the three strings have fewer than 16 characters;
    * `atoi_decimal`: a number that fits an int is read back.
-/

import StarServer.Config.Lines
import StarServer.Config.Memory
import StarServer.Text.Decimal

namespace StarServer.Config

open StarServer.Memory StarServer.Socket StarServer.Text

/-! ## Numbers -/

/-- `isspace`. -/
def isSpace (b : Byte) : Bool := b == blank || (9 ≤ b.toNat && b.toNat ≤ 13)

/-- `strtol` in base 10, with the ends of a `long`. -/
def strtol (s : List Byte) : Int :=
  match s.dropWhile isSpace with
  | 45 :: l => max (-9223372036854775808) (-(value (l.takeWhile IsDigit) : Int))
  | 43 :: l => min 9223372036854775807 (value (l.takeWhile IsDigit) : Int)
  | l => min 9223372036854775807 (value (l.takeWhile IsDigit) : Int)

def atoi (s : List Byte) : BitVec 32 := BitVec.ofInt 32 (strtol s)

/-! ## The settings -/

/-- The globals that `ReadConfigFile` sets; the strings without their NUL. -/
structure ServerConfig extends Settings where
  bDebugVersion : Bool
  nPort : BitVec 32
  nProtocol : BitVec 32
  nServerType : BitVec 32
  nMaxRoom : BitVec 32
  nRoomCount : BitVec 32
  szDBUser : List Byte
  szDBPass : List Byte
  szDBName : List Byte
  szIP : List Byte

def debugKey : Key := ⟨str "DEBUG", by decide, by decide⟩

def protocolKey : Key := ⟨str "PROTOCOL", by decide, by decide⟩

def maxCCUKey : Key := ⟨str "MAX_CCU", by decide, by decide⟩

def dataBufferKey : Key := ⟨str "DATA_BUFFER", by decide, by decide⟩

def sqlBufferKey : Key := ⟨str "SQL_BUFFER", by decide, by decide⟩

def dbCCUKey : Key := ⟨str "DB_CCU", by decide, by decide⟩

def alwaysOnKey : Key := ⟨str "ALWAYON", by decide, by decide⟩

def serverMemKey : Key := ⟨str "SERVERMEM(GB)", by decide, by decide⟩

def dbUserKey : Key := ⟨str "DB_USER", by decide, by decide⟩

def dbNameKey : Key := ⟨str "DB_NAME", by decide, by decide⟩

def dbIPKey : Key := ⟨str "DB_IP", by decide, by decide⟩

/-- The keys with a number, in the order they are looked up. -/
def numberKeys : List Key :=
  [debugKey, portKey, protocolKey, maxCCUKey, dataBufferKey, sqlBufferKey, dbCCUKey, alwaysOnKey, serverMemKey]

/-- The keys with a string. -/
def stringKeys : List Key := [dbUserKey, passKey, dbNameKey, dbIPKey]

/-- A lookup into `valueBuffer`, and the C string that is in it then. -/
def readValue (configBuffer : CString) (key : Key) (valueBuffer : Name32) : Option (List Byte × Name32) :=
  match getStringValueConfig configBuffer key.tag valueBuffer with
  | .returned value => if value.bytes.any (· == 0) then some (cstr value.bytes, value) else none
  | _ => none

/-- `strcpy` into a `char[16]`. -/
def copy16 (s : List Byte) : Option (List Byte) := if s.length < 16 then some s else none

theorem nul_not_mem_cstr (l : List Byte) : 0 ∉ cstr l := by
  intro h
  have h0 := List.mem_takeWhile_imp h
  simp at h0

/-- What `configBuffer` holds as a C string. -/
def asText (file : List Byte) : CString := ⟨cstr file, nul_not_mem_cstr file⟩

/-- `ReadConfigFile` with a file; `none` where it leaves an array. -/
def readConfig (file : List Byte) (valueBuffer : Name32) : Option ServerConfig :=
  if file.length < 2048 then do
    let configBuffer := asText file
    let (debug, v) ← readValue configBuffer debugKey valueBuffer
    let (port, v) ← readValue configBuffer portKey v
    let (protocol, v) ← readValue configBuffer protocolKey v
    let (maxCCU, v) ← readValue configBuffer maxCCUKey v
    let (dataBuffer, v) ← readValue configBuffer dataBufferKey v
    let (sqlBuffer, v) ← readValue configBuffer sqlBufferKey v
    let (dbCCU, v) ← readValue configBuffer dbCCUKey v
    let (alwaysOn, v) ← readValue configBuffer alwaysOnKey v
    let (serverMem, v) ← readValue configBuffer serverMemKey v
    let (dbUser, v) ← readValue configBuffer dbUserKey v
    let szDBUser ← copy16 dbUser
    let (dbPass, v) ← readValue configBuffer passKey v
    let szDBPass ← copy16 dbPass
    let (dbName, v) ← readValue configBuffer dbNameKey v
    let szDBName ← copy16 dbName
    let (dbIP, _) ← readValue configBuffer dbIPKey v
    some {
      nMaxConnection := atoi maxCCU, nDataBuffer := atoi dataBuffer, nSQLBuffer := atoi sqlBuffer
      nDBMaxConnect := atoi dbCCU, nServerMEMG := atoi serverMem
      bDebugVersion := atoi debug != 0, nPort := atoi port, nProtocol := atoi protocol, nServerType := atoi alwaysOn
      nMaxRoom := 0, nRoomCount := 0, szDBUser, szDBPass, szDBName, szIP := dbIP }
  else none

/-- The settings without a file. -/
def defaultConfig : ServerConfig :=
  { defaultSettings with
    bDebugVersion := true, nPort := 9009, nProtocol := 0, nServerType := 1, nMaxRoom := 0, nRoomCount := 0
    szDBUser := str "root", szDBPass := str "123456", szDBName := str "StarDB", szIP := str "127.0.0.1" }

/-- The file that is written then. -/
def defaultFile : List Byte :=
  str "[STAR_SOCKET_SERVER_CONFIG]\nDEBUG = 1\nPORT  = 9009\nPROTOCOL = 0 #TCP = 0,UDP =1\nMAX_CCU = 50\n" ++
    str "DATA_BUFFER = 65536\nSQL_BUFFER = 65536\nDB_CCU = 10\nALWAYON = 1\nSERVERMEM(GB) = 2\n[DB_CONFIG]\n" ++
    str "DB_USER = root\nDB_PASS = ''\nDB_NAME = StarDB\nDB_IP = 127.0.0.1\n"

/-- `ReadConfigFile`: the settings, and what is in `config.sv2` after it. -/
def readConfigFile (disk : Option (List Byte)) (valueBuffer : Name32) : Option (ServerConfig × List Byte) :=
  match disk with
  | some file => (readConfig file valueBuffer).map fun c => (c, file)
  | none => some (defaultConfig, defaultFile)

/-! ## Any file that reads right -/

theorem readValue_reads {configBuffer : CString} {key : Key} {v : List Byte}
    (h : ReadsAs configBuffer.bytes key.bytes v) (valueBuffer : Name32) :
    ∃ out, readValue configBuffer key valueBuffer = some (v, out) := by
  obtain ⟨out, hout, hnamed⟩ := (reads_iff configBuffer key.tag v).mpr h valueBuffer
  have hnul : out.bytes.any (· == 0) = true := List.any_eq_true.mpr ⟨0, hnamed.nul, rfl⟩
  refine ⟨out, ?_⟩
  unfold readValue
  simp only [hout, if_pos hnul, hnamed.str]

/-- The settings that are these values. -/
def configOf (v : Key → List Byte) : ServerConfig where
  nMaxConnection := atoi (v maxCCUKey)
  nDataBuffer := atoi (v dataBufferKey)
  nSQLBuffer := atoi (v sqlBufferKey)
  nDBMaxConnect := atoi (v dbCCUKey)
  nServerMEMG := atoi (v serverMemKey)
  bDebugVersion := atoi (v debugKey) != 0
  nPort := atoi (v portKey)
  nProtocol := atoi (v protocolKey)
  nServerType := atoi (v alwaysOnKey)
  nMaxRoom := 0
  nRoomCount := 0
  szDBUser := v dbUserKey
  szDBPass := v passKey
  szDBName := v dbNameKey
  szIP := v dbIPKey

/-- **The settings are the values**, whatever was in `valueBuffer`, and the three strings that are
    copied have to fit. -/
theorem readConfig_reads {file : List Byte} {v : Key → List Byte} (hlen : file.length < 2048)
    (h : ∀ key ∈ numberKeys ++ stringKeys, ReadsAs (cstr file) key.bytes (v key)) (valueBuffer : Name32) :
    readConfig file valueBuffer =
      if (v dbUserKey).length < 16 ∧ (v passKey).length < 16 ∧ (v dbNameKey).length < 16 then some (configOf v) else none := by
  have hread : ∀ key ∈ numberKeys ++ stringKeys, ∀ buf, ∃ out, readValue (asText file) key buf = some (v key, out) :=
    fun key hkey buf => @readValue_reads (asText file) key (v key) (h key hkey) buf
  obtain ⟨v1, h1⟩ := hread debugKey (by simp [numberKeys]) valueBuffer
  obtain ⟨v2, h2⟩ := hread portKey (by simp [numberKeys]) v1
  obtain ⟨v3, h3⟩ := hread protocolKey (by simp [numberKeys]) v2
  obtain ⟨v4, h4⟩ := hread maxCCUKey (by simp [numberKeys]) v3
  obtain ⟨v5, h5⟩ := hread dataBufferKey (by simp [numberKeys]) v4
  obtain ⟨v6, h6⟩ := hread sqlBufferKey (by simp [numberKeys]) v5
  obtain ⟨v7, h7⟩ := hread dbCCUKey (by simp [numberKeys]) v6
  obtain ⟨v8, h8⟩ := hread alwaysOnKey (by simp [numberKeys]) v7
  obtain ⟨v9, h9⟩ := hread serverMemKey (by simp [numberKeys]) v8
  obtain ⟨v10, h10⟩ := hread dbUserKey (by simp [stringKeys]) v9
  obtain ⟨v11, h11⟩ := hread passKey (by simp [stringKeys]) v10
  obtain ⟨v12, h12⟩ := hread dbNameKey (by simp [stringKeys]) v11
  obtain ⟨v13, h13⟩ := hread dbIPKey (by simp [stringKeys]) v12
  have hshort : ∀ {l : List Byte}, l.length < 16 → copy16 l = some l := fun h => if_pos h
  have hlong : ∀ {l : List Byte}, ¬l.length < 16 → copy16 l = none := fun h => if_neg h
  have hgoes : ∀ {α : Type} {o : Option α} {a : α} (_ : o = some a) (f : α → Option ServerConfig), o >>= f = f a :=
    fun ho f => by rw [ho]; rfl
  have hstops : ∀ {α : Type} {o : Option α} (_ : o = none) (f : α → Option ServerConfig), o >>= f = none :=
    fun ho f => by rw [ho]; rfl
  unfold readConfig
  rw [if_pos hlen]
  refine (hgoes h1 _).trans ((hgoes h2 _).trans ((hgoes h3 _).trans ((hgoes h4 _).trans ((hgoes h5 _).trans ?_))))
  refine (hgoes h6 _).trans ((hgoes h7 _).trans ((hgoes h8 _).trans ((hgoes h9 _).trans ((hgoes h10 _).trans ?_))))
  by_cases huser : (v dbUserKey).length < 16
  · refine (hgoes (hshort huser) _).trans ((hgoes h11 _).trans ?_)
    by_cases hpass : (v passKey).length < 16
    · refine (hgoes (hshort hpass) _).trans ((hgoes h12 _).trans ?_)
      by_cases hname : (v dbNameKey).length < 16
      · refine (hgoes (hshort hname) _).trans ((hgoes h13 _).trans ?_)
        rw [if_pos ⟨huser, hpass, hname⟩]
        rfl
      · rw [if_neg fun hall => hname hall.2.2]
        exact hstops (hlong hname) _
    · rw [if_neg fun hall => hpass hall.2.1]
      exact hstops (hlong hpass) _
  · rw [if_neg fun hall => huser hall.1]
    exact hstops (hlong huser) _

/-! ## Numbers written and read -/

theorem atoi_decimal {n : Nat} (h : n < 2 ^ 31) : atoi (decimal n) = BitVec.ofNat 32 n := by
  obtain ⟨b, l, hl⟩ := List.exists_cons_of_ne_nil (decimal_ne_nil n)
  have hdigit : IsDigit b := decimal_digits (n := n) (by rw [hl]; exact List.mem_cons_self)
  have hall : (decimal n).takeWhile IsDigit = decimal n := by
    rw [List.takeWhile_eq_self_iff]
    exact fun x hx => decide_eq_true (decimal_digits hx)
  have hspace : isSpace b = false := by
    unfold IsDigit at hdigit
    have hblank : b ≠ blank := by
      intro hb
      rw [hb] at hdigit
      revert hdigit
      decide
    simp only [isSpace, Bool.or_eq_false_iff, Bool.and_eq_false_iff, decide_eq_false_iff_not, beq_eq_false_iff_ne]
    exact ⟨hblank, Or.inr (by omega)⟩
  have hdrop : (decimal n).dropWhile isSpace = decimal n := by
    rw [hl, List.dropWhile_cons, if_neg (by rw [hspace]; decide)]
  have hminus : b ≠ 45 := by
    intro hb
    rw [hb] at hdigit
    revert hdigit
    decide
  have hplus : b ≠ 43 := by
    intro hb
    rw [hb] at hdigit
    revert hdigit
    decide
  have hvalue : strtol (decimal n) = (n : Int) := by
    unfold strtol
    rw [hdrop]
    split
    · rename_i l' heq
      rw [hl] at heq
      exact absurd (List.cons.inj heq).1 hminus
    · rename_i l' heq
      rw [hl] at heq
      exact absurd (List.cons.inj heq).1 hplus
    · rw [hall, value_decimal]
      omega
  unfold atoi
  rw [hvalue]
  exact BitVec.ofInt_natCast 32 n

end StarServer.Config
