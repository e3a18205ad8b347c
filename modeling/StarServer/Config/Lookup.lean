/-
  StarServer.Config.Lookup — `GetStringValueConfig`, byte by byte.

  The first place of the tag in the text is sought, then the next '=', then a character that is
  no blank; from there on characters are copied, the first of them whatever it is, up to a blank
  or a newline. A quote is copied as a NUL. The text's end stops only the search for '=', and
  then `value` is left as it was; the copying loop goes on past it, and past the end of `value`.

  Proved:
    * `copyValue_iff`: the copying loop returns exactly from a word that ends in the text and
      fits;
    * `reads_iff`: the call gives one string, whatever `value` was, exactly if the text spells it;
    * `lookup_inside_iff`: when the call stops inside its buffers;
    * `lookup_runs_out`: a last line without a newline, a value of 32 characters, no '='.
-/

import StarServer.Socket.State

namespace StarServer.Config

open StarServer.Memory StarServer.Socket

def newline : Byte := 10

def blank : Byte := 32

def quote : Byte := 39

def equals : Byte := 61

/-- A C string, without its NUL. -/
structure CString where
  bytes : List Byte
  nulFree : 0 ∉ bytes

/-! ## The lookup -/

/-- How a call ends: it returns and has left `value`, or it has read behind the text's NUL, or
    written behind the 32 bytes of `value`. -/
inductive Lookup where
  | returned (value : Name32)
  | overread
  | overflow
  deriving DecidableEq

/-- The text from the first place of the tag on. A pointer into a text is what follows it, and
    `[]` is at the NUL. -/
def strstr (tag : List Byte) : List Byte → Option (List Byte)
  | [] => if tag = [] then some [] else none
  | b :: l => if tag.isPrefixOf (b :: l) then some (b :: l) else strstr tag l

/-- What follows the first '='. -/
def seekEquals : List Byte → Option (List Byte)
  | [] => none
  | b :: l => if b = equals then some l else seekEquals l

def endsWord (b : Byte) : Bool := b == newline || b == blank

/-- A character as it is copied. -/
def unquoted (b : Byte) : Byte := if b = quote then 0 else b

/-- `value` with a string and its NUL over the front. -/
def closed (value : Name32) (copied : List Byte) : Name32 := .ofList (overlay value.bytes (copied ++ [0]))

/-- The loop once it has found a character; `copied` are the bytes of `value` up to `idxCount`. -/
def copyValue (value : Name32) (copied : List Byte) : List Byte → Lookup
  | [] =>
    -- the NUL is copied too, and the loop looks at what is behind it
    if copied.length < 32 then .overread else .overflow
  | b :: l =>
    if copied.length < 32 then
      if l.head?.any endsWord then
        if copied.length + 1 < 32 then .returned (closed value (copied ++ [unquoted b])) else .overflow
      else copyValue value (copied ++ [unquoted b]) l
    else .overflow

def getStringValueConfig (configString tag : CString) (value : Name32) : Lookup :=
  match strstr tag.bytes configString.bytes with
  | none => .returned (closed value [])
  | some [] => .overread
  | some (b :: l) =>
    match seekEquals (b :: l) with
    | none => .returned value
    | some firstIdx =>
      if firstIdx.head? = some newline then .returned (closed value [])
      else copyValue value [] (firstIdx.dropWhile (· = blank))

/-! ## What a text spells -/

/-- `l` goes on with `word`, up to the next blank or newline; the word's own first byte may be a
    newline. -/
structure Word (l word : List Byte) : Prop where
  some : word ≠ []
  ended : ∃ c rest, l = word ++ c :: rest ∧ endsWord c = true
  tail : ∀ b ∈ word.tail, endsWord b = false

/-- `post` is what follows the first '=' from the first place of the tag on. -/
def ValueAt (text tag post : List Byte) : Prop :=
  ∃ before, strstr tag text = some (before ++ equals :: post) ∧ equals ∉ before

/-- A word as a C string holds its copy: up to the first quote. -/
def spelled (word : List Byte) : List Byte := word.takeWhile (· ≠ quote)

/-- Right behind a '=' there is a newline, and the value is empty; or else behind the blanks a word
    that is the value up to its first quote. -/
def Spells (post v : List Byte) : Prop :=
  if post.head? = some newline then v = []
  else ∃ word, Word (post.dropWhile (· = blank)) word ∧ word.length < 32 ∧ spelled word = v

/-- The tag is nowhere, or the first '=' from its first place on is followed by the value. -/
def ReadsAs (text tag v : List Byte) : Prop :=
  (strstr tag text = none ∧ v = []) ∨ ∃ post, ValueAt text tag post ∧ Spells post v

/-- The call returns and leaves the C string `v`, whatever was in `value`. -/
def Gives (configString tag : CString) (v : List Byte) : Prop :=
  ∀ value, ∃ out, getStringValueConfig configString tag value = .returned out ∧ Named out v

/-! ## The loops -/

theorem head_ends {l : List Byte} : l.head?.any endsWord = true ↔ ∃ c rest, l = c :: rest ∧ endsWord c = true := by
  cases l with
  | nil => simp
  | cons c l => simp

/-- The first character is always the word's, and it is all of it if the next one ends the word. -/
theorem word_cons {b : Byte} {l word : List Byte} : Word (b :: l) word ↔
    (word = [b] ∧ l.head?.any endsWord = true) ∨ (l.head?.any endsWord = false ∧ ∃ w, word = b :: w ∧ Word l w) := by
  constructor
  · rintro ⟨hsome, ⟨c, rest, hl, hc⟩, htail⟩
    cases word with
    | nil => exact absurd rfl hsome
    | cons b' w =>
      obtain ⟨rfl, hrest⟩ := List.cons.inj hl
      cases w with
      | nil => exact Or.inl ⟨rfl, head_ends.mpr ⟨c, rest, hrest, hc⟩⟩
      | cons d w =>
        have hd : endsWord d = false := htail d List.mem_cons_self
        refine Or.inr ⟨by rw [hrest]; simp [hd], d :: w, rfl, nofun, ⟨c, rest, hrest, hc⟩, ?_⟩
        exact fun x hx => htail x (List.mem_cons_of_mem _ hx)
  · rintro (⟨rfl, hends⟩ | ⟨hgoes, w, rfl, hw⟩)
    · obtain ⟨c, rest, rfl, hc⟩ := head_ends.mp hends
      exact ⟨nofun, ⟨c, rest, rfl, hc⟩, nofun⟩
    · obtain ⟨hsome, ⟨c, rest, rfl, hc⟩, htail⟩ := hw
      refine ⟨nofun, ⟨c, rest, rfl, hc⟩, fun x hx => ?_⟩
      cases w with
      | nil => exact absurd rfl hsome
      | cons d w =>
        rcases List.mem_cons.mp hx with rfl | hx
        · simpa using hgoes
        · exact htail x hx

theorem word_unique {l word word' : List Byte} (h : Word l word) (h' : Word l word') : word = word' := by
  induction l generalizing word word' with
  | nil =>
    obtain ⟨-, ⟨c, rest, hl, -⟩, -⟩ := h
    simp at hl
  | cons b l ih =>
    rcases word_cons.mp h with ⟨rfl, hends⟩ | ⟨hgoes, w, rfl, hw⟩
    · rcases word_cons.mp h' with ⟨rfl, -⟩ | ⟨hgoes, -⟩
      · rfl
      · rw [hends] at hgoes
        cases hgoes
    · rcases word_cons.mp h' with ⟨-, hends⟩ | ⟨-, w', rfl, hw'⟩
      · rw [hends] at hgoes
        cases hgoes
      · rw [ih hw hw']

theorem copyValue_iff {value out : Name32} {copied l : List Byte} :
    copyValue value copied l = .returned out ↔
      ∃ word, Word l word ∧ copied.length + word.length < 32 ∧ out = closed value (copied ++ word.map unquoted) := by
  induction l generalizing copied with
  | nil =>
    constructor
    · intro h
      simp only [copyValue] at h
      split at h <;> cases h
    · rintro ⟨word, ⟨-, ⟨c, rest, hl, -⟩, -⟩, -⟩
      simp at hl
  | cons b l ih =>
    simp only [copyValue, word_cons]
    by_cases hroom : copied.length < 32
    · rw [if_pos hroom]
      by_cases hends : l.head?.any endsWord = true
      · rw [if_pos hends]
        constructor
        · intro h
          split at h
          · cases h
            exact ⟨[b], Or.inl ⟨rfl, hends⟩, by simpa using ‹_›, rfl⟩
          · cases h
        · rintro ⟨word, ⟨rfl, -⟩ | ⟨hgoes, -⟩, hlen, rfl⟩
          · rw [if_pos (by simpa using hlen)]
            rfl
          · rw [hends] at hgoes
            cases hgoes
      · rw [if_neg hends, ih]
        have hgoes : l.head?.any endsWord = false := by simpa using hends
        constructor
        · rintro ⟨w, hw, hlen, rfl⟩
          rw [List.length_append, List.length_singleton] at hlen
          exact ⟨b :: w, Or.inr ⟨hgoes, w, rfl, hw⟩, by rw [List.length_cons]; omega, by simp⟩
        · rintro ⟨word, ⟨-, hbad⟩ | ⟨-, w, rfl, hw⟩, hlen, rfl⟩
          · exact absurd hbad hends
          · rw [List.length_cons] at hlen
            exact ⟨w, hw, by rw [List.length_append, List.length_singleton]; omega, by simp⟩
    · rw [if_neg hroom]
      constructor
      · intro h
        cases h
      · rintro ⟨word, -, hlen, -⟩
        omega

theorem seekEquals_iff {l post : List Byte} :
    seekEquals l = some post ↔ ∃ before, l = before ++ equals :: post ∧ equals ∉ before := by
  induction l with
  | nil => simp [seekEquals]
  | cons b l ih =>
    simp only [seekEquals]
    by_cases hb : b = equals
    · rw [if_pos hb]
      constructor
      · intro h
        cases h
        exact ⟨[], by rw [hb]; rfl, List.not_mem_nil⟩
      · rintro ⟨before, hl, hnot⟩
        cases before with
        | nil => exact congrArg Option.some (List.cons.inj hl).2
        | cons d before =>
          obtain ⟨rfl, -⟩ := List.cons.inj hl
          exact absurd (hb ▸ List.mem_cons_self) hnot
    · rw [if_neg hb, ih]
      constructor
      · rintro ⟨before, rfl, hnot⟩
        exact ⟨b :: before, rfl, by simp [hnot, Ne.symm hb]⟩
      · rintro ⟨before, hl, hnot⟩
        cases before with
        | nil => exact absurd (List.cons.inj hl).1 hb
        | cons d before =>
          obtain ⟨rfl, rfl⟩ := List.cons.inj hl
          exact ⟨before, rfl, fun hmem => hnot (List.mem_cons_of_mem _ hmem)⟩

theorem valueAt_iff {text tag occ post : List Byte} (hocc : strstr tag text = some occ) :
    ValueAt text tag post ↔ seekEquals occ = some post := by
  unfold ValueAt
  rw [hocc, seekEquals_iff]
  simp only [Option.some.injEq]

theorem strstr_suffix {tag l occ : List Byte} (h : strstr tag l = some occ) : occ <:+ l := by
  induction l with
  | nil =>
    simp only [strstr] at h
    split at h <;> cases h
    exact List.suffix_refl _
  | cons b l ih =>
    simp only [strstr] at h
    split at h
    · cases h
      exact List.suffix_refl _
    · exact (ih h).trans (List.suffix_cons b l)

/-! ## What is left in `value` -/

theorem cstr_copied {word : List Byte} (h : 0 ∉ word) : cstr (word.map unquoted) = spelled word := by
  induction word with
  | nil => rfl
  | cons b word ih =>
    have hb : b ≠ 0 := fun he => h (he ▸ List.mem_cons_self)
    have hrest := ih fun hmem => h (List.mem_cons_of_mem _ hmem)
    by_cases hq : b = quote
    · subst hq
      rfl
    · have hkept : unquoted b = b := if_neg hq
      rw [List.map_cons, hkept, cstr_cons hb, hrest]
      simp [spelled, hq]

theorem closed_named (value : Name32) {copied : List Byte} (h : copied.length < 32) :
    Named (closed value copied) (cstr copied) :=
  overlay_cstr value (by omega)

theorem closed_empty (value : Name32) : Named (closed value []) [] := closed_named value (by decide)

/-- Two buffers that hold different strings. -/
theorem two_names (v : List Byte) : ∃ value : Name32, ¬Named value v := by
  by_cases hv : v = []
  · refine ⟨.ofList [65], fun h => ?_⟩
    have hstr := h.str
    rw [hv] at hstr
    revert hstr
    decide
  · refine ⟨.ofList [], fun h => hv ?_⟩
    rw [← h.str]
    decide

/-- A word of the text has no NUL, so that its copy is cut at its first quote. -/
theorem word_copied {configString tag : CString} {post word : List Byte} (hpost : ValueAt configString.bytes tag.bytes post)
    (hword : Word (post.dropWhile (· = blank)) word) : cstr (word.map unquoted) = spelled word := by
  obtain ⟨before, hocc, -⟩ := hpost
  obtain ⟨c, rest, hl, -⟩ := hword.ended
  refine cstr_copied fun h0 => configString.nulFree ?_
  have hmem : 0 ∈ post := (List.dropWhile_suffix _).subset (by rw [hl]; exact List.mem_append_left _ h0)
  exact (strstr_suffix hocc).subset (List.mem_append_right _ (List.mem_cons_of_mem _ hmem))

/-- What is left behind the '=' is what is spelled there. -/
theorem value_read_iff {configString tag : CString} {post : List Byte} (hpost : ValueAt configString.bytes tag.bytes post)
    (v : List Byte) :
    (∀ value, ∃ out, (if post.head? = some newline then Lookup.returned (closed value [])
      else copyValue value [] (post.dropWhile (· = blank))) = .returned out ∧ Named out v) ↔ Spells post v := by
  unfold Spells
  by_cases hempty : post.head? = some newline
  · simp only [hempty, if_true]
    constructor
    · intro h
      obtain ⟨out, hout, hnamed⟩ := h (.ofList [])
      cases hout
      exact hnamed.str.symm.trans (closed_empty _).str
    · intro hv value
      rw [hv]
      exact ⟨_, rfl, closed_empty value⟩
  · simp only [hempty, if_false, copyValue_iff, List.nil_append, List.length_nil, Nat.zero_add]
    constructor
    · intro h
      obtain ⟨out, ⟨word, hword, hlen, hout⟩, hnamed⟩ := h (.ofList [])
      refine ⟨word, hword, hlen, ?_⟩
      rw [← word_copied hpost hword, ← hnamed.str, hout]
      exact ((closed_named _ (by rw [List.length_map]; exact hlen)).str).symm
    · rintro ⟨word, hword, hlen, hv⟩ value
      refine ⟨_, ⟨word, hword, hlen, rfl⟩, ?_⟩
      rw [← hv, ← word_copied hpost hword]
      exact closed_named value (by rw [List.length_map]; exact hlen)

/-- **What the call reads** is what the text spells. -/
theorem reads_iff (configString tag : CString) (v : List Byte) :
    Gives configString tag v ↔ ReadsAs configString.bytes tag.bytes v := by
  unfold Gives ReadsAs getStringValueConfig
  rcases hocc : strstr tag.bytes configString.bytes with _ | _ | ⟨b, l⟩
  · constructor
    · intro h
      obtain ⟨out, hout, hnamed⟩ := h (.ofList [])
      cases hout
      exact Or.inl ⟨rfl, hnamed.str.symm.trans (closed_empty _).str⟩
    · rintro (⟨-, rfl⟩ | ⟨post, ⟨before, hocc', -⟩, -⟩)
      · exact fun value => ⟨_, rfl, closed_empty value⟩
      · rw [hocc] at hocc'
        cases hocc'
  · constructor
    · intro h
      obtain ⟨out, hout, -⟩ := h (.ofList [])
      cases hout
    · rintro (⟨hnone, -⟩ | ⟨post, ⟨before, hocc', -⟩, -⟩)
      · cases hnone
      · rw [hocc] at hocc'
        simp at hocc'
  · rcases hseek : seekEquals (b :: l) with _ | post
    · -- no '=': `value` is left as it was
      simp only [hseek]
      constructor
      · intro h
        obtain ⟨value, hvalue⟩ := two_names v
        obtain ⟨out, hout, hnamed⟩ := h value
        cases hout
        exact absurd hnamed hvalue
      · rintro (⟨hnone, -⟩ | ⟨post, hpost, -⟩)
        · cases hnone
        · rw [valueAt_iff hocc, hseek] at hpost
          cases hpost
    · simp only [hseek]
      have hat : ∀ post', ValueAt configString.bytes tag.bytes post' ↔ post' = post := by
        intro post'
        rw [valueAt_iff hocc, hseek, Option.some.injEq]
        exact eq_comm
      simp only [hat, exists_eq_left, reduceCtorEq, false_and, false_or]
      exact value_read_iff ((hat post).mpr rfl) v

theorem Gives.unique {configString tag : CString} {v v' : List Byte} (h : Gives configString tag v)
    (h' : Gives configString tag v') : v = v' := by
  obtain ⟨out, hout, hnamed⟩ := h (.ofList [])
  obtain ⟨out', hout', hnamed'⟩ := h' (.ofList [])
  rw [hout] at hout'
  cases hout'
  exact hnamed.str.symm.trans hnamed'.str

/-! ## Inside the buffers -/

/-- The call returns, and the string it leaves in `value` depends on the text and the tag alone. -/
def StopsInside (configString tag : CString) : Prop := ∃ v, Gives configString tag v

theorem spells_iff (post : List Byte) : (∃ v, Spells post v) ↔
    post.head? = some newline ∨ ∃ word, Word (post.dropWhile (· = blank)) word ∧ word.length < 32 := by
  unfold Spells
  by_cases hempty : post.head? = some newline
  · simp [hempty]
  · simp only [hempty, if_false, false_or]
    constructor
    · rintro ⟨v, word, hword, hlen, -⟩
      exact ⟨word, hword, hlen⟩
    · rintro ⟨word, hword, hlen⟩
      exact ⟨_, word, hword, hlen, rfl⟩

/-- **The call stops inside its buffers** exactly if the tag is nowhere, or behind its '=' there is a
    newline, or a word that ends before the text does and is shorter than 32 characters. -/
theorem lookup_inside_iff (configString tag : CString) : StopsInside configString tag ↔
    strstr tag.bytes configString.bytes = none ∨ ∃ post, ValueAt configString.bytes tag.bytes post ∧
      (post.head? = some newline ∨ ∃ word, Word (post.dropWhile (· = blank)) word ∧ word.length < 32) := by
  unfold StopsInside
  simp only [reads_iff, ← spells_iff]
  constructor
  · rintro ⟨v, ⟨hnone, -⟩ | ⟨post, hpost, hspells⟩⟩
    · exact Or.inl hnone
    · exact Or.inr ⟨post, hpost, v, hspells⟩
  · rintro (hnone | ⟨post, hpost, v, hspells⟩)
    · exact ⟨[], Or.inl ⟨hnone, rfl⟩⟩
    · exact ⟨v, Or.inr ⟨post, hpost, hspells⟩⟩

def portTag : CString := ⟨str "PORT", by decide⟩

/-- **Past the ends**: the last line has no newline, the value has 40 characters, and the tag stands
    behind the last '='. -/
theorem lookup_runs_out :
    (∀ value, getStringValueConfig ⟨str "PORT=9009", by decide⟩ portTag value = .overread) ∧
      (∀ value, getStringValueConfig ⟨str "PORT=" ++ List.replicate 40 48 ++ [newline], by decide⟩ portTag value = .overflow) ∧
      (∀ value, getStringValueConfig ⟨str "PORT 9009\n", by decide⟩ portTag value = .returned value) ∧
      ¬StopsInside ⟨str "PORT=9009", by decide⟩ portTag := by
  have hover : ∀ value, getStringValueConfig ⟨str "PORT=9009", by decide⟩ portTag value = .overread := fun _ => rfl
  refine ⟨hover, fun _ => rfl, fun _ => rfl, ?_⟩
  rintro ⟨v, h⟩
  obtain ⟨out, hout, -⟩ := h (.ofList [])
  rw [hover] at hout
  cases hout

end StarServer.Config
