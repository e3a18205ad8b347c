/-
  StarServer.Config.Lines — looking a key up in a configuration made of lines.

  A line is `KEY = value` with its value bare, in quotes or empty and perhaps a comment, or a
  section in brackets. The lookup takes the first line that has the key's characters anywhere:
  in a longer key, a value, a comment or a section's name. In the key's own line it reads a bare
  value, and an empty one where nothing at all follows the '='; of a value in quotes it keeps
  nothing, since the first quote is copied as the string's end.

  Proved:
    * `strstr_lines`: the first place of a key is in the first line that has its characters;
    * `own_line_iff`: what is read from the key's own line is its value exactly if the line is
      `Legible`;
    * `config_lookup_iff`: when the lookup of a key gives the value of its line;
    * `quoted_value_lost`: a value in quotes, and a key that ends a longer one.
-/

import Mathlib.Data.List.TakeWhile
import StarServer.Config.Lookup

namespace StarServer.Config

open StarServer.Memory StarServer.Socket

/-! ## Configurations -/

structure Key where
  bytes : List Byte
  some : bytes ≠ []
  plain : ∀ b ∈ bytes, b ≠ 0 ∧ b ≠ newline ∧ b ≠ blank ∧ b ≠ equals

/-- `before` and `after` blanks stand around the '='. -/
structure Entry where
  key : Key
  before : Nat
  after : Nat
  value : List Byte
  quoted : Bool
  comment : Option (List Byte)
  short : value.length ≤ 31
  plain : ∀ b ∈ value, b ≠ 0 ∧ b ≠ newline ∧ b ≠ blank ∧ b ≠ quote
  line : ∀ c, comment = Option.some c → ∀ b ∈ c, b ≠ 0 ∧ b ≠ newline

inductive ConfigLine where
  | entry (e : Entry)
  | header (name : List Byte) (line : ∀ b ∈ name, b ≠ 0 ∧ b ≠ newline)

def Entry.shown (e : Entry) : List Byte := if e.quoted then quote :: (e.value ++ [quote]) else e.value

/-- What stands behind the '='. -/
def Entry.rest (e : Entry) : List Byte :=
  List.replicate e.after blank ++ e.shown ++ e.comment.elim [] (blank :: ·)

def ConfigLine.body : ConfigLine → List Byte
  | .entry e => e.key.bytes ++ List.replicate e.before blank ++ equals :: e.rest
  | .header name _ => 91 :: name ++ [93]

def ConfigLine.render (l : ConfigLine) : List Byte := l.body ++ [newline]

/-- The line is the key's own. -/
def ConfigLine.IsOf (key : Key) : ConfigLine → Prop
  | .entry e => e.key.bytes = key.bytes
  | .header _ _ => False

def entries (lines : List ConfigLine) : List Entry :=
  lines.filterMap fun
    | .entry e => some e
    | .header _ _ => none

structure ConfigText where
  lines : List ConfigLine
  distinct : ((entries lines).map (·.key.bytes)).Nodup

/-- The value of the key's own line, and the empty string if it has none. -/
def ConfigText.value (cfg : ConfigText) (key : Key) : List Byte :=
  ((entries cfg.lines).find? fun e => e.key.bytes = key.bytes).elim [] (·.value)

theorem Entry.rest_nulFree (e : Entry) : 0 ∉ e.rest := by
  unfold Entry.rest Entry.shown
  intro h
  rcases List.mem_append.mp h with h | h
  · rcases List.mem_append.mp h with h | h
    · exact absurd (List.eq_of_mem_replicate h) (by decide)
    · split at h
      · rcases List.mem_cons.mp h with h | h
        · exact absurd h (by decide)
        · rcases List.mem_append.mp h with h | h
          · exact (e.plain 0 h).1 rfl
          · exact absurd (List.mem_singleton.mp h) (by decide)
      · exact (e.plain 0 h).1 rfl
  · cases hc : e.comment with
    | none =>
      rw [hc] at h
      cases h
    | some c =>
      rw [hc] at h
      rcases List.mem_cons.mp h with h | h
      · exact absurd h (by decide)
      · exact (e.line c hc 0 h).1 rfl

theorem ConfigLine.body_nulFree (l : ConfigLine) : 0 ∉ l.body := by
  intro h
  cases l with
  | entry e =>
    rcases List.mem_append.mp h with h | h
    · rcases List.mem_append.mp h with h | h
      · exact (e.key.plain 0 h).1 rfl
      · exact absurd (List.eq_of_mem_replicate h) (by decide)
    · rcases List.mem_cons.mp h with h | h
      · exact absurd h (by decide)
      · exact e.rest_nulFree h
  | header name line =>
    rcases List.mem_cons.mp h with h | h
    · exact absurd h (by decide)
    · rcases List.mem_append.mp h with h | h
      · exact (line 0 h).1 rfl
      · exact absurd (List.mem_singleton.mp h) (by decide)

def ConfigText.text (cfg : ConfigText) : CString where
  bytes := cfg.lines.flatMap ConfigLine.render
  nulFree := by
    intro h
    obtain ⟨l, -, hl⟩ := List.mem_flatMap.mp h
    rcases List.mem_append.mp hl with hl | hl
    · exact l.body_nulFree hl
    · exact absurd (List.mem_singleton.mp hl) (by decide)

def Key.tag (key : Key) : CString := ⟨key.bytes, fun h => (key.plain 0 h).1 rfl⟩

/-- The line has the key's characters in it. -/
def ConfigLine.mentions (key : Key) (l : ConfigLine) : Bool := (strstr key.bytes l.render).isSome

/-- The first of the lines that mentions the key. -/
def FirstMention (key : Key) (lines : List ConfigLine) (l : ConfigLine) : Prop :=
  ∃ before after, lines = before ++ l :: after ∧ (∀ l' ∈ before, l'.mentions key = false) ∧ l.mentions key = true

/-- A comment that opens with a quoted word, which is read as an empty value. -/
def QuotedComment (e : Entry) : Prop :=
  ∃ c word, e.comment = some c ∧ Word (c.dropWhile (· = blank) ++ [newline]) word ∧ word.length < 32 ∧
    word.head? = some quote

/-- The value is bare, or it is empty: in quotes, or with nothing behind the '=', or with a comment
    that is read as such. -/
def Legible (e : Entry) : Prop :=
  if e.quoted then e.value = [] else e.value ≠ [] ∨ (e.after = 0 ∧ e.comment = none) ∨ QuotedComment e

/-- The lookup gives the value of the key's line, whatever was in `value`. -/
def LookupRight (cfg : ConfigText) (key : Key) : Prop := Gives cfg.text key.tag (cfg.value key)

/-! ## The first place of a key -/

variable {key : Key}

theorem prefix_line {l rest : List Byte} (h : key.bytes <+: l ++ newline :: rest) : key.bytes <+: l := by
  by_cases hlen : key.bytes.length ≤ l.length
  · exact List.prefix_of_prefix_length_le h (List.prefix_append l _) hlen
  · -- it would run over the newline
    have hline : l ++ [newline] <+: l ++ newline :: rest := by simp
    have hover : l ++ [newline] <+: key.bytes := by
      refine List.prefix_of_prefix_length_le hline h ?_
      rw [List.length_append, List.length_singleton]
      omega
    have hmem : newline ∈ key.bytes := hover.subset (by simp)
    exact absurd rfl (key.plain _ hmem).2.1

/-- A key is found in a line or behind it. -/
theorem strstr_line (l rest : List Byte) : strstr key.bytes (l ++ newline :: rest) =
    ((strstr key.bytes (l ++ [newline])).map (· ++ rest)).or (strstr key.bytes rest) := by
  have hnone : ∀ l, ¬key.bytes <+: newline :: l := by
    intro l h
    have hnil := @prefix_line key [] l h
    exact key.some (List.prefix_nil.mp hnil)
  induction l with
  | nil =>
    have hnot : ∀ l, key.bytes.isPrefixOf (newline :: l) = false := by
      intro l
      rw [Bool.eq_false_iff, ne_eq, List.isPrefixOf_iff_prefix]
      exact hnone l
    simp [strstr, hnot, key.some]
  | cons b l ih =>
    simp only [List.cons_append, strstr]
    by_cases hp : key.bytes <+: b :: l
    · have hline : ∀ r, key.bytes.isPrefixOf (b :: (l ++ r)) = true := by
        intro r
        rw [List.isPrefixOf_iff_prefix]
        exact hp.trans (List.prefix_append (b :: l) r)
      simp [hline]
    · have hline : ∀ r, key.bytes.isPrefixOf (b :: (l ++ newline :: r)) = false := by
        intro r
        rw [Bool.eq_false_iff, ne_eq, List.isPrefixOf_iff_prefix]
        exact fun h => hp (@prefix_line key (b :: l) r h)
      simp only [hline, Bool.false_eq_true, if_false, ih]

theorem render_lines (l : ConfigLine) (lines : List ConfigLine) : (l :: lines).flatMap ConfigLine.render =
    l.body ++ newline :: lines.flatMap ConfigLine.render := by
  simp [ConfigLine.render]

/-- A key that no line mentions is nowhere. -/
theorem strstr_nowhere {lines : List ConfigLine} (h : ∀ l ∈ lines, l.mentions key = false) (rest : List Byte) :
    strstr key.bytes (lines.flatMap ConfigLine.render ++ rest) = strstr key.bytes rest := by
  induction lines with
  | nil => rfl
  | cons l lines ih =>
    have hl : strstr key.bytes (l.body ++ [newline]) = none := by
      simpa [ConfigLine.mentions, ConfigLine.render] using h l List.mem_cons_self
    rw [render_lines, List.append_assoc, List.cons_append, strstr_line, hl]
    exact ih fun l' hl' => h l' (List.mem_cons_of_mem _ hl')

/-- The first place of a key is in the first line that mentions it. -/
theorem strstr_lines {before after : List ConfigLine} {l : ConfigLine} {occ : List Byte}
    (hbefore : ∀ l ∈ before, l.mentions key = false) (hocc : strstr key.bytes l.render = some occ) :
    strstr key.bytes ((before ++ l :: after).flatMap ConfigLine.render) = some (occ ++ after.flatMap ConfigLine.render) := by
  have hocc' : strstr key.bytes (l.body ++ [newline]) = some occ := hocc
  rw [List.flatMap_append, strstr_nowhere hbefore, render_lines, strstr_line, hocc']
  rfl

/-! ## A word in a line -/

/-- What follows a line does not matter to a word in it. -/
theorem word_line {l : List Byte} (hl : l ≠ []) (rest word : List Byte) :
    Word (l ++ newline :: rest) word ↔ Word (l ++ [newline]) word := by
  induction l generalizing word with
  | nil => exact absurd rfl hl
  | cons b l ih =>
    rw [List.cons_append, List.cons_append, word_cons, word_cons]
    cases l with
    | nil => simp [endsWord]
    | cons d l =>
      have hrest := fun w => ih (by simp) w
      simp only [List.cons_append, List.head?_cons] at hrest ⊢
      simp only [hrest]

theorem dropWhile_line (l rest : List Byte) : (l ++ newline :: rest).dropWhile (· = blank) =
    l.dropWhile (· = blank) ++ newline :: rest := by
  induction l with
  | nil => simp [newline, blank]
  | cons b l ih =>
    rw [List.cons_append, List.dropWhile_cons, List.dropWhile_cons]
    split
    · exact ih
    · rfl

theorem dropWhile_blanks (n : Nat) (l : List Byte) :
    (List.replicate n blank ++ l).dropWhile (· = blank) = l.dropWhile (· = blank) := by
  induction n with
  | zero => rfl
  | succ n ih =>
    rw [List.replicate_succ, List.cons_append, List.dropWhile_cons, if_pos (by simp)]
    exact ih

theorem spelled_nil {word : List Byte} (h : word ≠ []) : spelled word = [] ↔ word.head? = some quote := by
  cases word with
  | nil => exact absurd rfl h
  | cons b word => simp [spelled, List.takeWhile_cons]

/-- A word that starts with a newline starts with no quote. -/
theorem newline_word {rest word : List Byte} (h : Word (newline :: rest) word) : word.head? ≠ some quote := by
  obtain ⟨hsome, ⟨c, more, hl, -⟩, -⟩ := h
  cases word with
  | nil => exact absurd rfl hsome
  | cons b word =>
    have hb : newline = b := (List.cons.inj hl).1
    intro hhead
    have hquote : b = quote := Option.some.inj hhead
    rw [← hb] at hquote
    exact absurd hquote (by decide)

/-- Behind a '=' with a known word. -/
theorem spells_word {post word v : List Byte} (hpost : post.head? ≠ some newline)
    (hword : Word (post.dropWhile (· = blank)) word) : Spells post v ↔ word.length < 32 ∧ spelled word = v := by
  unfold Spells
  rw [if_neg hpost]
  constructor
  · rintro ⟨word', hword', h⟩
    rwa [word_unique hword hword']
  · intro h
    exact ⟨word, hword, h⟩

/-! ## The key's own line -/

/-- What follows the shown value in its line ends a word. -/
theorem comment_ends (e : Entry) (rest : List Byte) : ∃ c more, endsWord c = true ∧
    e.comment.elim [] (blank :: ·) ++ newline :: rest = c :: more := by
  cases e.comment with
  | none => exact ⟨newline, rest, by decide, rfl⟩
  | some c => exact ⟨blank, c ++ newline :: rest, by decide, rfl⟩

/-- The shown value, where there is one, is the word behind the '='. -/
theorem shown_word {e : Entry} {b : Byte} {w : List Byte} (hshown : e.shown = b :: w) (hb : endsWord b = false)
    (hw : ∀ x ∈ w, endsWord x = false) (rest : List Byte) :
    (e.rest ++ newline :: rest).head? ≠ some newline ∧
      Word ((e.rest ++ newline :: rest).dropWhile (· = blank)) e.shown := by
  obtain ⟨c, more, hc, htail⟩ := comment_ends e rest
  have hrest : e.rest ++ newline :: rest = List.replicate e.after blank ++ (b :: w ++ c :: more) := by
    unfold Entry.rest
    rw [hshown, List.append_assoc, htail, List.append_assoc]
  have hbb : b ≠ blank := by
    rintro rfl
    cases hb
  have hbn : b ≠ newline := by
    rintro rfl
    cases hb
  rw [hrest, dropWhile_blanks, List.cons_append, List.dropWhile_cons, if_neg (by simpa using hbb), hshown]
  refine ⟨?_, nofun, ⟨c, more, rfl, hc⟩, hw⟩
  cases e.after with
  | zero => simpa using hbn
  | succ n => simp [List.replicate_succ, newline, blank]

/-- An empty bare value: right behind the '=', behind blanks, or with a comment. -/
theorem bare_empty_iff {e : Entry} (hbare : e.quoted = false) (hempty : e.value = []) (rest : List Byte) :
    Spells (e.rest ++ newline :: rest) [] ↔ (e.after = 0 ∧ e.comment = none) ∨ QuotedComment e := by
  have hshown : e.shown = [] := by simp [Entry.shown, hbare, hempty]
  have hword : ∀ {post : List Byte}, post.head? ≠ some newline → (Spells post [] ↔
      ∃ word, Word (post.dropWhile (· = blank)) word ∧ word.length < 32 ∧ word.head? = some quote) := by
    intro post hpost
    unfold Spells
    rw [if_neg hpost]
    exact exists_congr fun word => and_congr_right fun h => and_congr_right fun _ => spelled_nil h.some
  cases hcomment : e.comment with
  | none =>
    have hnot : ¬QuotedComment e := by
      rintro ⟨c, word, hc, -⟩
      rw [hcomment] at hc
      cases hc
    have hrest : e.rest ++ newline :: rest = List.replicate e.after blank ++ newline :: rest := by
      simp [Entry.rest, hshown, hcomment]
    rw [hrest]
    cases e.after with
    | zero => simp [Spells, hnot]
    | succ n =>
      rw [hword (by simp [List.replicate_succ, newline, blank]), dropWhile_blanks]
      simp only [hnot, Nat.add_one_ne_zero, false_and, or_false, iff_false]
      rintro ⟨word, hstart, -, hhead⟩
      exact newline_word hstart hhead
  | some c =>
    have hrest : e.rest ++ newline :: rest = List.replicate (e.after + 1) blank ++ (c ++ newline :: rest) := by
      simp [Entry.rest, hshown, hcomment, List.replicate_succ']
    rw [hrest, hword (by simp [List.replicate_succ, newline, blank]), dropWhile_blanks, dropWhile_line]
    have hquoted : QuotedComment e ↔ ∃ word, Word (c.dropWhile (· = blank) ++ [newline]) word ∧ word.length < 32 ∧
        word.head? = some quote := by
      unfold QuotedComment
      rw [hcomment]
      simp
    rw [hquoted]
    simp only [reduceCtorEq, and_false, false_or]
    by_cases hc : c.dropWhile (· = blank) = []
    · -- a blank comment: the word starts with the newline
      rw [hc]
      exact iff_of_false (fun ⟨word, hw, _, hh⟩ => newline_word hw hh) (fun ⟨word, hw, _, hh⟩ => newline_word hw hh)
    · simp only [word_line hc]

/-- **The key's own line** gives its value exactly if it is legible. -/
theorem own_line_iff (e : Entry) (rest : List Byte) : Spells (e.rest ++ newline :: rest) e.value ↔ Legible e := by
  have hplain : ∀ b ∈ e.value, endsWord b = false ∧ b ≠ quote := by
    intro b hb
    obtain ⟨-, hn, hbl, hq⟩ := e.plain b hb
    exact ⟨by simp [endsWord, hn, hbl], hq⟩
  unfold Legible
  cases hquoted : e.quoted with
  | true =>
    -- the first quote is the end of the string
    have hshown : e.shown = quote :: (e.value ++ [quote]) := by simp [Entry.shown, hquoted]
    obtain ⟨hhead, hword⟩ := shown_word hshown (by decide) (fun x hx => by
      rcases List.mem_append.mp hx with hx | hx
      · exact (hplain x hx).1
      · rw [List.mem_singleton.mp hx]
        decide) rest
    have hspelled : spelled e.shown = [] := by
      rw [hshown]
      simp [spelled]
    rw [spells_word hhead hword, hspelled, if_pos rfl]
    constructor
    · exact fun h => h.2.symm
    · intro h
      refine ⟨?_, h.symm⟩
      rw [hshown, h]
      decide
  | false =>
    simp only [Bool.false_eq_true, if_false]
    have hbare : e.shown = e.value := by simp [Entry.shown, hquoted]
    cases hvalue : e.value with
    | nil => simpa using bare_empty_iff hquoted hvalue rest
    | cons b w =>
      obtain ⟨hhead, hword⟩ := shown_word (hbare.trans hvalue) (hplain b (by rw [hvalue]; exact List.mem_cons_self)).1
        (fun x hx => (hplain x (by rw [hvalue]; exact List.mem_cons_of_mem _ hx)).1) rest
      have hspelled : spelled e.value = e.value := by
        unfold spelled
        rw [List.takeWhile_eq_self_iff]
        intro x hx
        exact decide_eq_true (hplain x hx).2
      rw [hbare] at hword
      rw [spells_word hhead hword, hspelled, hvalue]
      refine iff_of_true ⟨?_, rfl⟩ (Or.inl (List.cons_ne_nil b w))
      have := e.short
      rw [hvalue] at this
      omega

theorem strstr_self (e : Entry) (rest : List Byte) :
    strstr e.key.bytes (e.key.bytes ++ rest) = some (e.key.bytes ++ rest) := by
  cases hkey : e.key.bytes with
  | nil => exact absurd hkey e.key.some
  | cons b l =>
    simp only [List.cons_append, strstr]
    rw [if_pos]
    rw [List.isPrefixOf_iff_prefix, ← List.cons_append]
    exact List.prefix_append _ _

/-- The key's own line is found at its start. -/
theorem own_render {e : Entry} (h : e.key.bytes = key.bytes) :
    strstr key.bytes (ConfigLine.entry e).render = some (ConfigLine.entry e).render := by
  have hrender : (ConfigLine.entry e).render =
      e.key.bytes ++ (List.replicate e.before blank ++ equals :: e.rest ++ [newline]) := by
    simp [ConfigLine.render, ConfigLine.body]
  rw [hrender, ← h]
  exact strstr_self e _

theorem own_mentions {e : Entry} (h : e.key.bytes = key.bytes) : (ConfigLine.entry e).mentions key = true := by
  unfold ConfigLine.mentions
  rw [own_render h]
  rfl

/-- No line before the first that mentions a key is the key's own. -/
theorem entries_none {lines : List ConfigLine} (h : ∀ l ∈ lines, l.mentions key = false) :
    (entries lines).find? (fun e => e.key.bytes = key.bytes) = none := by
  rw [List.find?_eq_none]
  intro e he hkey
  obtain ⟨l, hl, hentry⟩ := List.mem_filterMap.mp he
  cases l with
  | header name line => cases hentry
  | entry e' =>
    cases hentry
    have hmentions := own_mentions (of_decide_eq_true hkey)
    rw [h _ hl] at hmentions
    cases hmentions

/-- Where the key's own line is the first that mentions it. -/
theorem own_reads {cfg : ConfigText} {e : Entry} (hfirst : FirstMention key cfg.lines (.entry e))
    (hkey : e.key.bytes = key.bytes) : ReadsAs cfg.text.bytes key.bytes (cfg.value key) ↔ Legible e := by
  obtain ⟨before, after, hlines, hbefore, -⟩ := hfirst
  have hvalue : cfg.value key = e.value := by
    unfold ConfigText.value
    have hsplit : entries cfg.lines = entries before ++ e :: entries after := by
      rw [hlines]
      simp [entries]
    rw [hsplit, List.find?_append, entries_none hbefore, List.find?_cons_of_pos (by simpa using hkey)]
    rfl
  have hocc : strstr key.bytes cfg.text.bytes =
      some ((ConfigLine.entry e).render ++ after.flatMap ConfigLine.render) := by
    show strstr key.bytes (cfg.lines.flatMap ConfigLine.render) = _
    rw [hlines]
    exact strstr_lines hbefore (own_render hkey)
  have hseek : seekEquals ((ConfigLine.entry e).render ++ after.flatMap ConfigLine.render) =
      some (e.rest ++ newline :: after.flatMap ConfigLine.render) := by
    refine seekEquals_iff.mpr ⟨e.key.bytes ++ List.replicate e.before blank, ?_, ?_⟩
    · simp [ConfigLine.render, ConfigLine.body]
    · intro hmem
      rcases List.mem_append.mp hmem with hmem | hmem
      · exact (e.key.plain _ hmem).2.2.2 rfl
      · exact absurd (List.eq_of_mem_replicate hmem) (by decide)
  unfold ReadsAs
  simp only [valueAt_iff hocc, hseek, hocc, hvalue, Option.some.injEq, reduceCtorEq, false_and, false_or]
  rw [← own_line_iff e (after.flatMap ConfigLine.render)]
  exact ⟨fun ⟨post, hpost, h⟩ => hpost ▸ h, fun h => ⟨_, rfl, h⟩⟩

/-- **Looking a key up** gives the value of its line exactly if no line mentions the key, or its own
    does first and is legible, or another one does and the text from there happens to read as
    that value. -/
theorem config_lookup_iff (cfg : ConfigText) (key : Key) : LookupRight cfg key ↔
    (∀ l ∈ cfg.lines, l.mentions key = false) ∨ ∃ l, FirstMention key cfg.lines l ∧
      ((∃ e, l = .entry e ∧ e.key.bytes = key.bytes ∧ Legible e) ∨
        (¬l.IsOf key ∧ ReadsAs cfg.text.bytes key.bytes (cfg.value key))) := by
  have hreads : LookupRight cfg key ↔ ReadsAs cfg.text.bytes key.bytes (cfg.value key) :=
    reads_iff cfg.text key.tag (cfg.value key)
  rw [hreads]
  constructor
  · intro h
    rcases hfind : cfg.lines.find? (·.mentions key) with _ | l
    · refine Or.inl fun l hl => ?_
      simpa using List.find?_eq_none.mp hfind l hl
    · obtain ⟨hl, before, after, hlines, hbefore⟩ := List.find?_eq_some_iff_append.mp hfind
      have hfirst : FirstMention key cfg.lines l := ⟨before, after, hlines, fun l' hl' => by simpa using hbefore l' hl', hl⟩
      refine Or.inr ⟨l, hfirst, ?_⟩
      cases l with
      | header name line => exact Or.inr ⟨id, h⟩
      | entry e =>
        by_cases hkey : e.key.bytes = key.bytes
        · exact Or.inl ⟨e, rfl, hkey, (own_reads hfirst hkey).mp h⟩
        · exact Or.inr ⟨hkey, h⟩
  · rintro (hnone | ⟨l, hfirst, ⟨e, rfl, hkey, hlegible⟩ | ⟨-, h⟩⟩)
    · refine Or.inl ⟨?_, ?_⟩
      · have hnowhere := strstr_nowhere hnone []
        rw [List.append_nil] at hnowhere
        exact hnowhere.trans (by simp [strstr, key.some])
      · unfold ConfigText.value
        rw [entries_none hnone]
        rfl
    · exact (own_reads hfirst hkey).mpr hlegible
    · exact h

/-- A line without blanks before the '=' and with one behind it. -/
def plainEntry (key : Key) (value : List Byte) (quoted : Bool) (short : value.length ≤ 31)
    (plain : ∀ b ∈ value, b ≠ 0 ∧ b ≠ newline ∧ b ≠ blank ∧ b ≠ quote) : Entry :=
  ⟨key, 1, 1, value, quoted, none, short, plain, nofun⟩

def passKey : Key := ⟨str "DB_PASS", by decide, by decide⟩

def portKey : Key := ⟨str "PORT", by decide, by decide⟩

def dbPortKey : Key := ⟨str "DB_PORT", by decide, by decide⟩

/-- A password in quotes. -/
def quotedText : ConfigText := ⟨[.entry (plainEntry passKey (str "abc") true (by decide) (by decide))], by decide⟩

/-- Two ports. -/
def portsText : ConfigText :=
  ⟨[.entry (plainEntry dbPortKey (str "3306") false (by decide) (by decide)),
    .entry (plainEntry portKey (str "9009") false (by decide) (by decide))], by decide⟩

/-- **Lost in quotes**: `DB_PASS = 'abc'` gives the empty string; and `PORT` gives the value of
    `DB_PORT`, the line before its own. -/
theorem quoted_value_lost :
    (quotedText.text.bytes = str "DB_PASS = 'abc'\n" ∧ quotedText.value passKey = str "abc" ∧
      Gives quotedText.text passKey.tag [] ∧ ¬LookupRight quotedText passKey) ∧
    portsText.text.bytes = str "DB_PORT = 3306\nPORT = 9009\n" ∧ portsText.value portKey = str "9009" ∧
      Gives portsText.text portKey.tag (str "3306") ∧ ¬LookupRight portsText portKey := by
  have hquoted : Gives quotedText.text passKey.tag [] := fun value =>
    ⟨closed value [0, 97, 98, 99, 0], rfl, closed_named value (by decide)⟩
  have hport : Gives portsText.text portKey.tag (str "3306") := fun value =>
    ⟨closed value (str "3306"), rfl, closed_named value (by decide)⟩
  refine ⟨⟨by decide, by decide, hquoted, fun h => ?_⟩, by decide, by decide, hport, fun h => ?_⟩
  · have hvalue := hquoted.unique h
    revert hvalue
    decide
  · have hvalue := hport.unique h
    revert hvalue
    decide

end StarServer.Config
