import SessionCart.Proofs.Text.Bytes
import SessionCart.Session.Request

/-!
# The sessions that a client can name

A client joins the session it names, or a fresh one if what it names is no identifier. Which texts
are identifiers is said here by their bytes and characters alone; the reading accepts these and no
others, keeps them as they are, and refuses the rest for the first rule that they break. So no
two texts lead to one session, and a request never has an identifier that the next one could not
name.
-/

namespace SessionCart

/-! ### Blanks and control characters -/

namespace Text

/-- The code points with the property White_Space. -/
def whiteSpace : List Nat :=
  [0x0009, 0x000A, 0x000B, 0x000C, 0x000D, 0x0020, 0x0085, 0x00A0, 0x1680, 0x2000, 0x2001, 0x2002,
    0x2003, 0x2004, 0x2005, 0x2006, 0x2007, 0x2008, 0x2009, 0x200A, 0x2028, 0x2029, 0x202F, 0x205F,
    0x3000]

/-- The code points of the category Cc: those before the space, and those from DEL to the last of
the second set. -/
def controls : List Nat := List.range' 0x00 0x20 ++ List.range' 0x7F 0x21

theorem isBlank_iff {c : Char} : isBlank c = true ↔ c.toNat ∈ whiteSpace := by
  simp only [isBlank, inRanges, blankRanges, whiteSpace, List.any_cons, List.any_nil,
    Bool.or_eq_true, Bool.and_eq_true, decide_eq_true_eq, List.mem_cons, List.not_mem_nil,
    Bool.false_eq_true, or_false]
  omega

theorem isControl_iff {c : Char} : isControl c = true ↔ c.toNat ∈ controls := by
  simp only [isControl, controls, Bool.or_eq_true, Bool.and_eq_true, decide_eq_true_eq,
    List.mem_append, List.mem_range'_1]
  omega

def IsLowerHex (c : Char) : Prop := c.isDigit = true ∨ 'a' ≤ c ∧ c ≤ 'f'

instance (c : Char) : Decidable (IsLowerHex c) := inferInstanceAs (Decidable (_ ∨ _))

theorem isLowerHex_iff {c : Char} : IsLowerHex c ↔
    (0x30 ≤ c.toNat ∧ c.toNat ≤ 0x39) ∨ (0x61 ≤ c.toNat ∧ c.toNat ≤ 0x66) := by
  simp only [IsLowerHex, Char.isDigit, Char.le_def, Bool.and_eq_true, decide_eq_true_eq,
    UInt32.le_iff_toNat_le]
  rfl

theorem isLowerHex_hexDigit {n : Nat} (h : n < 16) : IsLowerHex (hexDigit n) :=
  (show ∀ n < 16, IsLowerHex (hexDigit n) by decide) n h

end Text

/-! ### The grammar -/

namespace SessionId

variable {raw : String} {id : SessionId}

/-- The character may be in an identifier. -/
def Allowed (c : Char) : Prop := c.toNat ∉ Text.whiteSpace ∧ c.toNat ∉ Text.controls

/-- The text is an identifier. -/
structure Grammatical (raw : String) : Prop where
  nonempty : raw ≠ ""
  short : (Text.bytes raw).length ≤ 128
  allowed : ∀ c ∈ raw.toList, Allowed c

/-- The right answer to a text: an identifier is kept, and anything else is refused for being
empty, else for its length, else for its characters. -/
structure Answered (raw : String) (out : Except Refusal SessionId) : Prop where
  ok_iff : ∀ id, out = .ok id ↔ Grammatical raw ∧ id.text = raw
  blank_iff : out = .error .blank ↔ raw = ""
  tooLong_iff : ∀ n, out = .error (.tooLong n) ↔
    raw ≠ "" ∧ 128 < (Text.bytes raw).length ∧ n = (Text.bytes raw).length
  invalidCharacter_iff : out = .error .invalidCharacter ↔
    raw ≠ "" ∧ (Text.bytes raw).length ≤ 128 ∧ ∃ c ∈ raw.toList, ¬Allowed c

theorem isForbidden_eq_false_iff {c : Char} : isForbidden c = false ↔ Allowed c := by
  rw [isForbidden, Bool.or_eq_false_iff, Allowed, ← Text.isBlank_iff, ← Text.isControl_iff,
    Bool.not_eq_true, Bool.not_eq_true]

theorem parse_eq_ok_iff_grammatical : parse raw = .ok id ↔ Grammatical raw ∧ id.text = raw := by
  simp only [parse_eq_ok_iff, isForbidden_eq_false_iff]
  constructor
  · rintro ⟨hnonempty, hshort, hallowed, rfl⟩
    exact ⟨⟨hnonempty, hshort, hallowed⟩, rfl⟩
  · rintro ⟨h, rfl⟩
    exact ⟨h.nonempty, h.short, h.allowed, rfl⟩

theorem Grammatical.parse (h : Grammatical raw) : parse raw = .ok ⟨raw⟩ :=
  parse_eq_ok_iff_grammatical.mpr ⟨h, rfl⟩

/-- An identifier that was read once is read again as itself. -/
theorem parse_text_of_parse (h : parse raw = .ok id) : parse id.text = .ok id := by
  obtain ⟨hgrammar, rfl⟩ := parse_eq_ok_iff_grammatical.mp h
  exact hgrammar.parse

theorem parse_eq_ite (raw : String) : parse raw =
    if raw = "" then .error .blank
    else if 128 < (Text.bytes raw).length then .error (.tooLong (Text.bytes raw).length)
    else if raw.toList.any isForbidden then .error .invalidCharacter
    else .ok ⟨raw⟩ := by
  simp only [parse, String.isEmpty_iff]
  rfl

theorem answered_parse (raw : String) : Answered raw (parse raw) where
  ok_iff _ := parse_eq_ok_iff_grammatical
  blank_iff := by
    rw [parse_eq_ite]
    split_ifs with hempty <;> simp [hempty]
  tooLong_iff n := by
    rw [parse_eq_ite]
    split_ifs with hempty hlong
    · simp [hempty]
    · simp [hempty, hlong, eq_comm]
    · simp [hlong]
    · simp [hlong]
  invalidCharacter_iff := by
    simp only [← isForbidden_eq_false_iff, Bool.not_eq_false, ← List.any_eq_true, parse_eq_ite]
    split_ifs with hempty hlong hforbidden
    · simp [hempty]
    · simp [Nat.not_le.mpr hlong]
    · simp [hempty, Nat.not_lt.mp hlong, hforbidden]
    · simp [hforbidden]

/-! ### Fresh identifiers -/

/-- The identifier is made of 32 lower-case hexadecimal digits. -/
structure Minted (id : SessionId) : Prop where
  length_eq : id.text.toList.length = 32
  lowerHex : ∀ c ∈ id.text.toList, Text.IsLowerHex c

theorem minted_generate (entropy : Nat) : (generate entropy).Minted := by
  constructor
  · simp [generate]
  · simp only [generate, String.toList_ofList, List.forall_mem_map]
    intro i _
    split_ifs
    · decide
    · exact Text.isLowerHex_hexDigit (by omega)
    · exact Text.isLowerHex_hexDigit (by omega)

theorem Minted.grammatical (h : id.Minted) : Grammatical id.text where
  nonempty hempty := by simpa [hempty] using h.length_eq
  short := by
    have hascii : ∀ c ∈ id.text.toList, c.toNat < 0x80 := by
      intro c hc
      have := Text.isLowerHex_iff.mp (h.lowerHex c hc)
      omega
    rw [Text.length_bytes_of_ascii hascii, h.length_eq]
    decide
  allowed c hc := by
    have hrange := Text.isLowerHex_iff.mp (h.lowerHex c hc)
    constructor
    · simp only [Text.whiteSpace, List.mem_cons, List.not_mem_nil, or_false]
      omega
    · simp only [Text.controls, List.mem_append, List.mem_range'_1]
      omega

end SessionId

/-! ### The session of a request -/

namespace Request

variable {fresh id : SessionId} {raw : Option String}

/-- The right start of a request whose client names `raw`, where `fresh` is the next fresh
identifier. -/
structure Started (fresh : SessionId) (raw : Option String) (r : Request) : Prop where
  joined_iff : raw = some r.session.text ∧ r.isNew = false ↔
    ∃ text ∈ raw, ∃ id, SessionId.parse text = .ok id
  new_iff : r.session = fresh ∧ r.isNew = true ↔
    ¬∃ text ∈ raw, ∃ id, SessionId.parse text = .ok id
  admitted : SessionId.parse r.session.text = .ok r.session
  uncached : ∀ name, r.get? name = none
  unchanged : ∀ name, r.isChanged name = false

theorem resume_of_parse {text : String} (h : SessionId.parse text = .ok id) :
    resume fresh (some text) = new id := by
  rw [resume, Option.map_some, h]

theorem resume_of_refused (h : ¬∃ text ∈ raw, ∃ id, SessionId.parse text = .ok id) :
    resume fresh raw = { new fresh with isNew := true } := by
  rw [resume]
  split
  · rename_i id hparsed
    obtain ⟨text, hraw, hparse⟩ := Option.map_eq_some_iff.mp hparsed
    exact absurd ⟨text, hraw, id, hparse⟩ h
  · rfl

theorem started_resume (h : fresh.Minted) (raw : Option String) :
    Started fresh raw (resume fresh raw) := by
  by_cases haccepted : ∃ text ∈ raw, ∃ id, SessionId.parse text = .ok id
  · obtain ⟨text, hraw, id, hparse⟩ := haccepted
    cases hraw
    obtain ⟨hgrammar, rfl⟩ := SessionId.parse_eq_ok_iff_grammatical.mp hparse
    rw [resume_of_parse hparse]
    exact {
      joined_iff := iff_of_true ⟨rfl, rfl⟩ ⟨_, rfl, _, hparse⟩
      new_iff := iff_of_false (fun hnew => Bool.noConfusion hnew.2) (not_not.mpr ⟨_, rfl, _, hparse⟩)
      admitted := hparse
      uncached := fun _ => rfl
      unchanged := fun _ => rfl }
  · rw [resume_of_refused haccepted]
    exact {
      joined_iff := iff_of_false (fun hjoined => Bool.noConfusion hjoined.2) haccepted
      new_iff := iff_of_true ⟨rfl, rfl⟩ haccepted
      admitted := h.grammatical.parse
      uncached := fun _ => rfl
      unchanged := fun _ => rfl }

/-- The session a request is in can be named by the next one, which joins it. -/
theorem resume_again (h : fresh.Minted) (raw : Option String) (next : SessionId) :
    resume next (some (resume fresh raw).session.text) = new (resume fresh raw).session :=
  resume_of_parse (started_resume h raw).admitted

/-- A client's text is read by the grammar of identifiers alone, kept as it is, and decides whether
a request joins the session it names or starts one, which the next request can name. -/
theorem admission_by_grammar (h : fresh.Minted) :
    (∀ raw, SessionId.Answered raw (SessionId.parse raw)) ∧
    (∀ raw id, SessionId.parse raw = .ok id → SessionId.parse id.text = .ok id) ∧
    (∀ raw raw' id id', SessionId.parse raw = .ok id → SessionId.parse raw' = .ok id' →
      raw ≠ raw' → id ≠ id') ∧
    (∀ raw, Started fresh raw (resume fresh raw)) ∧
    ∀ raw next, resume next (some (resume fresh raw).session.text) =
      new (resume fresh raw).session := by
  refine ⟨SessionId.answered_parse, fun _ _ => SessionId.parse_text_of_parse, ?_, started_resume h,
    resume_again h⟩
  intro raw raw' id id' hparse hparse' hne heq
  obtain ⟨-, htext⟩ := SessionId.parse_eq_ok_iff_grammatical.mp hparse
  obtain ⟨-, htext'⟩ := SessionId.parse_eq_ok_iff_grammatical.mp hparse'
  exact hne (by rw [← htext, ← htext', heq])

theorem admission_by_grammar_node : (SessionId.generate 7).Minted ∧
    (resume (SessionId.generate 7) (some "JSESSION-42.node1")).isNew = false ∧
    (resume (SessionId.generate 7) (some " abc")).session = SessionId.generate 7 := by
  obtain ⟨-, -, -, hstart, -⟩ := admission_by_grammar (SessionId.minted_generate 7)
  have hnode : SessionId.parse "JSESSION-42.node1" = .ok ⟨"JSESSION-42.node1"⟩ := rfl
  have hspace : SessionId.parse " abc" = .error .invalidCharacter := rfl
  refine ⟨SessionId.minted_generate 7, ((hstart _).joined_iff.mpr ⟨_, rfl, _, hnode⟩).2,
    ((hstart _).new_iff.mpr ?_).1⟩
  rintro ⟨_, ⟨⟩, id, hparse⟩
  rw [hspace] at hparse
  cases hparse

end Request

end SessionCart
