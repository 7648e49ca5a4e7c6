import RpcSession.Json.Reader
import RpcSession.Json.Writer

/-!
# Strings read back

A string is read back from its text, whatever characters it holds: each is escaped in a form that
the reader undoes, or stands for itself.
-/

namespace RpcSession.Json

variable {opening rest : List Char}

/-! ## Escapes -/

/-- A character is escaped by a letter, by its code, or not at all. -/
theorem escapeCharacter_cases (character : Char) :
    (∃ letter, escapeCharacter character = ['\\', letter] ∧
      simpleEscape? letter = some character ∧ letter ≠ 'u' ∧ 0x20 ≤ letter.toNat) ∨
    (character.toNat < 0x20 ∧
      escapeCharacter character = '\\' :: 'u' :: Text.hexDigits 4 character.toNat) ∨
    (escapeCharacter character = [character] ∧ character ≠ '"' ∧ character ≠ '\\' ∧
      0x20 ≤ character.toNat) := by
  have lettered {character letter : Char} (escaped : escapeCharacter character = ['\\', letter])
      (known : simpleEscape? letter = some character) (other : letter ≠ 'u')
      (printable : 0x20 ≤ letter.toNat) :
      ∃ letter, escapeCharacter character = ['\\', letter] ∧
        simpleEscape? letter = some character ∧ letter ≠ 'u' ∧ 0x20 ≤ letter.toNat :=
    ⟨letter, escaped, known, other, printable⟩
  by_cases quote : character = '"'
  · subst quote
    exact .inl (lettered rfl rfl (by decide) (by decide))
  by_cases slash : character = '\\'
  · subst slash
    exact .inl (lettered rfl rfl (by decide) (by decide))
  by_cases newline : character = '\n'
  · subst newline
    exact .inl (lettered rfl rfl (by decide) (by decide))
  by_cases carriage : character = '\r'
  · subst carriage
    exact .inl (lettered rfl rfl (by decide) (by decide))
  by_cases tab : character = '\t'
  · subst tab
    exact .inl (lettered rfl rfl (by decide) (by decide))
  by_cases page : character = '\x0c'
  · subst page
    exact .inl (lettered rfl rfl (by decide) (by decide))
  by_cases back : character = '\x08'
  · subst back
    exact .inl (lettered rfl rfl (by decide) (by decide))
  right
  unfold escapeCharacter
  rw [if_neg quote, if_neg slash, if_neg newline, if_neg carriage, if_neg tab, if_neg page,
    if_neg back]
  by_cases control : character.toNat < 0x20
  · exact .inl ⟨control, if_pos control⟩
  · exact .inr ⟨if_neg control, quote, slash, by omega⟩

theorem hexValue?_digitChar : ∀ digit < 16, hexValue? (Nat.digitChar digit) = some digit := by
  decide

theorem hexDigits_four (code : Nat) :
    Text.hexDigits 4 code = [Nat.digitChar (code / 16 / 16 / 16 % 16),
      Nat.digitChar (code / 16 / 16 % 16), Nat.digitChar (code / 16 % 16),
      Nat.digitChar (code % 16)] := rfl

private theorem takeCodes_code {code : Nat} (small : code < 0x10000) (next : Char) :
    takeCodes opening ('\\' :: 'u' :: Text.hexDigits 4 code ++ next :: rest) = (do
      let (codes, rest) ← takeCodes opening (next :: rest)
      return (code :: codes, rest)) := by
  have unit : codeUnit? (Nat.digitChar (code / 16 / 16 / 16 % 16))
      (Nat.digitChar (code / 16 / 16 % 16)) (Nat.digitChar (code / 16 % 16))
      (Nat.digitChar (code % 16)) = some code := by
    unfold codeUnit?
    rw [hexValue?_digitChar _ (Nat.mod_lt _ (by decide)),
      hexValue?_digitChar _ (Nat.mod_lt _ (by decide)),
      hexValue?_digitChar _ (Nat.mod_lt _ (by decide)),
      hexValue?_digitChar _ (Nat.mod_lt _ (by decide))]
    have joined : ((code / 16 / 16 / 16 % 16 * 16 + code / 16 / 16 % 16) * 16 +
        code / 16 % 16) * 16 + code % 16 = code := by omega
    exact congrArg some joined
  rw [hexDigits_four]
  simp only [List.cons_append, List.nil_append]
  rw [takeCodes]
  simp only [unit]

private theorem takeCodes_simple {character meant : Char}
    (known : simpleEscape? character = some meant) (other : character ≠ 'u') :
    takeCodes opening ('\\' :: character :: rest) = (do
      let (codes, rest) ← takeCodes opening rest
      return (meant.toNat :: codes, rest)) := by
  rw [takeCodes.eq_def]
  split
  · rename_i same
    cases same
  · rename_i same
    cases same
  · rename_i same
    cases same
    split
    · rename_i nothing
      cases nothing
    · rename_i same
      cases same
      exact absurd rfl other
    · rename_i same
      cases same
      rw [known]
  · rename_i slash same
    cases same
    exact absurd rfl slash

private theorem takeCodes_plain {character : Char} (quote : character ≠ '"')
    (slash : character ≠ '\\') (large : 0x20 ≤ character.toNat) :
    takeCodes opening (character :: rest) = (do
      let (codes, rest) ← takeCodes opening rest
      return (character.toNat :: codes, rest)) := by
  rw [takeCodes.eq_def]
  split
  · rename_i same
    cases same
  · rename_i same
    cases same
    exact absurd rfl quote
  · rename_i same
    cases same
    exact absurd rfl slash
  · rename_i same
    cases same
    rw [if_neg (by omega)]

private theorem takeCodes_escapeCharacter (character next : Char) :
    takeCodes opening (escapeCharacter character ++ next :: rest) = (do
      let (codes, rest) ← takeCodes opening (next :: rest)
      return (character.toNat :: codes, rest)) := by
  rcases escapeCharacter_cases character with
    ⟨letter, escaped, known, other, _⟩ | ⟨control, escaped⟩ | ⟨escaped, quote, slash, large⟩ <;>
    rw [escaped]
  · exact takeCodes_simple known other
  · exact takeCodes_code (by omega) next
  · exact takeCodes_plain quote slash large

/-! ## Characters of codes -/

theorem not_isSurrogate (character : Char) :
    isHighSurrogate character.toNat = false ∧ isLowSurrogate character.toNat = false := by
  have range : character.toNat < 0xd800 ∨ 0xdfff < character.toNat :=
    character.valid.imp id And.left
  unfold isHighSurrogate isLowSurrogate
  constructor <;> rw [Bool.and_eq_false_iff, decide_eq_false_iff_not, decide_eq_false_iff_not] <;>
    omega

private theorem characterOfCode_toNat (character : Char) :
    characterOfCode character.toNat = character := by
  rw [characterOfCode, (not_isSurrogate character).1, (not_isSurrogate character).2]
  exact Char.ofNat_toNat character

private theorem joinSurrogates_toNat (characters : List Char) :
    joinSurrogates (characters.map Char.toNat) = characters := by
  match characters with
  | [] => rfl
  | [character] =>
      rw [List.map_singleton, joinSurrogates, characterOfCode_toNat]
  | first :: second :: characters =>
      have rest := joinSurrogates_toNat (second :: characters)
      rw [List.map_cons] at rest
      rw [List.map_cons, List.map_cons, joinSurrogates, (not_isSurrogate first).1, Bool.false_and,
        if_neg (by decide), characterOfCode_toNat, rest]

/-! ## Strings -/

private theorem takeCodes_flatMap (characters : List Char) :
    takeCodes opening (characters.flatMap escapeCharacter ++ '"' :: rest) =
      .ok (characters.map Char.toNat, rest) := by
  induction characters with
  | nil => rfl
  | cons character characters induction =>
      rw [List.flatMap_cons, List.append_assoc]
      have some : ∃ next after,
          characters.flatMap escapeCharacter ++ '"' :: rest = next :: after := by
        cases characters.flatMap escapeCharacter with
        | nil => exact ⟨_, _, rfl⟩
        | cons next after => exact ⟨_, _, rfl⟩
      rcases some with ⟨next, after, split⟩
      rw [split] at induction
      rw [split, takeCodes_escapeCharacter, induction]
      rfl

/-- A string is read back from its text after the opening quote. -/
theorem takeString_renderString (text : String) (rest : List Char) :
    takeString (text.toList.flatMap escapeCharacter ++ '"' :: rest) = .ok (text, rest) := by
  rw [takeString, takeCodes_flatMap]
  have same : String.ofList (joinSurrogates (text.toList.map Char.toNat)) = text := by
    rw [joinSurrogates_toNat, String.ofList_toList]
  exact congrArg (fun read => Except.ok (read, rest)) same

/-! ## Printable texts -/

private theorem printable_of_mem_hexDigits {code : Nat} {character : Char}
    (member : character ∈ Text.hexDigits 4 code) : 0x20 ≤ character.toNat := by
  have printable : ∀ digit < 16, 0x20 ≤ (Nat.digitChar digit).toNat := by decide
  rw [hexDigits_four] at member
  simp only [List.mem_cons, List.not_mem_nil, or_false] at member
  rcases member with rfl | rfl | rfl | rfl <;> exact printable _ (Nat.mod_lt _ (by decide))

theorem printable_of_mem_renderString {text : String} {character : Char}
    (member : character ∈ renderString text) : 0x20 ≤ character.toNat := by
  simp only [renderString, List.cons_append, List.mem_cons, List.mem_append, List.mem_flatMap,
    List.not_mem_nil, or_false] at member
  rcases member with rfl | ⟨original, _, inside⟩ | rfl
  · decide
  · rcases escapeCharacter_cases original with
      ⟨letter, escaped, _, _, printable⟩ | ⟨_, escaped⟩ | ⟨escaped, _, _, printable⟩ <;>
      rw [escaped] at inside
    · rcases List.mem_cons.mp inside with rfl | last
      · decide
      · rw [List.mem_singleton.mp last]
        exact printable
    · rcases List.mem_cons.mp inside with rfl | code
      · decide
      · rcases List.mem_cons.mp code with rfl | digit
        · decide
        · exact printable_of_mem_hexDigits digit
    · rw [List.mem_singleton.mp inside]
      exact printable
  · decide

end RpcSession.Json
