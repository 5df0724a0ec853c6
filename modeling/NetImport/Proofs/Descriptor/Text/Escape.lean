import Mathlib.Data.Bool.AllAny
import NetImport.Descriptor.Text.Escape
import NetImport.Descriptor.Text.Token

/-!
# Escapes are resolved

What is written between quotation marks consists of ordinary characters, of escapes of one letter
and of escapes of three octal digits. Such a text ends at the closing mark and not before. The first
two passes of reading leave it as it is, and the third one gives the bytes that it stands for. So a
string and bytes of any content are read back.
-/

namespace NetImport.Descriptor

open NetImport.Text

variable {inside rest : List Char} {bytes others : List UInt8}

/-! ## What is written -/

/-- The letters of the escapes that are written, with the bytes that they denote. -/
def writtenEscapes : List (Char × UInt8) :=
  [('n', 10), ('r', 13), ('t', 9), ('"', 34), ('\'', 39), ('\\', 92)]

/-- A character that stands for itself in a quoted text. -/
def IsOrdinary (character : Char) : Prop :=
  character ≠ '"' ∧ character ≠ '\\' ∧ character ≠ '\n'

instance : DecidablePred IsOrdinary := fun _ => inferInstanceAs (Decidable (_ ∧ _ ∧ _))

/-- The inside of a quoted text as it is written, with the bytes that it stands for. -/
inductive Stands : List Char → List UInt8 → Prop where
  | nil : Stands [] []
  | ordinary {character : Char} {inside : List Char} {bytes : List UInt8}
      (isOrdinary : IsOrdinary character) (further : Stands inside bytes) :
      Stands (character :: inside) (String.utf8EncodeChar character ++ bytes)
  | escape {letter : Char} {byte : UInt8} {inside : List Char} {bytes : List UInt8}
      (written : (letter, byte) ∈ writtenEscapes) (further : Stands inside bytes) :
      Stands ('\\' :: letter :: inside) (byte :: bytes)
  | octal (byte : UInt8) {inside : List Char} {bytes : List UInt8}
      (further : Stands inside bytes) :
      Stands (octalEscape byte.toNat ++ inside) (byte :: bytes)

/-- How a character of the ASCII range is written. -/
theorem escapeAscii_eq : ∀ number < 128,
    (∃ entry ∈ writtenEscapes, entry.2 = UInt8.ofNat number ∧
      escapeAscii number = ['\\', entry.1]) ∨
    escapeAscii number = octalEscape (UInt8.ofNat number).toNat ∨
    (IsOrdinary (Char.ofNat number) ∧ escapeAscii number = [Char.ofNat number] ∧
      String.utf8EncodeChar (Char.ofNat number) = [UInt8.ofNat number]) := by
  decide

theorem stands_escapeAscii {number : Nat} (small : number < 128) (further : Stands inside bytes) :
    Stands (escapeAscii number ++ inside) (UInt8.ofNat number :: bytes) := by
  rcases escapeAscii_eq number small with
    ⟨⟨letter, byte⟩, written, rfl, escaped⟩ | escaped | ⟨isOrdinary, escaped, encoded⟩
  · rw [escaped]
    exact .escape written further
  · rw [escaped]
    exact .octal _ further
  · have stands := Stands.ordinary isOrdinary further
    rw [encoded] at stands
    rw [escaped]
    exact stands

theorem utf8EncodeChar_of_lt {character : Char} (small : character.toNat < 128) :
    String.utf8EncodeChar character = [UInt8.ofNat character.toNat] :=
  if_pos (Nat.le_of_lt_succ small)

theorem stands_escapeChar (character : Char) (further : Stands inside bytes) :
    Stands (escapeChar character ++ inside) (String.utf8EncodeChar character ++ bytes) := by
  unfold escapeChar
  split
  · rename_i small
    rw [utf8EncodeChar_of_lt small]
    exact stands_escapeAscii small further
  · rename_i large
    refine .ordinary ⟨?_, ?_, ?_⟩ further
    · rintro rfl
      exact large (by decide)
    · rintro rfl
      exact large (by decide)
    · rintro rfl
      exact large (by decide)

theorem stands_escapeByte (byte : UInt8) (further : Stands inside bytes) :
    Stands (escapeByte byte ++ inside) (byte :: bytes) := by
  unfold escapeByte
  split
  · rename_i small
    have stands := stands_escapeAscii small further
    rwa [UInt8.ofNat_toNat] at stands
  · exact .octal byte further

theorem stands_escapeText (characters : List Char) :
    Stands (characters.flatMap escapeChar) (characters.flatMap String.utf8EncodeChar) := by
  induction characters with
  | nil => exact .nil
  | cons character characters hypothesis => exact stands_escapeChar character hypothesis

theorem stands_escapeBytes (bytes : List UInt8) : Stands (bytes.flatMap escapeByte) bytes := by
  induction bytes with
  | nil => exact .nil
  | cons byte bytes hypothesis => exact stands_escapeByte byte hypothesis

/-! ## Where a quoted text ends -/

/-- A text of ordinary characters and of pairs, in which a backslash escapes a letter or digit. -/
inductive Paired : List Char → Prop where
  | nil : Paired []
  | ordinary {character : Char} {inside : List Char} (isOrdinary : IsOrdinary character)
      (further : Paired inside) : Paired (character :: inside)
  | pair {letter : Char} {inside : List Char}
      (listed : letter ∈ ['n', 'r', 't', '"', '\'', '\\', '0', '1', '2', '3'])
      (further : Paired inside) : Paired ('\\' :: letter :: inside)

theorem octalDigit_eq : ∀ byte < 256, Nat.digitChar (byte / 64) ∈ ['0', '1', '2', '3'] ∧
    IsOrdinary (Nat.digitChar (byte / 8 % 8)) ∧ IsOrdinary (Nat.digitChar (byte % 8)) := by
  decide +kernel

theorem paired_of_stands (stands : Stands inside bytes) : Paired inside := by
  induction stands with
  | nil => exact .nil
  | ordinary isOrdinary _ hypothesis => exact .ordinary isOrdinary hypothesis
  | @escape letter byte _ _ written _ hypothesis =>
      refine .pair ?_ hypothesis
      have letters : ∀ entry ∈ writtenEscapes,
          entry.1 ∈ ['n', 'r', 't', '"', '\'', '\\', '0', '1', '2', '3'] := by
        decide
      exact letters _ written
  | octal byte _ hypothesis =>
      rcases octalDigit_eq byte.toNat byte.toNat_lt with ⟨first, second, third⟩
      refine .pair ?_ (.ordinary second (.ordinary third hypothesis))
      exact List.mem_append_right ['n', 'r', 't', '"', '\'', '\\'] first

/-- A quoted text ends at its mark. -/
theorem splitQuoted_of_paired (paired : Paired inside) (rest : List Char) :
    Token.splitQuoted '"' (inside ++ '"' :: rest) = (inside ++ ['"'], rest) := by
  induction paired with
  | nil => rw [List.nil_append, Token.splitQuoted.eq_def]; rfl
  | ordinary isOrdinary _ hypothesis =>
      rcases isOrdinary with ⟨noMark, noBackslash, noEnd⟩
      rw [List.cons_append, Token.splitQuoted.eq_def]
      simp only [noEnd, noMark, noBackslash, if_false, hypothesis, List.cons_append]
  | @pair letter _ listed _ hypothesis =>
      have noEnd : letter ≠ '\n' := by
        rintro rfl
        revert listed
        decide
      rw [List.cons_append, List.cons_append, Token.splitQuoted.eq_def]
      simp [noEnd, hypothesis]

/-! ## The passes of reading -/

theorem completeHex_of_paired (paired : Paired inside) : completeHex false inside = inside := by
  induction paired with
  | nil => rfl
  | ordinary isOrdinary _ hypothesis =>
      rw [completeHex, if_neg isOrdinary.2.1, if_neg (by simp), hypothesis]
  | @pair letter _ listed _ hypothesis =>
      have noHex : letter ≠ 'x' := by
        rintro rfl
        revert listed
        decide
      rw [completeHex, if_pos rfl, completeHex]
      split
      · rename_i backslash
        rw [backslash, Bool.not_false, Bool.not_true, hypothesis]
      · rw [if_neg (by simp [noHex]), hypothesis]

theorem resolveNumbers_of_paired (paired : Paired inside) :
    resolveNumbers inside = some inside := by
  induction paired with
  | nil => rfl
  | ordinary isOrdinary _ hypothesis =>
      have noBackslash := isOrdinary.2.1
      simp [resolveNumbers, noBackslash, hypothesis]
  | @pair letter inside listed _ hypothesis =>
      have facts : ∀ letter ∈ ['n', 'r', 't', '"', '\'', '\\', '0', '1', '2', '3'],
          letter ≠ 'u' ∧ letter ≠ 'U' ∧ letter.toNat < 256 := List.all_iff_forall_prop.mp rfl
      rcases facts letter listed with ⟨noSmall, noLarge, small⟩
      simp [resolveNumbers, noSmall, noLarge, small, hypothesis]

theorem encodeUtf8_ofList (characters : List Char) :
    encodeUtf8 (String.ofList characters) = characters.flatMap String.utf8EncodeChar := by
  simp [encodeUtf8, List.utf8Encode]

/-- The bytes of a character other than the backslash are not that of the backslash. -/
theorem ne_of_mem_utf8EncodeChar {character : Char} (other : character ≠ '\\') :
    ∀ byte ∈ String.utf8EncodeChar character, byte ≠ 92 := by
  have value_ne : character.val.toNat ≠ 92 := by
    intro same
    exact other (Char.ext (UInt32.toNat_inj.mp same))
  have byte_ne {number : Nat} (number_ne : number % 256 ≠ 92) : UInt8.ofNat number ≠ 92 := by
    intro same
    have same := congrArg UInt8.toNat same
    rw [UInt8.toNat_ofNat'] at same
    exact number_ne same
  unfold String.utf8EncodeChar
  generalize character.val.toNat = value at *
  simp only
  split
  · rw [List.forall_mem_singleton]
    exact byte_ne (by omega)
  · split
    · rw [List.forall_mem_cons, List.forall_mem_singleton]
      exact ⟨byte_ne (by omega), byte_ne (by omega)⟩
    · split
      · rw [List.forall_mem_cons, List.forall_mem_cons, List.forall_mem_singleton]
        exact ⟨byte_ne (by omega), byte_ne (by omega), byte_ne (by omega)⟩
      · rw [List.forall_mem_cons, List.forall_mem_cons, List.forall_mem_cons,
          List.forall_mem_singleton]
        exact ⟨byte_ne (by omega), byte_ne (by omega), byte_ne (by omega), byte_ne (by omega)⟩

theorem resolveEscapes_append (plain : ∀ byte ∈ bytes, byte ≠ 92) :
    resolveEscapes (bytes ++ others) = (resolveEscapes others).map (bytes ++ ·) := by
  induction bytes with
  | nil => simp
  | cons byte bytes hypothesis =>
      rcases List.forall_mem_cons.mp plain with ⟨first, later⟩
      rw [List.cons_append, resolveEscapes, if_neg first, hypothesis later, Option.map_map]
      rfl

/-- An escape of one letter denotes its byte. -/
theorem escapeAt?_written {letter : Char} {byte : UInt8}
    (written : (letter, byte) ∈ writtenEscapes) :
    escapeAt? (UInt8.ofNat letter.toNat :: others) = some ([byte], 1) := by
  simp only [writtenEscapes, List.mem_cons, Prod.mk.injEq, List.not_mem_nil, or_false] at written
  rcases written with ⟨rfl, rfl⟩ | ⟨rfl, rfl⟩ | ⟨rfl, rfl⟩ | ⟨rfl, rfl⟩ | ⟨rfl, rfl⟩ | ⟨rfl, rfl⟩
    <;> rfl

/-- An escape that begins with an octal digit is read as a number. -/
theorem escapeAt?_digit {byte : UInt8} (digit : isDigitIn 8 (Char.ofNat byte.toNat)) :
    escapeAt? (byte :: others) =
      if ofDigits 8 (octalDigits (byte :: others)) < 256 then
        some ([UInt8.ofNat (ofDigits 8 (octalDigits (byte :: others)))],
          (octalDigits (byte :: others)).length)
      else none := by
  have other {letter : Char} (no_digit : isDigitIn 8 letter = false) :
      Char.ofNat byte.toNat ≠ letter := by
    rintro rfl
    rw [digit] at no_digit
    cases no_digit
  have no_end : Char.ofNat byte.toNat ≠ '\n' := other rfl
  have no_x : Char.ofNat byte.toNat ≠ 'x' := other rfl
  have no_u : Char.ofNat byte.toNat ≠ 'u' := other rfl
  have no_U : Char.ofNat byte.toNat ≠ 'U' := other rfl
  have no_N : Char.ofNat byte.toNat ≠ 'N' := other rfl
  simp only [escapeAt?, no_end, no_x, no_u, no_U, no_N, digit, if_false, if_true]

/-- The digits of a byte are octal digits, and are its digits in base eight. -/
theorem octalDigits_eq : ∀ byte < 256,
    isDigitIn 8 (Char.ofNat (UInt8.ofNat (Nat.digitChar (byte / 64)).toNat).toNat) ∧
      octalDigits [UInt8.ofNat (Nat.digitChar (byte / 64)).toNat,
        UInt8.ofNat (Nat.digitChar (byte / 8 % 8)).toNat,
        UInt8.ofNat (Nat.digitChar (byte % 8)).toNat] = [byte / 64, byte / 8 % 8, byte % 8] := by
  decide +kernel

/-- An escape of three digits denotes its byte. -/
theorem escapeAt?_octal (byte : UInt8) (others : List UInt8) :
    escapeAt? (UInt8.ofNat (Nat.digitChar (byte.toNat / 64)).toNat ::
      UInt8.ofNat (Nat.digitChar (byte.toNat / 8 % 8)).toNat ::
        UInt8.ofNat (Nat.digitChar (byte.toNat % 8)).toNat :: others) = some ([byte], 3) := by
  rcases octalDigits_eq byte.toNat byte.toNat_lt with ⟨digit, digits⟩
  have number : ofDigits 8 [byte.toNat / 64, byte.toNat / 8 % 8, byte.toNat % 8] = byte.toNat := by
    simp only [ofDigits, List.foldl_cons, List.foldl_nil]
    omega
  have first_three {first second third : UInt8} :
      octalDigits (first :: second :: third :: others) = octalDigits [first, second, third] := rfl
  rw [escapeAt?_digit digit, first_three, digits, number, if_pos byte.toNat_lt, UInt8.ofNat_toNat]
  rfl

/-- The escapes of a written text are resolved to the bytes that it stands for. -/
theorem resolveEscapes_of_stands (stands : Stands inside bytes) :
    resolveEscapes (inside.flatMap String.utf8EncodeChar) = some bytes := by
  induction stands with
  | nil => simp [resolveEscapes]
  | ordinary isOrdinary _ hypothesis =>
      rw [List.flatMap_cons, resolveEscapes_append (ne_of_mem_utf8EncodeChar isOrdinary.2.1),
        hypothesis, Option.map_some]
  | @escape letter byte _ _ written _ hypothesis =>
      have small : ∀ entry ∈ writtenEscapes, entry.1.toNat < 128 := by decide
      rw [List.flatMap_cons, List.flatMap_cons, utf8EncodeChar_of_lt (small _ written),
        utf8EncodeChar_of_lt (by decide : '\\'.toNat < 128), List.singleton_append,
        List.singleton_append, resolveEscapes, if_pos (by decide), escapeAt?_written written]
      simp only [List.drop_one, List.tail_cons, hypothesis, Option.map_some, List.singleton_append]
  | octal byte _ hypothesis =>
      have small : ∀ number < 256, (Nat.digitChar (number / 64)).toNat < 128 ∧
          (Nat.digitChar (number / 8 % 8)).toNat < 128 ∧
          (Nat.digitChar (number % 8)).toNat < 128 := by
        decide +kernel
      rcases small byte.toNat byte.toNat_lt with ⟨first, second, third⟩
      simp only [octalEscape, List.cons_append, List.nil_append, List.flatMap_cons,
        utf8EncodeChar_of_lt first, utf8EncodeChar_of_lt second, utf8EncodeChar_of_lt third,
        utf8EncodeChar_of_lt (by decide : '\\'.toNat < 128)]
      rw [resolveEscapes, if_pos (by decide), escapeAt?_octal]
      simp only [List.drop_succ_cons, List.drop_zero, hypothesis, Option.map_some,
        List.singleton_append]

/-- The inside of a quoted text is read as the bytes that it stands for. -/
theorem unescape_of_stands (stands : Stands inside bytes) : unescape inside = some bytes := by
  have paired := paired_of_stands stands
  simp only [unescape, completeHex_of_paired paired, resolveNumbers_of_paired paired,
    Option.bind_eq_bind, Option.bind_some, encodeUtf8_ofList, resolveEscapes_of_stands stands]

end NetImport.Descriptor
