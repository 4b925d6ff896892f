/-! # Bytes that may spell a text

The names that a file system keeps are bytes. Most of them spell a text in UTF-8, but none has to.
`Text.pieces` cuts bytes into the characters that they spell and the stray bytes between them.
`Text.text?` gives the text of bytes that spell one (`text?_eq_some_iff`), and `Text.shown` is what
can be shown of any bytes: it puts the replacement character in the place of stray ones, so
different bytes may be shown alike.
-/

namespace DocMarkers

/-- Bytes in a row. -/
abbrev Bytes := List UInt8

namespace Text

/-- The bytes of characters. -/
def encode (text : List Char) : Bytes :=
  text.flatMap String.utf8EncodeChar

/-- The bytes of a text. -/
def utf8 (text : String) : Bytes :=
  encode text.toList

instance : Coe String Bytes where
  coe := utf8

instance : Coe (List String) (List Bytes) where
  coe := List.map utf8

/-- The character that stands at the start of bytes; none has more than four. -/
def charAt? (bytes : Bytes) : Option Char :=
  (bytes.take 4).toByteArray.utf8DecodeChar? 0

/-- Whether a byte can stand behind the first one of a character. -/
def isContinuation (byte : UInt8) : Bool :=
  0x80 ≤ byte && byte ≤ 0xBF

/-- Whether two bytes can start a character that has more of them. -/
def startsLong (first second : UInt8) : Bool :=
  if first = 0xE0 then 0xA0 ≤ second && second ≤ 0xBF
  else if first = 0xED then 0x80 ≤ second && second ≤ 0x9F
  else if first = 0xF0 then 0x90 ≤ second && second ≤ 0xBF
  else if first = 0xF4 then 0x80 ≤ second && second ≤ 0x8F
  else 0xE1 ≤ first && first ≤ 0xF3 && isContinuation second

/-- How many bytes are stray together, where no character stands: the start of a character counts as
a whole. -/
def strayLength : Bytes → Nat
  | first :: second :: rest =>
    if startsLong first second then
      if 0xF0 ≤ first && rest.head?.any isContinuation then 3 else 2
    else 1
  | _ => 1

/-- A part of bytes. -/
inductive Piece where
  /-- Bytes that spell a character. -/
  | char (c : Char)
  /-- Bytes that spell none. -/
  | stray (bytes : Bytes)
  deriving DecidableEq

namespace Piece

/-- The bytes of a part. -/
def bytes : Piece → Bytes
  | char c => String.utf8EncodeChar c
  | stray bytes => bytes

/-- The character that is shown for a part. -/
def shown : Piece → Char
  | char c => c
  | stray _ => '\uFFFD'

end Piece

/-- The parts of bytes behind the first `skipped` of them. -/
def piecesAfter : (skipped : Nat) → Bytes → List Piece
  | _, [] => []
  | skipped + 1, _ :: rest => piecesAfter skipped rest
  | 0, first :: rest =>
    match charAt? (first :: rest) with
    | some c => .char c :: piecesAfter (c.utf8Size - 1) rest
    | none =>
      let size := strayLength (first :: rest)
      .stray (first :: rest.take (size - 1)) :: piecesAfter (size - 1) rest

/-- The characters that bytes spell, and the stray bytes between them. -/
def pieces (bytes : Bytes) : List Piece :=
  piecesAfter 0 bytes

/-- Bytes as a text, with a replacement character for stray ones. -/
def shown (bytes : Bytes) : String :=
  String.ofList ((pieces bytes).map Piece.shown)

/-- The text that bytes spell, if they spell one. -/
def text? (bytes : Bytes) : Option String :=
  if utf8 (shown bytes) = bytes then some (shown bytes) else none

theorem charAt?_eq_some_iff {bytes : Bytes} {c : Char} :
    charAt? bytes = some c ↔ ∃ rest, bytes = String.utf8EncodeChar c ++ rest := by
  constructor
  · intro decoded
    obtain ⟨rest, start⟩ := ByteArray.exists_of_utf8DecodeChar?_eq_some decoded
    have taken : bytes.take 4 = String.utf8EncodeChar c ++ rest.data.toList := by
      have lists := congrArg (fun array : ByteArray => array.data.toList) start
      simpa using lists
    refine ⟨rest.data.toList ++ bytes.drop 4, ?_⟩
    rw [← List.append_assoc, ← taken, List.take_append_drop]
  · rintro ⟨rest, rfl⟩
    have size : (String.utf8EncodeChar c).length ≤ 4 := by
      rw [String.length_utf8EncodeChar]
      exact c.utf8Size_le_four
    unfold charAt?
    rw [List.take_append, List.take_of_length_le size, List.toByteArray_append]
    exact ByteArray.utf8DecodeChar?_utf8EncodeChar_append

theorem piecesAfter_eq (skipped : Nat) (bytes : Bytes) :
    piecesAfter skipped bytes = pieces (bytes.drop skipped) := by
  induction bytes generalizing skipped with
  | nil => simp [pieces, piecesAfter]
  | cons first rest ih =>
      cases skipped with
      | zero => rfl
      | succ skipped => rw [List.drop_succ_cons, piecesAfter, ih]

/-- A character at the start is the first part. -/
theorem pieces_encodeChar_append (c : Char) (rest : Bytes) :
    pieces (String.utf8EncodeChar c ++ rest) = .char c :: pieces rest := by
  have size := String.length_utf8EncodeChar c
  have start : charAt? (String.utf8EncodeChar c ++ rest) = some c :=
    charAt?_eq_some_iff.mpr ⟨rest, rfl⟩
  cases own : String.utf8EncodeChar c with
  | nil => exact absurd own String.utf8EncodeChar_ne_nil
  | cons first more =>
      rw [own] at start size
      have behind : (more ++ rest).drop (c.utf8Size - 1) = rest := by
        rw [← size, List.length_cons, Nat.add_sub_cancel, List.drop_left]
      rw [List.cons_append] at start ⊢
      simp only [pieces, piecesAfter, start]
      rw [piecesAfter_eq, behind]
      rfl

/-- What spells a text has its characters as parts. -/
theorem pieces_encode (text : List Char) : pieces (encode text) = text.map .char := by
  induction text with
  | nil => rfl
  | cons c rest ih =>
      unfold encode at ih ⊢
      rw [List.flatMap_cons, pieces_encodeChar_append, ih, List.map_cons]

/-- The parts make up the bytes. -/
theorem flatMap_pieces (bytes : Bytes) : (pieces bytes).flatMap Piece.bytes = bytes := by
  suffices whole : ∀ skipped, (piecesAfter skipped bytes).flatMap Piece.bytes = bytes.drop skipped
    from whole 0
  induction bytes with
  | nil => intro skipped; simp [piecesAfter]
  | cons first rest ih =>
      intro skipped
      cases skipped with
      | succ skipped => exact ih skipped
      | zero =>
          simp only [piecesAfter, List.drop_zero]
          cases start : charAt? (first :: rest) with
          | none =>
              rw [List.flatMap_cons, ih, Piece.bytes, List.cons_append, List.take_append_drop]
          | some c =>
              obtain ⟨behind, spelled⟩ := charAt?_eq_some_iff.mp start
              have size := String.length_utf8EncodeChar c
              rw [List.flatMap_cons, ih, Piece.bytes]
              cases own : String.utf8EncodeChar c with
              | nil => exact absurd own String.utf8EncodeChar_ne_nil
              | cons head more =>
                  rw [own] at size spelled
                  obtain ⟨rfl, rfl⟩ := List.cons.inj spelled
                  have left : (more ++ behind).drop (c.utf8Size - 1) = behind := by
                    rw [← size, List.length_cons, Nat.add_sub_cancel, List.drop_left]
                  exact congrArg (first :: more ++ ·) left

/-- What spells a text is shown as that text. -/
theorem shown_utf8 (text : String) : shown (utf8 text) = text := by
  rw [shown, utf8, pieces_encode, List.map_map]
  exact (congrArg String.ofList (List.map_id _)).trans String.ofList_toList

/-- Bytes spell a text exactly if they are its bytes. -/
theorem text?_eq_some_iff {bytes : Bytes} {text : String} :
    text? bytes = some text ↔ bytes = utf8 text := by
  constructor
  · intro spelled
    obtain ⟨same, isText⟩ := Option.ite_none_right_eq_some.mp spelled
    rw [← Option.some.inj isText, same]
  · rintro rfl
    rw [text?, shown_utf8, if_pos rfl]

theorem utf8_injective : Function.Injective utf8 := fun left right same => by
  rw [← shown_utf8 left, same, shown_utf8]

/-- A byte of ASCII at the start stands only for its own character. -/
theorem head?_encode {text : List Char} {c : Char} (ascii : c.toNat < 0x80) :
    (encode text).head? = some (UInt8.ofNat c.toNat) ↔ text.head? = some c := by
  cases text with
  | nil => simp [encode]
  | cons first rest =>
      have start : (encode (first :: rest)).head? = (String.utf8EncodeChar first).head? := by
        unfold encode
        rw [List.flatMap_cons, List.head?_append]
        exact Option.or_of_isSome (List.isSome_head?.mpr String.utf8EncodeChar_ne_nil)
      rw [start, List.head?_cons, Option.some.injEq, ← Char.toNat_inj]
      unfold String.utf8EncodeChar
      have value : first.val.toNat = first.toNat := rfl
      simp only [value]
      split
      · simp only [List.head?_cons, Option.some.injEq, ← UInt8.toNat_inj, UInt8.toNat_ofNat']
        omega
      · have differs : first.toNat ≠ c.toNat := by omega
        split
        · simp only [List.head?_cons, Option.some.injEq, ← UInt8.toNat_inj, UInt8.toNat_ofNat']
          omega
        · split
          all_goals
            simp only [List.head?_cons, Option.some.injEq, ← UInt8.toNat_inj, UInt8.toNat_ofNat']
            omega

end Text

end DocMarkers
