import TypeCoverage.Text.Utf8

/-!
# Texts of octets

A text of octets holds one byte in each character: the character whose code point is the
value of the byte.  Programs that know nothing of encodings work on such texts, so that
lengths and patterns count bytes.  `octets` makes one of a text by its UTF-8 form, and
`ofOctets` gives back the text, without what is malformed.
-/

namespace TypeCoverage.Text

/-- The character that stands for a byte. -/
def charOfByte (b : UInt8) : Char := Char.ofNat b.toNat

/-- The text that holds some bytes. -/
def holding (bytes : List UInt8) : String := String.ofList (bytes.map charOfByte)

/-- The bytes that a text holds. -/
def held (s : String) : List UInt8 := s.toList.map fun c => c.toNat.toUInt8

/-- The bytes of a text in UTF-8, as a text that holds them. -/
def octets (s : String) : String := holding (encodeUtf8 s)

/-- The text whose bytes a text holds. -/
def ofOctets (s : String) : String := decodeDropping (held s)

theorem toNat_charOfByte (b : UInt8) :
  (charOfByte b).toNat = b.toNat
  := by
  have h : b.toNat.isValidChar := Or.inl (Nat.lt_trans (UInt8.toNat_lt b) (by decide))
  rw [charOfByte, Char.ofNat, dif_pos h]
  rfl

theorem held_holding (bytes : List UInt8) :
  held (holding bytes) = bytes
  := by
  simp only [held, holding, String.toList_ofList, List.map_map]
  rw [List.map_congr_left (g := id) fun b _ => by simp [toNat_charOfByte], List.map_id]

end TypeCoverage.Text
