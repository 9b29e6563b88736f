namespace FreeOrder

/-- The characters that have the Unicode property `White_Space`. -/
def isBlank (c : Char) : Bool :=
  let code := c.toNat
  (0x09 ≤ code && code ≤ 0x0D) || code == 0x20 || code == 0x85 || code == 0xA0 || code == 0x1680 ||
    (0x2000 ≤ code && code ≤ 0x200A) || code == 0x2028 || code == 0x2029 || code == 0x202F ||
    code == 0x205F || code == 0x3000

namespace Text

/-- The text without the blanks it begins with. -/
def trimStart (text : List Char) : List Char :=
  text.dropWhile isBlank

/-- The text without the blanks it begins or ends with. -/
def trim (text : List Char) : List Char :=
  (trimStart (trimStart text).reverse).reverse

/-- A text that holds nothing but blanks. -/
def IsBlank (text : List Char) : Prop :=
  ∀ c ∈ text, isBlank c = true

instance (text : List Char) : Decidable (IsBlank text) :=
  List.decidableBAll (isBlank · = true) text

theorem trimStart_eq_nil_iff {text : List Char} : trimStart text = [] ↔ IsBlank text := by
  unfold trimStart
  induction text with
  | nil => simp [IsBlank]
  | cons c rest ih =>
    rw [List.dropWhile_cons]
    split <;> simp_all [IsBlank]

end Text

end FreeOrder
