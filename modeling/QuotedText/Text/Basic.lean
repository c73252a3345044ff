/-!
# Text

Text is a list of characters, so that every law about it is a law about lists. Positions that
the outside world sees count the bytes of the UTF-8 encoding; `Text.byteLength` is that measure,
and `Text.byteLength_append` is what turns a cut of a text into positions.
-/

namespace QuotedText

/-- A text is the list of its characters. -/
abbrev Text := List Char

namespace Text

/-- The number of bytes in the UTF-8 encoding of a text. -/
def byteLength : Text → Nat
  | [] => 0
  | c :: rest => c.utf8Size + byteLength rest

@[simp] theorem byteLength_nil : byteLength [] = 0 := rfl

@[simp] theorem byteLength_cons (c : Char) (rest : Text) :
    byteLength (c :: rest) = c.utf8Size + byteLength rest := rfl

/-- The bytes of a text are those of its parts. -/
@[simp] theorem byteLength_append (front back : Text) :
    byteLength (front ++ back) = byteLength front + byteLength back := by
  induction front with
  | nil => simp
  | cons c rest ih => simp [ih, Nat.add_assoc]

end Text

end QuotedText
