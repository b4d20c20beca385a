/-
  JobWatch.Text.Stream
  ────────────────────
  **STREAMS THAT TEXTS ARE WRITTEN TO.**

  A stream in memory takes every text. A stream that leads out of the process
  encodes what it takes, and refuses a text with a character that its encoding
  lacks: nothing of that text is written, and what was written before stays.

      takes out t    — the stream takes the text
      taken out ts   — what it has of texts that are written one by one, until
                       the first that it refuses
-/
import JobWatch.Text.CodePoint

namespace JobWatch

/-- A stream for texts, by its encoding. -/
structure TextStream where
  /-- The encoding has the character. -/
  encodes : CodePoint → Bool
  /-- Every encoding has the ASCII characters. -/
  ascii : ∀ c : CodePoint, c.isAscii = true → encodes c = true

namespace TextStream

/-- A stream in memory, which encodes nothing. -/
def memory : TextStream := ⟨fun _ => true, fun _ _ => rfl⟩

/-- A stream in UTF-8, which has no surrogates. -/
def utf8 : TextStream where
  encodes c := !c.isSurrogate
  ascii c h := by
    have hlt : c.val < 0x80 := of_decide_eq_true h
    have hbelow : decide (0xD800 ≤ c.val) = false := decide_eq_false (by omega)
    unfold CodePoint.isSurrogate CodePoint.within
    rw [hbelow]
    rfl

/-- The stream takes the text. -/
def takes (out : TextStream) (t : Text) : Bool := t.all out.encodes

/-- What the stream has of texts that are written one by one, until the first that it refuses. -/
def taken (out : TextStream) (ts : List Text) : Text := (ts.takeWhile out.takes).flatten

end TextStream

end JobWatch
