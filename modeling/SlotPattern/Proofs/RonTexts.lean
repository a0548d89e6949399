import SlotPattern.Pattern.Ron
import SlotPattern.Proofs.QuotedTexts
import SlotPattern.Proofs.WellFormed

/-!
# Texts in RON are read back

The escapes of a written text are the ones that the reader of quoted texts undoes, whatever the
characters. So a document that consists of one written text has this text as its value, and a
pattern is read from it if and only if the text compiles.
-/

namespace SlotPattern

open Text

namespace Ron

/-! ### Documents -/

/-- Without space and headers at its front, a document is its datum. -/
theorem run_document {α : Type} {body : Bool → Reader α} {text : List Char}
    (hspace : Reader.dropSpace .blank text = some text) (hhead : text.head? ≠ some '#') :
    (Reader.document body).run text = (body false).run text := by
  simp [Reader.document, Reader.headersWithin, hspace, hhead]

theorem read?_writeText (s : String) :
    Document.read? (fun _ => Reader.text) (writeText s) = some ⟨s, true⟩ := by
  have htext : (writeText s).toList = '"' :: (escape s.toList ++ ['"']) := String.toList_ofList
  have hrun : (Reader.document fun _ => Reader.text).run (writeText s).toList = some (s, []) := by
    rw [run_document (by rw [htext]; rfl) (by simp [htext])]
    simp [Reader.text, readText_writeText]
  rw [Document.read?, hrun]
  rfl

end Ron

namespace Pattern

theorem ofRon_writeText (s : String) :
    ofRon (Ron.writeText s) = (compile s).mapError .parse := by
  simp only [ofRon, Ron.read?_writeText]
  cases compile s <;> rfl

/-- A compiled pattern is read back from its document, and from a written text what the text
compiles to, or the error of compiling it. -/
theorem ofRon_toRon :
    (∀ s p, compile s = .ok p → ofRon p.toRon = .ok p) ∧
      ∀ s, ofRon (Ron.writeText s) = (compile s).mapError .parse := by
  refine ⟨fun s p hp => ?_, ofRon_writeText⟩
  rw [toRon, ofRon_writeText, compile_text (wellFormed_of_compile hp)]
  rfl

/-- The literal needs every kind of escape: a quotation mark, a backslash that is itself the escape
of a brace, and an accent that does not show by itself. -/
theorem ofRon_toRon_escapes :
    ∃ p, compile "\"\\\x7b\u0301\x7ba\x7d" = .ok p ∧
      p.toRon = "\"\\\"\\\\\x7b\\u\x7b301\x7d\x7ba\x7d\"" ∧ ofRon p.toRon = .ok p := by
  let p : Pattern := ⟨[.literal "\"\x7b\u0301", .slot ⟨[⟨[.name "a"], .unconstrained⟩]⟩]⟩
  have hp : compile "\"\\\x7b\u0301\x7ba\x7d" = .ok p := by decide +kernel
  exact ⟨p, hp, by decide +kernel, ofRon_toRon.1 _ p hp⟩

end Pattern

end SlotPattern
